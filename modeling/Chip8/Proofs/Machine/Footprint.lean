import Chip8.Proofs.Machine.InstructionSet
import Chip8.Proofs.Machine.Reach
import Chip8.Proofs.Memory.Bytes

namespace Chip8

/-- A surface on which drawing does not press keys. -/
class Surface.DrawsApart (σ : Type) [Surface σ] : Prop where
  isKeyPressed_clear : ∀ s : σ, isKeyPressed (clear s) = isKeyPressed s
  isKeyPressed_setPixel : ∀ (s : σ) (x y : Int) (on : Bool),
    isKeyPressed (setPixel s x y on) = isKeyPressed s

instance : Surface.DrawsApart Display := ⟨fun _ => rfl, fun _ _ _ _ => rfl⟩

instance : Surface.DrawsApart Recorder := ⟨fun _ => rfl, fun _ _ _ _ => rfl⟩

namespace Registers

theorem get_set_self (r : Registers) (x : Fin 16) (b : UInt8) : (r.set x b).get x = b := by
  show (r.v.set x b)[x.val] = b
  rw [Vector.getElem_set_self]

theorem get_set_of_ne (r : Registers) (x k : Fin 16) (b : UInt8) (h : k ≠ x) :
    (r.set x b).get k = r.get k := by
  have hne : x.val ≠ k.val := fun heq => h (Fin.ext heq.symm)
  change (r.v.set x b)[k.val] = r.v[k.val]
  rw [Vector.getElem_set, if_neg hne]

theorem alu_of_flag (r : Registers) (f : Alu) (x y : Fin 16) (bit : UInt8)
    (h : (f.eval (r.get x) (r.get y)).2 = some bit) :
    r.alu f x y = (r.set x (f.eval (r.get x) (r.get y)).1).set flag bit := by
  simp only [alu, h]

theorem alu_of_no_flag (r : Registers) (f : Alu) (x y : Fin 16)
    (h : (f.eval (r.get x) (r.get y)).2 = none) :
    r.alu f x y = r.set x (f.eval (r.get x) (r.get y)).1 := by
  simp only [alu, h]

theorem get_loadFrom (r : Registers) (memory : Memory) (count : Nat) (k : Fin 16) :
    (r.loadFrom memory count).get k =
      if k.val < count then memory.byte (r.i.toNat + k.val) else r.get k := by
  change (Vector.ofFn _)[k.val] = _
  rw [Vector.getElem_ofFn]

end Registers

theorem Memory.transferCount_le (i : Int) (x : Fin 16) : transferCount i x ≤ x.val + 1 := by
  unfold transferCount
  split <;> omega

def Instr.x? : Instr → Option (Fin 16)
  | .skipIf (.eqByte x _) | .skipIf (.neByte x _) | .skipIf (.eqReg x _) | .skipIf (.neReg x _)
  | .loadByte x _ | .addByte x _ | .alu _ x _ | .random x _ | .draw x _ _ | .skipKey x _
  | .readDelay x | .awaitKey x | .setDelay x | .setSound x | .addI x | .glyph x | .storeDigits x
  | .saveRegisters x | .loadRegisters x => some x
  | .clear | .ret | .jump _ | .call _ | .loadI _ | .jumpV0 _ => none

namespace Word

def fitsAny (w : Word) (forms : List String) : Bool := forms.any w.fits

theorem fitsAny_of_mem {w : Word} {form : String} {forms : List String} (h : w.fits form)
    (hmem : form ∈ forms) : w.fitsAny forms :=
  List.any_eq_true.mpr ⟨form, hmem, h⟩

theorem Encodes.x_eq {w : Word} {instr : Instr} (h : w.Encodes instr) (x : Fin 16)
    (hx : instr.x? = some x) : w.x = x := by
  have hall : ∀ e ∈ instructionSet, ∀ x, (e.2 w).x? = some x → w.x = x := by
    simp [instructionSet, Instr.x?]
  obtain ⟨e, he, rfl⟩ := List.mem_map.mp h.2
  exact hall e he x hx

theorem Encodes.eq_of_fits {w : Word} {instr : Instr} (h : w.Encodes instr)
    (e : String × (Word → Instr)) (he : e ∈ instructionSet) (hf : w.fits (e.2 w).form) :
    instr = e.2 w := by
  rw [← Option.some.injEq, ← (w.decode?_eq_some_iff instr).mpr h, w.decode?_of_fits e he hf]

theorem fits_alu (w : Word) (f : Alu) (h : w.fits f.form) : w.fits "8XYN" := by
  revert h
  cases f <;> simp +contextual [fits, Alu.form, formDigit?_digits]

end Word

def valueForms : List String := ["6XNN", "7XNN", "8XYN", "CXNN", "FX07", "FX65"]

def flagForms : List String := ["8XY4", "8XY5", "8XY6", "8XY7", "8XYE", "DXYN"]

namespace Machine

variable {σ : Type} [Surface σ]

/-- The ways in which the instructions change a machine, but for where the program goes on, with the
words that bring them about. -/
inductive Effect (m : Machine σ) (w : Word) : Machine σ → Prop where
  | nothing : Effect m w m
  | clear (h : w.fits "0NE0") : Effect m w { m with surface := Surface.clear m.surface }
  | ask : Effect m w (m.noteKey w.x)
  | stack (stack : List UInt16) (h : w.fitsAny ["2NNN", "0NEE"]) :
    Effect m w (m.mapRegisters fun r => { r with stack })
  | value (b : UInt8) (h : w.fitsAny valueForms) :
    Effect m w (m.mapRegisters fun r => r.set w.x b)
  | valueAndFlag (b bit : UInt8) (h : w.fitsAny valueForms) (hflag : w.fitsAny flagForms) :
    Effect m w (m.mapRegisters fun r => (r.set w.x b).set Registers.flag bit)
  | random (mask : UInt8) (h : w.fitsAny valueForms) (hr : w.fits "CXNN") :
    Effect m w (m.drawRandom w.x mask)
  | draw (cells : List (Int × Int)) (bit : UInt8) (h : w.fits "DXYN") :
    Effect m w { m with
      surface := (Surface.flipAll m.surface cells).1
      registers := m.registers.set Registers.flag bit }
  | index (i : Int) (h : w.fitsAny ["ANNN", "FX1E", "FX29"]) :
    Effect m w (m.mapRegisters fun r => { r with i })
  | delay (dt : Int) (h : w.fits "FX15") : Effect m w (m.mapRegisters fun r => { r with dt })
  | sound (st : Int) (h : w.fits "FX18") : Effect m w (m.mapRegisters fun r => { r with st })
  | await (h : w.fits "FX0A") : Effect m w { m with mode := .awaitingKey w.x }
  | digits (bytes : List UInt8) (h : w.fits "FX33") (hi : 0 ≤ m.registers.i)
    (hlength : bytes.length = 3) :
    Effect m w { m with memory := m.memory.write m.registers.i.toNat bytes }
  | save (bytes : List UInt8) (i : Int) (h : w.fits "FX55")
    (hi : 0 < bytes.length → 0 ≤ m.registers.i) (hlength : bytes.length ≤ w.x.val + 1) :
    Effect m w { m with
      memory := m.memory.write m.registers.i.toNat bytes
      registers := { m.registers with i } }
  | load (v : Vector UInt8 16) (i : Int) (h : w.fits "FX65")
    (hv : ∀ k, v.get k ≠ m.registers.get k → k ≤ w.x) :
    Effect m w { m with registers := { m.registers with v, i } }

theorem effect_of_alu (m : Machine σ) (w : Word) (f : Alu) (x y : Fin 16)
    (henc : w.Encodes (.alu f x y)) : m.Effect w (m.mapRegisters fun r => r.alu f x y) := by
  obtain rfl := henc.x_eq x rfl
  have hv : w.fitsAny valueForms :=
    Word.fitsAny_of_mem (w.fits_alu f henc.1) (by simp [valueForms])
  cases hbit : (f.eval (m.registers.get w.x) (m.registers.get y)).2 with
  | none =>
    simp only [mapRegisters, m.registers.alu_of_no_flag f w.x y hbit]
    exact .value _ hv
  | some bit =>
    simp only [mapRegisters, m.registers.alu_of_flag f w.x y bit hbit]
    refine .valueAndFlag _ bit hv (Word.fitsAny_of_mem henc.1 ?_)
    cases f <;> simp [Alu.eval] at hbit <;> simp [Instr.form, Alu.form, flagForms]

theorem effect_of_save (m : Machine σ) (w : Word) (h : w.fits "FX55") :
    m.Effect w (m.saveRegisters w.x) := by
  have hle := Memory.transferCount_le m.registers.i w.x
  simp only [Machine.saveRegisters, Registers.addI]
  refine .save _ _ h ?_ ?_
  · intro hpos
    rw [List.length_take] at hpos
    exact (Memory.transferCount_bounds m.registers.i w.x (by omega)).1
  · rw [List.length_take]
    omega

theorem effect_of_load (m : Machine σ) (w : Word) (h : w.fits "FX65") :
    m.Effect w (m.loadRegisters w.x) := by
  have hle := Memory.transferCount_le m.registers.i w.x
  simp only [Machine.loadRegisters, Registers.addI, Registers.loadFrom]
  refine .load _ _ h ?_
  intro k hk
  by_cases hreached : k.val < Memory.transferCount m.registers.i w.x
  · exact Fin.le_def.mpr (by omega)
  · exact absurd ((m.registers.get_loadFrom m.memory _ k).trans (if_neg hreached)) hk

theorem effect_of_perform (m n : Machine σ) (w : Word) (instr : Instr) (next : Int)
    (henc : w.Encodes instr) (h : m.perform instr = .ok next n) : m.Effect w n := by
  -- Four instructions can be refused, and are taken apart; the others are performed as they stand.
  cases instr with
  | clear =>
    cases h
    exact .clear henc.1
  | ret =>
    cases hs : m.registers.stack with
    | nil => simp [perform, Registers.pop, hs] at h
    | cons addr rest =>
      simp only [perform, Registers.pop, hs, EStateM.Result.ok.injEq] at h
      rw [← h.2]
      exact .stack rest (Word.fitsAny_of_mem henc.1 (by simp [Instr.form]))
  | call target =>
    by_cases hd : m.registers.stack.length < Registers.stackDepth
    · simp only [perform, Registers.push, if_pos hd, EStateM.Result.ok.injEq] at h
      rw [← h.2]
      exact .stack _ (Word.fitsAny_of_mem henc.1 (by simp [Instr.form]))
    · simp [perform, Registers.push, hd] at h
  | jump target =>
    cases h
    exact .nothing
  | jumpV0 base =>
    cases h
    exact .nothing
  | skipIf condition =>
    cases h
    exact .nothing
  | loadByte x nn =>
    obtain rfl := henc.x_eq x rfl
    cases h
    exact .value nn (Word.fitsAny_of_mem henc.1 (by simp [Instr.form, valueForms]))
  | addByte x nn =>
    obtain rfl := henc.x_eq x rfl
    cases h
    exact .value _ (Word.fitsAny_of_mem henc.1 (by simp [Instr.form, valueForms]))
  | alu f x y =>
    cases h
    exact effect_of_alu m w f x y henc
  | loadI addr =>
    cases h
    exact .index _ (Word.fitsAny_of_mem henc.1 (by simp [Instr.form]))
  | random x mask =>
    obtain rfl := henc.x_eq x rfl
    cases h
    exact .random mask (Word.fitsAny_of_mem henc.1 (by simp [Instr.form, valueForms])) henc.1
  | draw x y rows =>
    by_cases hb : Memory.Holds m.registers.i rows.val
    · simp only [perform, Machine.draw, Memory.block, if_pos hb, EStateM.Result.ok.injEq] at h
      rw [← h.2]
      exact .draw _ _ henc.1
    · simp [perform, Machine.draw, Memory.block, hb] at h
  | skipKey x held =>
    obtain rfl := henc.x_eq x rfl
    cases h
    exact .ask
  | readDelay x =>
    obtain rfl := henc.x_eq x rfl
    cases h
    exact .value _ (Word.fitsAny_of_mem henc.1 (by simp [Instr.form, valueForms]))
  | awaitKey x =>
    obtain rfl := henc.x_eq x rfl
    cases h
    exact .await henc.1
  | setDelay x =>
    cases h
    exact .delay _ henc.1
  | setSound x =>
    cases h
    exact .sound _ henc.1
  | addI x =>
    cases h
    exact .index _ (Word.fitsAny_of_mem henc.1 (by simp [Instr.form]))
  | glyph x =>
    cases h
    exact .index _ (Word.fitsAny_of_mem henc.1 (by simp [Instr.form]))
  | storeDigits x =>
    by_cases hi : Memory.Holds m.registers.i 3
    · have hload : m.memory.load m.registers.i (decimalDigits (m.registers.get x)) =
          .ok (m.memory.write m.registers.i.toNat (decimalDigits (m.registers.get x))) := if_pos hi
      simp only [perform, Machine.storeDigits, hload, EStateM.Result.ok.injEq] at h
      rw [← h.2]
      exact .digits _ henc.1 hi.1 rfl
    · simp [perform, Machine.storeDigits, Memory.load, decimalDigits, hi] at h
  | saveRegisters x =>
    obtain rfl := henc.x_eq x rfl
    cases h
    exact effect_of_save m w henc.1
  | loadRegisters x =>
    obtain rfl := henc.x_eq x rfl
    cases h
    exact effect_of_load m w henc.1

namespace Effect

variable {m n : Machine σ} {w : Word}

theorem memory_changed (h : m.Effect w n) (k : Nat) (hk : n.memory.byte k ≠ m.memory.byte k) :
    w.fits "FX33" ∧ m.registers.i ≤ k ∧ k < m.registers.i + 3 ∨
      w.fits "FX55" ∧ m.registers.i ≤ k ∧ k ≤ m.registers.i + w.x.val := by
  cases h with
  | digits bytes hw hi hlength =>
    left
    have hinside := mt (Memory.byte_write_of_outside m.memory m.registers.i.toNat k bytes) hk
    exact ⟨hw, by omega, by omega⟩
  | save bytes i hw hi hlength =>
    right
    have hinside := mt (Memory.byte_write_of_outside m.memory m.registers.i.toNat k bytes) hk
    exact ⟨hw, by omega, by omega⟩
  | _ => exact absurd rfl hk

theorem pixel_changed [Surface.Steady σ] (h : m.Effect w n)
    (hp : Surface.pixel n.surface ≠ Surface.pixel m.surface) : w.fitsAny ["0NE0", "DXYN"] := by
  cases h with
  | clear hw => exact Word.fitsAny_of_mem hw (by simp)
  | draw cells bit hw => exact Word.fitsAny_of_mem hw (by simp)
  | ask => exact absurd (Surface.Steady.pixel_noteRead _ _) hp
  | _ => exact absurd rfl hp

theorem isKeyPressed_eq [Surface.Steady σ] [Surface.DrawsApart σ] (h : m.Effect w n) :
    Surface.isKeyPressed n.surface = Surface.isKeyPressed m.surface := by
  cases h with
  | clear => exact Surface.DrawsApart.isKeyPressed_clear _
  | ask => exact Surface.Steady.isKeyPressed_noteRead _ _
  | draw cells bit =>
    apply flipAll_surface fun s => Surface.isKeyPressed s = Surface.isKeyPressed m.surface
    · intro s x y on hs
      exact (Surface.DrawsApart.isKeyPressed_setPixel s x y on).trans hs
    · intro s q hs
      exact (Surface.Steady.isKeyPressed_noteRead s q).trans hs
    · rfl
  | _ => rfl

theorem stack_changed (h : m.Effect w n) (hs : n.registers.stack ≠ m.registers.stack) :
    w.fitsAny ["2NNN", "0NEE"] := by
  cases h with
  | stack _ hw => exact hw
  | _ => exact absurd rfl hs

theorem dt_changed (h : m.Effect w n) (hd : n.registers.dt ≠ m.registers.dt) : w.fits "FX15" := by
  cases h with
  | delay _ hw => exact hw
  | _ => exact absurd rfl hd

theorem st_changed (h : m.Effect w n) (hs : n.registers.st ≠ m.registers.st) : w.fits "FX18" := by
  cases h with
  | sound _ hw => exact hw
  | _ => exact absurd rfl hs

theorem i_changed (h : m.Effect w n) (hi : n.registers.i ≠ m.registers.i) :
    w.fitsAny ["ANNN", "FX1E", "FX29", "FX55", "FX65"] := by
  cases h with
  | index _ hw =>
    obtain ⟨form, hform, hfits⟩ := List.any_eq_true.mp hw
    exact Word.fitsAny_of_mem hfits (List.mem_append_left ["FX55", "FX65"] hform)
  | save bytes i hw => exact Word.fitsAny_of_mem hw (by simp)
  | load v i hw => exact Word.fitsAny_of_mem hw (by simp)
  | _ => exact absurd rfl hi

theorem mode_changed (h : m.Effect w n) (hm : n.mode ≠ m.mode) : w.fits "FX0A" := by
  cases h with
  | await hw => exact hw
  | _ => exact absurd rfl hm

theorem v_changed (h : m.Effect w n) (k : Fin 16) (hk : n.registers.get k ≠ m.registers.get k) :
    k = w.x ∧ w.fitsAny valueForms ∨ k ≤ w.x ∧ w.fits "FX65" ∨
      k = Registers.flag ∧ w.fitsAny flagForms := by
  have hset (x : Fin 16) (r : Registers) (b : UInt8) (h : (r.set x b).get k ≠ r.get k) : k = x :=
    Decidable.of_not_not (mt (r.get_set_of_ne x k b) h)
  cases h with
  | value b hw => exact Or.inl ⟨hset w.x _ b hk, hw⟩
  | valueAndFlag b bit hw hflag =>
    -- The flag is stored last, so that in VF nothing is seen of the value.
    by_cases hf : k = Registers.flag
    · exact Or.inr (Or.inr ⟨hf, hflag⟩)
    · refine Or.inl ⟨hset w.x m.registers b ?_, hw⟩
      rwa [← (m.registers.set w.x b).get_set_of_ne Registers.flag k bit hf]
  | random mask hw => exact Or.inl ⟨hset w.x _ _ hk, hw⟩
  | draw cells bit hw =>
    exact Or.inr (Or.inr ⟨hset Registers.flag _ bit hk,
      Word.fitsAny_of_mem hw (by simp [flagForms])⟩)
  | load v i hw hv => exact Or.inr (Or.inl ⟨hv k hk, hw⟩)
  | _ => exact absurd rfl hk

theorem random_changed (h : m.Effect w n) (hr : n.random ≠ m.random) : w.fits "CXNN" := by
  cases h with
  | random mask _ hw => exact hw
  | _ => exact absurd rfl hr

end Effect

def skipForms : List String := ["3XNN", "4XNN", "5XYN", "9XYN", "EX9E", "EXA1"]

def jumpForms : List String := ["1NNN", "2NNN", "BNNN", "0NEE"]

theorem next_of_flow (w : Word) (r : Registers) (instr : Instr) (next : Int) (stack : List UInt16)
    (henc : w.Encodes instr) (hflow : Flow r instr next stack) (hjump : ¬ w.fitsAny jumpForms) :
    next = r.pc + 2 ∨ w.fitsAny skipForms ∧ next = r.pc + 4 := by
  cases hflow with
  | next => exact Or.inl rfl
  | skip condition =>
    refine Or.inr ⟨Word.fitsAny_of_mem henc.1 ?_, rfl⟩
    cases condition <;> simp [Instr.form, skipForms]
  | skipKey x held =>
    refine Or.inr ⟨Word.fitsAny_of_mem henc.1 ?_, rfl⟩
    cases held <;> simp [Instr.form, skipForms]
  | jump | call | jumpV0 | ret =>
    exact absurd (Word.fitsAny_of_mem henc.1 (by simp [Instr.form, jumpForms])) hjump

/-- The second machine differs from the first only in what a word of its form may change. -/
structure ChangedOnlyBy (w : Word) (m m' : Machine σ) : Prop where
  memory : ∀ k : Nat, m'.memory.byte k ≠ m.memory.byte k →
    w.fits "FX33" ∧ m.registers.i ≤ k ∧ k < m.registers.i + 3 ∨
      w.fits "FX55" ∧ m.registers.i ≤ k ∧ k ≤ m.registers.i + w.x.val
  pixel : Surface.pixel m'.surface ≠ Surface.pixel m.surface → w.fitsAny ["0NE0", "DXYN"]
  isKeyPressed : Surface.isKeyPressed m'.surface = Surface.isKeyPressed m.surface
  stack : m'.registers.stack ≠ m.registers.stack → w.fitsAny ["2NNN", "0NEE"]
  dt : m'.registers.dt ≠ m.registers.dt → w.fits "FX15"
  st : m'.registers.st ≠ m.registers.st → w.fits "FX18"
  i : m'.registers.i ≠ m.registers.i → w.fitsAny ["ANNN", "FX1E", "FX29", "FX55", "FX65"]
  mode : m'.mode ≠ m.mode → w.fits "FX0A"
  v : ∀ k, m'.registers.get k ≠ m.registers.get k →
    k = w.x ∧ w.fitsAny valueForms ∨ k ≤ w.x ∧ w.fits "FX65" ∨
      k = Registers.flag ∧ w.fitsAny flagForms
  random : m'.random = if w.fits "CXNN" then m.random.next.2 else m.random
  jump : w.fitsAny ["1NNN", "2NNN"] → m'.registers.pc = w.nnn.val
  jumpV0 : w.fits "BNNN" →
    m'.registers.pc = w.nnn.val + ((m.registers.get Registers.first).toNat : Int)
  ret : w.fits "0NEE" → ∃ addr : UInt16,
    m.registers.stack = addr :: m'.registers.stack ∧ m'.registers.pc = addr.toNat
  next : ¬ w.fitsAny jumpForms → m'.registers.pc = (m.registers.pc + 2) % 65536 ∨
    w.fitsAny skipForms ∧ m'.registers.pc = (m.registers.pc + 4) % 65536
  halted : m'.halted = m.halted
  cycles : m'.cycles = m.cycles

theorem executeWord_ok (m m' : Machine σ) (w : Word) (h : m.executeWord w = .ok () m') :
    ∃ instr next n, w.Encodes instr ∧ m.perform instr = .ok next n ∧ m' = n.setPc next := by
  unfold executeWord at h
  cases hd : w.decode? with
  | none => simp [hd, refuse] at h
  | some instr =>
    cases hp : m.perform instr with
    | error fault n => simp [hd, hp] at h
    | ok next n =>
      simp only [hd, hp, EStateM.Result.ok.injEq, true_and] at h
      exact ⟨instr, next, n, w.encodes_of_decode? instr hd, hp, h.symm⟩

theorem random_of_perform (m n : Machine σ) (w : Word) (instr : Instr) (next : Int)
    (henc : w.Encodes instr) (h : m.perform instr = .ok next n) :
    n.random = if w.fits "CXNN" then m.random.next.2 else m.random := by
  by_cases hw : w.fits "CXNN"
  · have hinstr : instr = .random w.x w.nn :=
      henc.eq_of_fits ("CXNN", fun w => .random w.x w.nn) (by simp [instructionSet]) hw
    subst hinstr
    cases h
    rw [if_pos hw]
    rfl
  · rw [if_neg hw]
    have hchanged := (effect_of_perform m n w instr next henc h).random_changed
    exact Classical.not_not.mp (mt hchanged hw)

theorem target_of_perform (m n : Machine σ) (w : Word) (instr : Instr) (next : Int)
    (henc : w.Encodes instr) (h : m.perform instr = .ok next n)
    (hw : w.fitsAny ["1NNN", "2NNN"]) : next = w.nnn.val := by
  obtain ⟨form, hmem, hfits⟩ := List.any_eq_true.mp hw
  simp only [List.mem_cons, List.not_mem_nil, or_false] at hmem
  rcases hmem with rfl | rfl
  · have hinstr : instr = .jump w.nnn :=
      henc.eq_of_fits ("1NNN", fun w => .jump w.nnn) (by simp [instructionSet]) hfits
    subst hinstr
    cases h
    rfl
  · have hinstr : instr = .call w.nnn :=
      henc.eq_of_fits ("2NNN", fun w => .call w.nnn) (by simp [instructionSet]) hfits
    subst hinstr
    have hflow := perform_flow m n _ next h
    generalize n.registers.stack = stack at hflow
    cases hflow with
    | next _ hjump => cases hjump
    | call => rfl

theorem target_of_jumpV0 (m n : Machine σ) (w : Word) (instr : Instr) (next : Int)
    (henc : w.Encodes instr) (h : m.perform instr = .ok next n) (hw : w.fits "BNNN") :
    next = w.nnn.val + ((m.registers.get Registers.first).toNat : Int) := by
  have hinstr : instr = .jumpV0 w.nnn :=
    henc.eq_of_fits ("BNNN", fun w => .jumpV0 w.nnn) (by simp [instructionSet]) hw
  subst hinstr
  cases h
  exact Int.natCast_add _ _

theorem target_of_ret (m n : Machine σ) (w : Word) (instr : Instr) (next : Int)
    (henc : w.Encodes instr) (h : m.perform instr = .ok next n) (hw : w.fits "0NEE") :
    ∃ addr : UInt16, m.registers.stack = addr :: n.registers.stack ∧ next = addr.toNat := by
  have hinstr : instr = .ret :=
    henc.eq_of_fits ("00EE", fun _ => .ret) (by simp [instructionSet]) hw
  subst hinstr
  simpa [Instr.calls, Instr.returns] using (perform_flow m n .ret next h).stack_cases

/-- Whatever a word finds in the registers and in memory, and whichever registers it names, it
changes no more than its form says. -/
theorem execute_changed_only_by [Surface.Steady σ] [Surface.DrawsApart σ] (m m' : Machine σ)
    (word : Int) (h : m.execute word = .ok () m') : ChangedOnlyBy (Word.ofInt word) m m' := by
  obtain ⟨instr, next, n, henc, hp, rfl⟩ := executeWord_ok m m' (Word.ofInt word) h
  have heffect := effect_of_perform m n _ instr next henc hp
  have hflow := perform_flow m n instr next hp
  have hkept := perform_halted_cycles m instr
  rw [hp, left_ok] at hkept
  exact {
    memory := heffect.memory_changed
    pixel := heffect.pixel_changed
    isKeyPressed := heffect.isKeyPressed_eq
    stack := heffect.stack_changed
    dt := heffect.dt_changed
    st := heffect.st_changed
    i := heffect.i_changed
    mode := heffect.mode_changed
    v := heffect.v_changed
    random := random_of_perform m n _ instr next henc hp
    jump := fun hw => by
      have htarget := target_of_perform m n _ instr next henc hp hw
      simp only [setPc]
      omega
    jumpV0 := fun hw => by
      have htarget := target_of_jumpV0 m n _ instr next henc hp hw
      have hv := (m.registers.get Registers.first).toNat_lt
      simp only [setPc]
      omega
    ret := fun hw => by
      obtain ⟨addr, hs, htarget⟩ := target_of_ret m n _ instr next henc hp hw
      have hlt := addr.toNat_lt
      refine ⟨addr, hs, ?_⟩
      simp only [setPc]
      omega
    next := fun hw => by
      rcases next_of_flow _ m.registers instr next _ henc hflow hw with hnext | ⟨hskip, hnext⟩
      · exact Or.inl (congrArg (· % 65536) hnext)
      · exact Or.inr ⟨hskip, congrArg (· % 65536) hnext⟩
    halted := hkept.1
    cycles := hkept.2 }

/-- An addition of VF to itself, of which the flag is all that remains. -/
theorem execute_changed_only_by_aliased :
    let m : Machine Display :=
      { surface := .standard, random := .zeros, registers := { v := .replicate 16 0x81 } }
    let m' := (m.mapRegisters fun r => r.alu .add Registers.flag Registers.flag).setPc 0x202
    m.execute 0x8FF4 = .ok () m' ∧ ChangedOnlyBy 0x8FF4 m m' ∧
      m'.registers.get Registers.flag = 1 ∧ m'.registers.get Registers.first = 0x81 := by
  intro m m'
  have h : m.execute 0x8FF4 = .ok () m' := rfl
  exact ⟨h, execute_changed_only_by m m' 0x8FF4 h, by decide +kernel, by decide +kernel⟩

end Machine

end Chip8
