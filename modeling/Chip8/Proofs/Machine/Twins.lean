import Chip8.Proofs.Machine.Event

namespace Chip8

/-- The coordinates of a pixel that a sprite can reach: its corner stands at a pair of bytes, and it is
eight pixels wide and at most fifteen high. -/
def Surface.InReach (x y : Int) : Prop := (0 ≤ x ∧ x ≤ 262) ∧ 0 ≤ y ∧ y ≤ 269

/-- A relation between surfaces of two kinds that a machine cannot tell apart: its calls keep it, and
are answered alike. Of pixels it gets no others than those within reach. -/
structure Surface.Indistinct {σ τ : Type} [Surface σ] [Surface τ] (R : σ → τ → Prop) : Prop where
  clear : ∀ {s t}, R s t → R (clear s) (clear t)
  pixel : ∀ {s t} x y, InReach x y → R s t → pixel s x y = pixel t x y
  setPixel : ∀ {s t} x y on, InReach x y → R s t → R (setPixel s x y on) (setPixel t x y on)
  isKeyPressed : ∀ {s t} k, R s t → isKeyPressed s k = isKeyPressed t k
  setKey : ∀ {s t} k pressed, R s t → R (setKey s k pressed) (setKey t k pressed)
  notePixel : ∀ {s t} x y, InReach x y → R s t →
    R (noteRead s (.pixel x y)) (noteRead t (.pixel x y))
  noteKey : ∀ {s t} k, R s t → R (noteRead s (.key k)) (noteRead t (.key k))

/-- A sprite of at most fifteen rows at a pair of bytes stays within reach. -/
theorem inReach_of_mem_spriteCells (a b : UInt8) (sprite : List UInt8) (h : sprite.length ≤ 15)
    (cell : Int × Int) (hcell : cell ∈ spriteCells a.toNat b.toNat sprite) :
    Surface.InReach cell.1 cell.2 := by
  obtain ⟨⟨bits, row⟩, hrow, hmem⟩ := List.mem_flatMap.mp hcell
  obtain ⟨column, hcolumn, hsome⟩ := List.mem_filterMap.mp hmem
  have hrow' := (List.mem_zipIdx' hrow).1
  have hcolumn' := List.mem_range.mp hcolumn
  have ha := a.toNat_lt
  have hb := b.toNat_lt
  split at hsome
  · rw [Option.some.injEq] at hsome
    rw [← hsome]
    unfold Surface.InReach
    omega
  · cases hsome

inductive Reply where
  | done
  | stepped (executed : Bool)
  | ran (count : Nat)
  | popped (addr : UInt16)
  | refused (fault : Fault)
deriving DecidableEq, Repr

namespace Machine

def told {σ α : Type} (tell : α → Reply) : Outcome σ α → Reply
  | .ok a _ => tell a
  | .error fault _ => .refused fault

def toldOf {α : Type} (tell : α → Reply) : Except Fault α → Reply
  | .ok a => tell a
  | .error fault => .refused fault

def reply {σ : Type} [Surface σ] (m : Machine σ) : Event → Reply
  | .loadProgram data => told (fun _ => .done) (m.loadProgram data)
  | .load addr data => toldOf (fun _ => .done) (m.memory.load addr data)
  | .poke addr value => toldOf (fun _ => .done) (m.memory.poke addr value)
  | .step => told .stepped m.step
  | .run stopAtZero limit => told .ran (m.run stopAtZero limit.toNat)
  | .execute word => told (fun _ => .done) (m.execute word)
  | .awaitKey register => told (fun _ => .done) (m.awaitKey register)
  | .setV index value => toldOf (fun _ => .done) (m.registers.setV index value)
  | .push addr => toldOf (fun _ => .done) (m.registers.push addr)
  | .pop => toldOf (fun p => .popped p.1) m.registers.pop
  | .tick | .pressKey _ | .releaseKey _ | .setPc _ => .done

section

variable {σ τ : Type} {R : σ → τ → Prop}

def on (m : Machine σ) (t : τ) : Machine τ := { m with surface := t }

def endOn {α : Type} (o : Outcome σ α) (t : τ) : Outcome τ α :=
  match o with
  | .ok a m => .ok a (m.on t)
  | .error fault m => .error fault (m.on t)

def Twins (R : σ → τ → Prop) (m : Machine σ) (n : Machine τ) : Prop :=
  ∃ t, R m.surface t ∧ n = m.on t

/-- Operations that end alike and leave twins. -/
def TwinEnds (R : σ → τ → Prop) {α : Type} (o : Outcome σ α) (o' : Outcome τ α) : Prop :=
  ∃ t, R (left o).surface t ∧ o' = endOn o t

theorem TwinEnds.left {α : Type} {o : Outcome σ α} {o' : Outcome τ α}
    (h : TwinEnds R o o') : Twins R (Machine.left o) (Machine.left o') := by
  obtain ⟨t, ht, rfl⟩ := h
  refine ⟨t, ht, ?_⟩
  cases o <;> rfl

theorem TwinEnds.told_eq {α : Type} {o : Outcome σ α} {o' : Outcome τ α}
    (h : TwinEnds R o o') (tell : α → Reply) : told tell o' = told tell o := by
  obtain ⟨t, -, rfl⟩ := h
  cases o <;> rfl

theorem loadProgram_twinEnds (m : Machine σ) (t : τ) (h : R m.surface t) (data : List UInt8) :
    TwinEnds R (m.loadProgram data) ((m.on t).loadProgram data) := by
  simp only [loadProgram, on]
  cases m.memory.loadProgram data with
  | ok memory => exact ⟨t, h, rfl⟩
  | error fault => exact ⟨t, h, rfl⟩

theorem awaitKey_twinEnds (m : Machine σ) (t : τ) (h : R m.surface t) (register : Int) :
    TwinEnds R (m.awaitKey register) ((m.on t).awaitKey register) := by
  simp only [awaitKey, on]
  cases Registers.index? register with
  | some x => exact ⟨t, h, rfl⟩
  | none => exact ⟨t, h, rfl⟩

theorem withMemory_twins (m : Machine σ) (t : τ) (h : R m.surface t)
    (memory : Except Fault Memory) : Twins R (m.withMemory memory) ((m.on t).withMemory memory) := by
  cases memory with
  | ok memory => exact ⟨t, h, rfl⟩
  | error fault => exact ⟨t, h, rfl⟩

theorem withRegisters_twins (m : Machine σ) (t : τ) (h : R m.surface t)
    (registers : Except Fault Registers) :
    Twins R (m.withRegisters registers) ((m.on t).withRegisters registers) := by
  cases registers with
  | ok registers => exact ⟨t, h, rfl⟩
  | error fault => exact ⟨t, h, rfl⟩

theorem inReach_of_mem_sprite (m : Machine σ) (x y rows : Fin 16) (sprite : List UInt8)
    (hsprite : m.memory.block m.registers.i rows.val = .ok sprite) (cell : Int × Int)
    (hcell : cell ∈ spriteCells (m.registers.get x).toNat (m.registers.get y).toNat sprite) :
    Surface.InReach cell.1 cell.2 := by
  apply inReach_of_mem_spriteCells _ _ sprite _ cell hcell
  unfold Memory.block at hsprite
  split at hsprite
  · rw [Except.ok.injEq] at hsprite
    rw [← hsprite, List.length_map, List.length_range]
    omega
  · cases hsprite

end

variable {σ τ : Type} [Surface σ] [Surface τ] {R : σ → τ → Prop}

theorem flips_indistinct (k : Surface.Indistinct R) (cells : List (Int × Int))
    (hcells : ∀ cell ∈ cells, Surface.InReach cell.1 cell.2) (seen : Bool) (s : σ) (t : τ)
    (h : R s t) :
    R (cells.foldl Surface.flip (s, seen)).1 (cells.foldl Surface.flip (t, seen)).1 ∧
      (cells.foldl Surface.flip (t, seen)).2 = (cells.foldl Surface.flip (s, seen)).2 := by
  induction cells generalizing seen s t with
  | nil => exact ⟨h, rfl⟩
  | cons cell cells ih =>
    have hreach := hcells cell List.mem_cons_self
    have hrest : ∀ c ∈ cells, Surface.InReach c.1 c.2 :=
      fun c hc => hcells c (List.mem_cons_of_mem cell hc)
    have hlit := k.pixel cell.1 cell.2 hreach h
    have hnote := k.notePixel cell.1 cell.2 hreach h
    simp only [List.foldl_cons, Surface.flip, ← hlit]
    exact ih hrest _ _ _ (k.setPixel _ _ _ hreach hnote)

theorem draw_twinEnds (k : Surface.Indistinct R) (m : Machine σ) (t : τ) (h : R m.surface t)
    (x y rows : Fin 16) : TwinEnds R (m.draw x y rows) ((m.on t).draw x y rows) := by
  cases hb : m.memory.block m.registers.i rows.val with
  | error fault =>
    simp only [draw, on, hb]
    exact ⟨t, h, rfl⟩
  | ok sprite =>
    obtain ⟨hsurface, hcollision⟩ := flips_indistinct k
      (spriteCells (m.registers.get x).toNat (m.registers.get y).toNat sprite)
      (inReach_of_mem_sprite m x y rows sprite hb) false m.surface t h
    simp only [draw, on, hb, Surface.flipAll, hcollision]
    exact ⟨_, hsurface, rfl⟩

theorem perform_twinEnds (k : Surface.Indistinct R) (m : Machine σ) (t : τ) (h : R m.surface t)
    (instr : Instr) : TwinEnds R (m.perform instr) ((m.on t).perform instr) := by
  cases instr with
  | clear => exact ⟨_, k.clear h, rfl⟩
  | skipKey x held =>
    have hkey : (m.on t).keyHeld x = m.keyHeld x := (k.isKeyPressed _ h).symm
    simp only [perform, hkey]
    exact ⟨_, k.noteKey (m.registers.get x).toNat h, rfl⟩
  | draw x y rows =>
    obtain ⟨t', ht', heq⟩ := draw_twinEnds k m t h x y rows
    simp only [perform, heq]
    cases hd : m.draw x y rows with
    | ok a n => exact ⟨t', by rwa [hd] at ht', rfl⟩
    | error fault n => exact ⟨t', by rwa [hd] at ht', rfl⟩
  | ret =>
    cases hr : m.registers.pop with
    | ok p =>
      simp only [perform, on, hr]
      exact ⟨t, h, rfl⟩
    | error fault =>
      simp only [perform, on, hr]
      exact ⟨t, h, rfl⟩
  | call target =>
    cases hr : m.registers.push (m.registers.pc + 2) with
    | ok r =>
      simp only [perform, on, hr]
      exact ⟨t, h, rfl⟩
    | error fault =>
      simp only [perform, on, hr]
      exact ⟨t, h, rfl⟩
  | storeDigits x =>
    cases hl : m.memory.load m.registers.i (decimalDigits (m.registers.get x)) with
    | ok memory =>
      simp only [perform, storeDigits, on, hl]
      exact ⟨t, h, rfl⟩
    | error fault =>
      simp only [perform, storeDigits, on, hl]
      exact ⟨t, h, rfl⟩
  | _ => exact ⟨t, h, rfl⟩

theorem executeWord_twinEnds (k : Surface.Indistinct R) (m : Machine σ) (t : τ)
    (h : R m.surface t) (w : Word) : TwinEnds R (m.executeWord w) ((m.on t).executeWord w) := by
  unfold executeWord
  cases w.decode? with
  | none =>
    -- A word of the key group asks the keypad before it is refused.
    by_cases hw : w.group.val = 0xE
    · simp only [refuse, if_pos hw]
      exact ⟨_, k.noteKey (m.registers.get w.x).toNat h, rfl⟩
    · simp only [refuse, if_neg hw]
      exact ⟨t, h, rfl⟩
  | some instr =>
    obtain ⟨t', ht', heq⟩ := perform_twinEnds k m t h instr
    simp only [heq]
    cases hp : m.perform instr with
    | ok next n => exact ⟨t', by rwa [hp] at ht', rfl⟩
    | error fault n => exact ⟨t', by rwa [hp] at ht', rfl⟩

theorem step_twinEnds (k : Surface.Indistinct R) (m : Machine σ) (t : τ) (h : R m.surface t) :
    TwinEnds R m.step (m.on t).step := by
  have hmode : (m.on t).mode = m.mode := rfl
  have hfetch : (m.on t).fetch = m.fetch := rfl
  simp only [step, hmode, hfetch]
  cases m.mode with
  | awaitingKey x => exact ⟨t, h, rfl⟩
  | running =>
    cases m.fetch with
    | error fault => exact ⟨t, h, rfl⟩
    | ok w =>
      obtain ⟨t', ht', heq⟩ := executeWord_twinEnds k m t h w
      simp only [heq]
      cases hx : m.executeWord w with
      | ok a n => exact ⟨t', by rwa [hx] at ht', rfl⟩
      | error fault n => exact ⟨t', by rwa [hx] at ht', rfl⟩

theorem runStep_twinEnds (k : Surface.Indistinct R) (m : Machine σ) (t : τ) (h : R m.surface t)
    (stopAtZero : Bool) : TwinEnds R (m.runStep stopAtZero) ((m.on t).runStep stopAtZero) := by
  have hstep := step_twinEnds k m t h
  have hfetch : (m.on t).fetch = m.fetch := rfl
  cases stopAtZero with
  | false => exact hstep
  | true =>
    simp only [runStep, hfetch, if_true]
    cases m.fetch with
    | error fault => exact ⟨t, h, rfl⟩
    | ok w =>
      by_cases hw : w = 0
      · simp only [if_pos hw]
        exact ⟨t, h, rfl⟩
      · simp only [if_neg hw]
        exact hstep

theorem runFrom_twinEnds (k : Surface.Indistinct R) (stopAtZero : Bool) (executed limit : Nat)
    (m : Machine σ) (t : τ) (h : R m.surface t) :
    TwinEnds R (m.runFrom stopAtZero executed limit)
      ((m.on t).runFrom stopAtZero executed limit) := by
  induction limit generalizing executed m t with
  | zero => exact ⟨t, h, rfl⟩
  | succ limit ih =>
    have hhalted : (m.on t).halted = m.halted := rfl
    have hmode : (m.on t).mode = m.mode := rfl
    -- One step leaves twins, from which the rest of the run goes on.
    obtain ⟨t', ht', heq⟩ := runStep_twinEnds k m t h stopAtZero
    simp only [runFrom, hhalted, hmode, heq]
    cases m.halted with
    | true => exact ⟨t, h, rfl⟩
    | false =>
      cases m.mode with
      | awaitingKey x => exact ⟨t, h, rfl⟩
      | running =>
        cases hr : m.runStep stopAtZero with
        | error fault n => exact ⟨t', by rwa [hr] at ht', rfl⟩
        | ok goesOn n =>
          rw [hr, left_ok] at ht'
          cases goesOn with
          | false => exact ⟨t', ht', rfl⟩
          | true => exact ih (executed + 1) n t' ht'

theorem pressKey_twins (k : Surface.Indistinct R) (m : Machine σ) (t : τ) (h : R m.surface t)
    (code : Int) : Twins R (m.pressKey code) ((m.on t).pressKey code) := by
  have hkeys := k.setKey (Keypad.key code).val true h
  simp only [pressKey, on]
  cases m.mode with
  | running => exact ⟨_, hkeys, rfl⟩
  | awaitingKey x => exact ⟨_, hkeys, rfl⟩

/-- Twins answer every event alike, and are twins after it. -/
theorem Twins.after {m : Machine σ} {n : Machine τ} (h : Twins R m n) (k : Surface.Indistinct R)
    (event : Event) :
    Twins R (m.after event) (n.after event) ∧ n.reply event = m.reply event := by
  obtain ⟨t, ht, rfl⟩ := h
  have hends {α : Type} {o : Outcome σ α} {o' : Outcome τ α} (h : TwinEnds R o o')
      (tell : α → Reply) : Twins R (Machine.left o) (Machine.left o') ∧ told tell o' = told tell o :=
    ⟨h.left, h.told_eq tell⟩
  cases event with
  | step => exact hends (step_twinEnds k m t ht) .stepped
  | run stopAtZero limit => exact hends (runFrom_twinEnds k stopAtZero 0 limit.toNat m t ht) .ran
  | execute word => exact hends (executeWord_twinEnds k m t ht _) _
  | loadProgram data => exact hends (loadProgram_twinEnds m t ht data) _
  | awaitKey register => exact hends (awaitKey_twinEnds m t ht register) _
  | load addr data => exact ⟨withMemory_twins m t ht _, rfl⟩
  | poke addr value => exact ⟨withMemory_twins m t ht _, rfl⟩
  | setV index value => exact ⟨withRegisters_twins m t ht _, rfl⟩
  | push addr => exact ⟨withRegisters_twins m t ht _, rfl⟩
  | pop => exact ⟨withRegisters_twins m t ht _, rfl⟩
  | pressKey code => exact ⟨pressKey_twins k m t ht code, rfl⟩
  | releaseKey code => exact ⟨⟨_, k.setKey _ _ ht, rfl⟩, rfl⟩
  | tick => exact ⟨⟨t, ht, rfl⟩, rfl⟩
  | setPc value => exact ⟨⟨t, ht, rfl⟩, rfl⟩

/-- Whatever happens to both, twins stay twins. -/
theorem Twins.afterAll {m : Machine σ} {n : Machine τ} (h : Twins R m n)
    (k : Surface.Indistinct R) (events : List Event) :
    Twins R (m.afterAll events) (n.afterAll events) := by
  induction events generalizing m n with
  | nil => exact h
  | cons event events ih => exact ih (h.after k event).1

end Machine

end Chip8
