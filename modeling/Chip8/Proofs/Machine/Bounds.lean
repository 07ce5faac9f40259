import Chip8.Proofs.Machine.Event
import Chip8.Surface.Display

namespace Chip8

namespace Registers

/-- The registers without a width of their own hold no more than the real ones could, and the
stack is no deeper than it may be. -/
structure InRange (r : Registers) : Prop where
  i : 0 ≤ r.i ∧ r.i ≤ 0xFFFF
  pc : 0 ≤ r.pc ∧ r.pc ≤ 0xFFFF
  dt : 0 ≤ r.dt ∧ r.dt ≤ 0xFF
  st : 0 ≤ r.st ∧ r.st ≤ 0xFF
  depth : r.stack.length ≤ stackDepth

theorem byte_le (b : UInt8) : (0 : Int) ≤ b.toNat ∧ (b.toNat : Int) ≤ 0xFF := by
  have := b.toNat_lt
  omega

namespace InRange

variable {r : Registers}

theorem initial : InRange {} := by
  constructor <;> simp [programStart, stackDepth]

theorem set (h : r.InRange) (x : Fin 16) (b : UInt8) : (r.set x b).InRange :=
  ⟨h.i, h.pc, h.dt, h.st, h.depth⟩

theorem setV (h : r.InRange) (index value : Int) (r' : Registers)
    (hr : r.setV index value = .ok r') : r'.InRange := by
  unfold Registers.setV at hr
  cases hx : index? index with
  | none => simp [hx] at hr
  | some x =>
    simp only [hx, Except.ok.injEq] at hr
    rw [← hr]
    exact h.set x _

theorem alu (h : r.InRange) (f : Alu) (x y : Fin 16) : (r.alu f x y).InRange := by
  unfold Registers.alu
  cases hf : (f.eval (r.get x) (r.get y)).2 with
  | none => simpa [hf] using h.set x _
  | some bit => simpa [hf] using (h.set x _).set flag bit

theorem loadFrom (h : r.InRange) (memory : Memory) (count : Nat) :
    (r.loadFrom memory count).InRange := by
  unfold Registers.loadFrom
  exact ⟨h.i, h.pc, h.dt, h.st, h.depth⟩

theorem addI (h : r.InRange) (n : Nat) : (r.addI n).InRange := by
  refine ⟨?_, h.pc, h.dt, h.st, h.depth⟩
  simp only [Registers.addI]
  omega

theorem withI (h : r.InRange) (i : Nat) (hi : i ≤ 0xFFFF) : InRange { r with i := i } := by
  refine ⟨?_, h.pc, h.dt, h.st, h.depth⟩
  dsimp only
  omega

theorem withPc (h : r.InRange) (pc : Int) : InRange { r with pc := pc % 65536 } := by
  refine ⟨h.i, ?_, h.dt, h.st, h.depth⟩
  dsimp only
  omega

theorem push (h : r.InRange) (addr : Int) (r' : Registers) (hr : r.push addr = .ok r') :
    r'.InRange := by
  unfold Registers.push at hr
  split at hr
  · next hd =>
    simp only [Except.ok.injEq] at hr
    rw [← hr]
    exact ⟨h.i, h.pc, h.dt, h.st, hd⟩
  · simp at hr

theorem pop (h : r.InRange) (addr : UInt16) (r' : Registers) (hr : r.pop = .ok (addr, r')) :
    r'.InRange := by
  unfold Registers.pop at hr
  cases hs : r.stack with
  | nil => simp [hs] at hr
  | cons a rest =>
    simp only [hs, Except.ok.injEq, Prod.mk.injEq] at hr
    rw [← hr.2]
    have hd := h.depth
    rw [hs, List.length_cons] at hd
    exact ⟨h.i, h.pc, h.dt, h.st, by dsimp only; omega⟩

theorem tick (h : r.InRange) : r.tick.InRange := by
  refine ⟨h.i, h.pc, ?_, ?_, h.depth⟩
  · have := h.dt
    simp only [Registers.tick]
    omega
  · have := h.st
    simp only [Registers.tick]
    omega

end InRange

end Registers

namespace Machine

section

variable {σ : Type} [Surface σ]

/-- No instruction leaves a register with more than it could hold. -/
theorem perform_inRange (m : Machine σ) (instr : Instr) (h : m.registers.InRange) :
    (left (m.perform instr)).registers.InRange := by
  cases instr with
  | ret =>
    cases hr : m.registers.pop with
    | ok p => simpa only [perform, hr, left] using h.pop p.1 p.2 hr
    | error fault => simpa only [perform, hr, left] using h
  | call target =>
    cases hr : m.registers.push (m.registers.pc + 2) with
    | ok r => simpa only [perform, hr, left] using h.push _ r hr
    | error fault => simpa only [perform, hr, left] using h
  | loadByte x nn => exact h.set x nn
  | addByte x nn => exact h.set x _
  | alu f x y => exact h.alu f x y
  | loadI addr => exact h.withI addr.val (by omega)
  | random x mask => exact h.set x _
  | draw x y rows =>
    cases hb : m.memory.block m.registers.i rows.val with
    | ok sprite => simpa only [perform, draw, hb, left] using h.set Registers.flag _
    | error fault => simpa only [perform, draw, hb, left] using h
  | readDelay x => exact h.set x _
  | setDelay x => exact ⟨h.i, h.pc, Registers.byte_le _, h.st, h.depth⟩
  | setSound x => exact ⟨h.i, h.pc, h.dt, Registers.byte_le _, h.depth⟩
  | addI x => exact h.addI _
  | glyph x =>
    -- The only address that is not reduced: a glyph of any byte still lies in reach.
    refine h.withI (glyphSize * (m.registers.get x).toNat) ?_
    have := (m.registers.get x).toNat_lt
    simp only [glyphSize]
    omega
  | storeDigits x =>
    cases hl : m.memory.load m.registers.i (decimalDigits (m.registers.get x)) <;>
      simpa only [perform, storeDigits, hl, left] using h
  | saveRegisters x => exact h.addI _
  | loadRegisters x => exact (h.loadFrom m.memory _).addI _
  | _ => exact h

theorem kept_inRange : Kept fun m : Machine σ => m.registers.InRange where
  perform := perform_inRange
  setPc _ pc h := h.withPc pc
  noteKey _ _ h := h
  cycles _ _ h := h
  halted _ _ h := h

theorem after_inRange (m : Machine σ) (event : Event) (h : m.registers.InRange) :
    (m.after event).registers.InRange := by
  cases event with
  | loadProgram data => simpa [after] using h
  | load addr data => simpa [after] using h
  | poke addr value => simpa [after] using h
  | step => exact kept_inRange.step m h
  | run stopAtZero limit => exact kept_inRange.run m stopAtZero limit.toNat h
  | execute word => exact kept_inRange.executeWord m _ h
  | tick => exact h.tick
  | pressKey code =>
    cases hm : m.mode with
    | running => simpa [after, pressKey, hm] using h
    | awaitingKey x => simpa [after, pressKey, hm] using h.set x _
  | releaseKey code => exact h
  | awaitKey register => simpa [after] using h
  | setV index value =>
    exact withRegisters_kept _ m _ h fun r hr => h.setV index value r hr
  | push addr => exact withRegisters_kept _ m _ h fun r hr => h.push addr r hr
  | pop =>
    refine withRegisters_kept _ m _ h fun r hr => ?_
    cases hp : m.registers.pop with
    | ok p =>
      simp only [hp, Except.map, Except.ok.injEq] at hr
      exact hr ▸ h.pop p.1 p.2 hp
    | error fault => simp [hp, Except.map] at hr
  | setPc value => exact h.withPc value

end

theorem after_size (width height : Nat) (m : Machine Display) (event : Event)
    (h : m.surface.width = width ∧ m.surface.height = height) :
    (m.after event).surface.width = width ∧ (m.after event).surface.height = height :=
  after_surface (fun d : Display => d.width = width ∧ d.height = height) (fun _ h => h)
    (fun _ _ _ _ h => h) (fun _ _ h => h) (fun _ _ _ h => h) m event h

/-- What may be found in a machine with a screen of a given size. -/
structure WellFormed (width height : Nat) (m : Machine Display) : Prop where
  v_length : m.registers.v.toList.length = 16
  v : ∀ b ∈ m.registers.v.toList, b.toNat ≤ 0xFF
  i : 0 ≤ m.registers.i ∧ m.registers.i ≤ 0xFFFF
  pc : 0 ≤ m.registers.pc ∧ m.registers.pc ≤ 0xFFFF
  dt : 0 ≤ m.registers.dt ∧ m.registers.dt ≤ 0xFF
  st : 0 ≤ m.registers.st ∧ m.registers.st ≤ 0xFF
  depth : m.registers.stack.length ≤ 16
  stack : ∀ addr ∈ m.registers.stack, addr.toNat ≤ 0xFFFF
  memory_length : m.memory.bytes.toList.length = 4096
  memory : ∀ b ∈ m.memory.bytes.toList, b.toNat ≤ 0xFF
  pixels_length : m.surface.pixels.toList.length = width * height
  keys_length : m.surface.keypad.held.toList.length = 16
  mode : ∀ x, m.mode = .awaitingKey x → x.val < 16

theorem wellFormed_of_inRange (width height : Nat) (m : Machine Display)
    (h : m.registers.InRange) (hs : m.surface.width = width ∧ m.surface.height = height) :
    m.WellFormed width height where
  v_length := by simp
  v b _ := Nat.le_of_lt_succ b.toNat_lt
  i := h.i
  pc := h.pc
  dt := h.dt
  st := h.st
  depth := h.depth
  stack addr _ := Nat.le_of_lt_succ addr.toNat_lt
  memory_length := by simp
  memory b _ := Nat.le_of_lt_succ b.toNat_lt
  pixels_length := by simp [← hs.1, ← hs.2]
  keys_length := by simp
  mode x _ := x.isLt

/-- A machine stays well-formed whatever happens to it, in whatever order, and whether it is refused
or not. -/
theorem wellFormed_afterAll (width height : Nat) (hw : 0 < width) (hh : 0 < height)
    (random : RandomSource) (events : List Event) :
    (({ surface := .blank width height hw hh, random } : Machine Display).afterAll
      events).WellFormed width height := by
  have hr := afterAll_induction (fun m : Machine Display => m.registers.InRange) after_inRange
    { surface := .blank width height hw hh, random } events Registers.InRange.initial
  have hs := afterAll_induction
    (fun m : Machine Display => m.surface.width = width ∧ m.surface.height = height)
    (after_size width height) { surface := .blank width height hw hh, random } events ⟨rfl, rfl⟩
  exact wellFormed_of_inRange width height _ hr hs

/-- The smallest screen, and events of which half are refused. -/
theorem wellFormed_after_refusals :
    (0 < 1 ∧ 0 < 1) ∧
      (({ surface := .blank 1 1 (by decide) (by decide), random := .cycle #[-1] } :
        Machine Display).afterAll
        [.setPc (-1), .step, .push (-2), .pop, .pop, .setV 16 300, .awaitKey (-1), .poke 4096 1,
          .execute 0xC0FF, .execute 0xF029, .execute 0xF055, .execute 0xD00F,
          .run false 9]).WellFormed 1 1 :=
  ⟨⟨by decide, by decide⟩, wellFormed_afterAll 1 1 (by decide) (by decide) _ _⟩

end Machine

end Chip8
