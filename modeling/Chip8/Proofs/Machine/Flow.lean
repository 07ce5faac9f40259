import Chip8.Proofs.Machine.Step

namespace Chip8

namespace Instr

def calls : Instr → Bool
  | .call _ => true
  | _ => false

def returns : Instr → Bool
  | .ret => true
  | _ => false

def jumps : Instr → Bool
  | .jump _ | .jumpV0 _ | .call _ | .ret => true
  | _ => false

theorem calls_of_not_jumps (instr : Instr) (h : instr.jumps = false) : instr.calls = false := by
  cases instr with
  | call target => exact h
  | _ => rfl

theorem returns_of_not_jumps (instr : Instr) (h : instr.jumps = false) :
    instr.returns = false := by
  cases instr with
  | ret => exact h
  | _ => rfl

end Instr

/-- Where an instruction lets the program go on, and the stack that it leaves. -/
inductive Flow (r : Registers) : Instr → Int → List UInt16 → Prop where
  | next (instr : Instr) (h : instr.jumps = false) : Flow r instr (r.pc + 2) r.stack
  | skip (condition : Condition) : Flow r (.skipIf condition) (r.pc + 4) r.stack
  | skipKey (x : Fin 16) (held : Bool) : Flow r (.skipKey x held) (r.pc + 4) r.stack
  | jump (target : Fin 4096) : Flow r (.jump target) target.val r.stack
  | jumpV0 (base : Fin 4096) :
    Flow r (.jumpV0 base) (base.val + (r.get Registers.first).toNat : Nat) r.stack
  | call (target : Fin 4096) (h : r.stack.length < Registers.stackDepth) :
    Flow r (.call target) target.val (UInt16.ofInt (r.pc + 2) :: r.stack)
  | ret (addr : UInt16) (rest : List UInt16) (h : r.stack = addr :: rest) :
    Flow r .ret addr.toNat rest

/-- Only a call and a return touch the stack, and only at its top. -/
theorem Flow.stack_cases {r : Registers} {instr : Instr} {next : Int} {stack : List UInt16}
    (h : Flow r instr next stack) :
    (instr.calls = true ∧ instr.returns = false ∧ r.stack.length < Registers.stackDepth ∧
      stack = UInt16.ofInt (r.pc + 2) :: r.stack) ∨
    (instr.calls = false ∧ instr.returns = true ∧
      ∃ addr : UInt16, r.stack = addr :: stack ∧ next = addr.toNat) ∨
    instr.calls = false ∧ instr.returns = false ∧ stack = r.stack := by
  cases h with
  | call target hd => exact Or.inl ⟨rfl, rfl, hd, rfl⟩
  | ret addr rest hs => exact Or.inr (Or.inl ⟨rfl, rfl, addr, hs, rfl⟩)
  | next instr hj =>
    have hc := instr.calls_of_not_jumps hj
    have hr := instr.returns_of_not_jumps hj
    exact Or.inr (Or.inr ⟨hc, hr, rfl⟩)
  | _ => exact Or.inr (Or.inr ⟨rfl, rfl, rfl⟩)

theorem toNat_ofInt_of_lt (n : Int) (h : 0 ≤ n) (h' : n < 65536) :
    ((UInt16.ofInt n).toNat : Int) = n := by
  have hmod : n % 65536 = n := Int.emod_eq_of_lt h h'
  have hlt : n.toNat < 65536 := by omega
  have hn : (UInt16.ofInt n).toNat = n.toNat := by
    change (UInt16.ofNat (n % 65536).toNat).toNat = n.toNat
    rw [hmod, UInt16.toNat_ofNat_of_lt' hlt]
  rw [hn]
  omega

@[simp] theorem Registers.alu_stack (r : Registers) (f : Alu) (x y : Fin 16) :
    (r.alu f x y).stack = r.stack := by
  unfold Registers.alu
  cases h : (f.eval (r.get x) (r.get y)).2 <;> simp [h, Registers.set]

namespace Machine

variable {σ : Type}

theorem pc_of_fetch (m : Machine σ) (w : Word) (h : m.fetch = .ok w) :
    0 ≤ m.registers.pc ∧ m.registers.pc ≤ 0xFFE := by
  by_cases hh : Memory.Holds m.registers.pc 2
  · obtain ⟨h0, -, h1⟩ := hh
    omega
  · simp [fetch, hh] at h

theorem fetch_of_bytes (m : Machine σ) (hi lo : UInt8) (hpc : Memory.Holds m.registers.pc 2)
    (hbytes : m.memory.byte m.registers.pc.toNat = hi ∧
      m.memory.byte (m.registers.pc.toNat + 1) = lo) :
    m.fetch = .ok (Word.ofBytes hi lo) := by
  rw [fetch, if_pos hpc, hbytes.1, hbytes.2]

variable [Surface σ]

theorem perform_follows (m : Machine σ) (instr : Instr) :
    match m.perform instr with
    | .ok next n => Flow m.registers instr next n.registers.stack
    | .error _ _ => True := by
  cases instr with
  | ret =>
    cases hs : m.registers.stack with
    | nil => simp only [perform, Registers.pop, hs]
    | cons addr rest =>
      simp only [perform, Registers.pop, hs]
      exact .ret addr rest hs
  | call target =>
    by_cases hd : m.registers.stack.length < Registers.stackDepth
    · simp only [perform, Registers.push, if_pos hd]
      exact .call target hd
    · simp only [perform, Registers.push, if_neg hd]
  | jump target => exact .jump target
  | jumpV0 base => exact .jumpV0 base
  | skipIf condition =>
    simp only [perform]
    split
    · exact .skip condition
    · exact .next _ rfl
  | skipKey x held =>
    simp only [perform]
    split
    · exact .skipKey x held
    · exact .next _ rfl
  | alu f x y =>
    simp only [perform, mapRegisters, Registers.alu_stack]
    exact .next _ rfl
  | draw x y rows =>
    cases hb : m.memory.block m.registers.i rows.val with
    | error fault => simp only [perform, draw, hb]
    | ok sprite =>
      simp only [perform, draw, hb]
      exact .next _ rfl
  | storeDigits x =>
    cases hl : m.memory.load m.registers.i (decimalDigits (m.registers.get x)) with
    | error fault => simp only [perform, storeDigits, hl]
    | ok memory =>
      simp only [perform, storeDigits, hl]
      exact .next _ rfl
  | loadRegisters x =>
    simp only [perform, Machine.loadRegisters, Registers.addI, Registers.loadFrom]
    exact .next _ rfl
  | _ => exact .next _ rfl

/-- What an instruction that is performed does to the course of the program. -/
theorem perform_flow (m n : Machine σ) (instr : Instr) (next : Int)
    (h : m.perform instr = .ok next n) : Flow m.registers instr next n.registers.stack := by
  have hf := perform_follows m instr
  rw [h] at hf
  exact hf

theorem perform_cycles (m n : Machine σ) (instr : Instr) (next : Int)
    (h : m.perform instr = .ok next n) : n.cycles = m.cycles := by
  have hc := (perform_halted_cycles m instr).2
  rw [h] at hc
  exact hc

/-- The instruction at PC, the machine that performing it leaves, and where the program goes on. -/
theorem step_ok (m m' : Machine σ) (answer : Bool) (hm : m.mode = .running)
    (h : m.step = .ok answer m') :
    ∃ w instr next n, m.fetch = .ok w ∧ w.decode? = some instr ∧ m.perform instr = .ok next n ∧
      answer = true ∧ m' = { n.setPc next with cycles := n.cycles + 1 } := by
  simp only [step, hm] at h
  cases hf : m.fetch with
  | error fault => simp [hf] at h
  | ok w =>
    cases hd : w.decode? with
    | none => simp [hf, executeWord, hd, refuse] at h
    | some instr =>
      cases hp : m.perform instr with
      | error fault n => simp [hf, executeWord, hd, hp] at h
      | ok next n =>
        simp only [hf, executeWord, hd, hp, EStateM.Result.ok.injEq] at h
        exact ⟨w, instr, next, n, rfl, hd, hp, h.1.symm, h.2.symm⟩

theorem step_flow (m m' : Machine σ) (w : Word) (hf : m.fetch = .ok w)
    (h : m.step = .ok true m') :
    ∃ instr next, w.decode? = some instr ∧ Flow m.registers instr next m'.registers.stack ∧
      m'.registers.pc = next % 65536 ∧ m'.cycles = m.cycles + 1 := by
  cases hm : m.mode with
  | awaitingKey x => simp [step, hm] at h
  | running =>
    obtain ⟨w', instr, next, n, hw, hd, hp, -, rfl⟩ := step_ok m m' true hm h
    rw [hf, Except.ok.injEq] at hw
    subst hw
    have hc := perform_cycles m n instr next hp
    exact ⟨instr, next, hd, perform_flow m n instr next hp, rfl, by rw [hc]⟩

end Machine

end Chip8
