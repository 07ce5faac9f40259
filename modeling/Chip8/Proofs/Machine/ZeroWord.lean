import Chip8.Proofs.Machine.Batches
import Chip8.Proofs.Machine.Log

namespace Chip8

theorem Registers.refusal?_ne_unknownOpcode (r : Registers) (instr : Instr) (word : Int) :
    r.refusal? instr ≠ some (.unknownOpcode word) := by
  cases instr <;> simp [refusal?]

namespace Machine

variable {σ : Type}

theorem without_halt (m : Machine σ) (hh : m.halted = false) : { m with halted := false } = m := by
  cases m
  cases hh
  rfl

theorem fetch_ne_unknownOpcode (m : Machine σ) (word : Int) :
    m.fetch ≠ .error (.unknownOpcode word) := by
  unfold fetch
  by_cases h : Memory.Holds m.registers.pc 2 <;> simp [h]

variable [Surface σ]

theorem fetch_of_zero_fault (m n : Machine σ) (hm : m.mode = .running)
    (h : m.step = .error (.unknownOpcode 0) n) : m.fetch = .ok 0 := by
  obtain ⟨hrefusal, -⟩ := step_error m n _ h
  cases hf : m.fetch with
  | error fault =>
    simp only [stepRefusal?, hm, hf, Option.some.injEq] at hrefusal
    rw [hrefusal] at hf
    exact absurd hf (m.fetch_ne_unknownOpcode 0)
  | ok w =>
    simp only [stepRefusal?, hm, hf, Registers.wordRefusal?] at hrefusal
    cases hd : w.decode? with
    | none =>
      simp only [hd, Option.some.injEq, Fault.unknownOpcode.injEq] at hrefusal
      have hw : w = 0 := UInt16.toNat_inj.mp (by simpa using hrefusal)
      rw [hw]
    | some instr =>
      simp only [hd] at hrefusal
      exact absurd hrefusal (m.registers.refusal?_ne_unknownOpcode instr 0)

/-- Before its limit, a run that does not stop at zero words comes to one: so many instructions have
been executed, and the machine stands at the word. -/
structure ComesToZero (m : Machine σ) (limit executed : Nat) (n : Machine σ) : Prop where
  before : executed < limit
  run : m.run false executed = .ok executed n
  running : n.mode = .running
  fetch : n.fetch = .ok 0

theorem ComesToZero.later {m n n' : Machine σ} {limit executed : Nat}
    (h : n.ComesToZero limit executed n')
    (run : ∀ limit, m.run false (limit + 1) = counted 1 (n.run false limit)) :
    m.ComesToZero (limit + 1) (executed + 1) n' where
  before := Nat.succ_lt_succ h.before
  run := by rw [run, h.run, counted_ok, Nat.add_comm]
  running := h.running
  fetch := h.fetch

/-- Two runs, of which one stops at zero words and the other executes them, end in the same way, and
not at such a word. -/
structure EndsAlike (m : Machine σ) (limit : Nat) : Prop where
  same : m.run true limit = m.run false limit
  goesOn : (left (m.run false limit)).halted = false
  elsewhere : ∀ n, m.run false limit ≠ .error (.unknownOpcode 0) n

theorem EndsAlike.of_run {m : Machine σ} {limit : Nat} (r : Outcome σ Nat)
    (run : ∀ stopAtZero, m.run stopAtZero limit = r) (goesOn : (left r).halted = false)
    (elsewhere : ∀ n, r ≠ .error (.unknownOpcode 0) n) : m.EndsAlike limit where
  same := (run true).trans (run false).symm
  goesOn := by rw [run]; exact goesOn
  elsewhere n := by rw [run]; exact elsewhere n

theorem endsAlike_or_comesToZero (m : Machine σ) (limit : Nat) (hh : m.halted = false) :
    m.EndsAlike limit ∨ ∃ executed n, m.ComesToZero limit executed n ∧ n.halted = false := by
  induction limit generalizing m with
  | zero => exact Or.inl (.of_run (.ok 0 m) (fun _ => rfl) hh fun n h => by cases h)
  | succ limit ih =>
    by_cases hzero : m.mode = .running ∧ m.fetch = .ok 0
    · exact Or.inr ⟨0, m, ⟨Nat.succ_pos _, rfl, hzero.1, hzero.2⟩, hh⟩
    -- The first round is the same one for both runs, as no zero word stands there.
    have hstep (hm : m.mode = .running) (stopAtZero : Bool) : m.runStep stopAtZero = m.step :=
      m.runStep_of_ne_zero stopAtZero hm fun hf => hzero ⟨hm, hf⟩
    cases m.round false with
    | stands stopped run =>
      have hwaits : m.mode ≠ .running := by
        obtain ⟨x, h⟩ := stopped.resolve_left (Bool.eq_false_iff.mp hh)
        rw [h]
        exact Mode.noConfusion
      exact Or.inl (.of_run (.ok 0 m) (fun _ => runFrom_of_waiting m _ _ _ hwaits) hh
        fun n h => by cases h)
    | fails running fault n step halted _ =>
      refine Or.inl (.of_run (.error fault n) (fun stopAtZero => ?_) halted fun n' h => ?_)
      · exact m.run_of_fails n _ fault running ((hstep running.2 stopAtZero).trans step) limit
      · rw [EStateM.Result.error.injEq] at h
        exact hzero ⟨running.2, m.fetch_of_zero_fault n running.2 (h.1 ▸ step)⟩
    | halts _ stops => exact absurd stops Bool.false_ne_true
    | goesOn running n step halted _ run =>
      obtain halike | ⟨executed, n', hcomes, hn'⟩ := ih n halted
      · have hsame (stopAtZero : Bool) : n.run stopAtZero limit = n.run false limit := by
          cases stopAtZero with
          | false => rfl
          | true => exact halike.same
        refine Or.inl (.of_run (counted 1 (n.run false limit)) (fun stopAtZero => ?_) ?_ ?_)
        · rw [← hsame stopAtZero]
          exact m.run_of_goesOn n _ running ((hstep running.2 stopAtZero).trans step) limit
        · rw [left_counted]
          exact halike.goesOn
        · intro n' h
          exact halike.elsewhere n' (counted_eq_error_iff.mp h)
      · exact Or.inr ⟨executed + 1, n', hcomes.later run, hn'⟩

theorem ComesToZero.run_false {m n : Machine σ} {limit executed : Nat}
    (h : m.ComesToZero limit executed n) (hn : n.halted = false) :
    m.run false limit = .error (.unknownOpcode 0) n := by
  obtain ⟨more, rfl⟩ := Nat.exists_eq_add_of_lt h.before
  rw [Nat.add_assoc, run_add, h.run, thenRun, (n.run_of_zero ⟨hn, h.running⟩ h.fetch more).2,
    counted_error]

theorem ComesToZero.run_true {m n : Machine σ} {limit executed : Nat} (hh : m.halted = false)
    (h : m.ComesToZero limit executed n) :
    n.halted = false ∧ m.run true limit = .ok executed { n with halted := true } := by
  -- Up to the word the runs are alike, as the one that executes it has not failed there.
  have halike : m.EndsAlike executed := by
    obtain halike | ⟨k, n', hcomes, hn'⟩ := m.endsAlike_or_comesToZero executed hh
    · exact halike
    · have hfails := hcomes.run_false hn'
      rw [h.run] at hfails
      cases hfails
  have hn := halike.goesOn
  rw [h.run, left_ok] at hn
  refine ⟨hn, ?_⟩
  obtain ⟨more, rfl⟩ := Nat.exists_eq_add_of_lt h.before
  rw [Nat.add_assoc, run_add, halike.same, h.run, thenRun,
    (n.run_of_zero ⟨hn, h.running⟩ h.fetch more).1, counted_ok, Nat.add_zero]

theorem runLog_true (m : Machine σ) (limit : Nat) : m.runLog true limit = m.runLog false limit := by
  induction limit generalizing m with
  | zero => rfl
  | succ limit ih =>
    simp only [runLog]
    cases hm : m.mode with
    | awaitingKey x => rfl
    | running =>
      by_cases hf : m.fetch = .ok 0
      · have hs := m.step_of_zero hm hf
        simp [runStep, hf, hs]
      · simp only [m.runStep_of_ne_zero _ hm hf, ih]

/-- Whether a run stops at zero words shows in nothing but its end: the two runs execute the same
instructions, and differ only where such a word is reached. -/
structure DiffersInEndOnly (m : Machine σ) (limit : Nat) : Prop where
  log : m.runLog true limit = m.runLog false limit
  machine : left (m.run false limit) = { left (m.run true limit) with halted := false }
  differs : m.run true limit ≠ m.run false limit ↔ ∃ executed n, m.ComesToZero limit executed n
  atZero : ∀ executed n, m.ComesToZero limit executed n →
    m.run true limit = .ok executed { n with halted := true } ∧
      m.run false limit = .error (.unknownOpcode 0) n ∧ n.halted = false
  fails : ∀ fault n, m.run true limit = .error fault n ↔
    m.run false limit = .error fault n ∧ fault ≠ .unknownOpcode 0

theorem zero_switch_changes_end_only (m : Machine σ) (hh : m.halted = false) (limit : Nat) :
    m.DiffersInEndOnly limit := by
  have hzero (executed : Nat) (n : Machine σ) (h : m.ComesToZero limit executed n) :
      m.run true limit = .ok executed { n with halted := true } ∧
        m.run false limit = .error (.unknownOpcode 0) n ∧ n.halted = false := by
    obtain ⟨hn, htrue⟩ := h.run_true hh
    exact ⟨htrue, h.run_false hn, hn⟩
  obtain halike | ⟨executed, n, hcomes, -⟩ := m.endsAlike_or_comesToZero limit hh
  · refine ⟨m.runLog_true limit, ?_, ?_, hzero, fun fault n => ?_⟩
    · rw [halike.same]
      exact (without_halt _ halike.goesOn).symm
    · refine ⟨fun h => absurd halike.same h, ?_⟩
      rintro ⟨executed, n, h⟩
      exact absurd (hzero executed n h).2.1 (halike.elsewhere n)
    · rw [halike.same]
      exact ⟨fun h => ⟨h, fun hfault => halike.elsewhere n (hfault ▸ h)⟩, And.left⟩
  · obtain ⟨htrue, hfalse, hn⟩ := hzero executed n hcomes
    refine ⟨m.runLog_true limit, ?_, ?_, hzero, fun fault n' => ?_⟩
    · rw [htrue, hfalse]
      exact (without_halt n hn).symm
    · refine ⟨fun _ => ⟨executed, n, hcomes⟩, fun _ h => ?_⟩
      rw [htrue, hfalse] at h
      cases h
    · rw [htrue, hfalse, EStateM.Result.error.injEq]
      constructor
      · intro h
        cases h
      · rintro ⟨⟨hfault, -⟩, hne⟩
        exact absurd hfault.symm hne

/-- The zero word behind the only instruction of a program is reached with two instructions to
spare. -/
theorem zero_switch_changes_end_only_at_once :
    oneInstruction.halted = false ∧ oneInstruction.DiffersInEndOnly 4 ∧
      oneInstruction.ComesToZero 4 1 pastInstruction ∧
      oneInstruction.run true 4 = .ok 1 { pastInstruction with halted := true } ∧
      oneInstruction.run false 4 = .error (.unknownOpcode 0) pastInstruction := by
  have h : oneInstruction.DiffersInEndOnly 4 := zero_switch_changes_end_only _ rfl 4
  have hcomes : oneInstruction.ComesToZero 4 1 pastInstruction :=
    ⟨by decide, run_oneInstruction false, rfl, fetch_pastInstruction⟩
  obtain ⟨htrue, hfalse, -⟩ := h.atZero 1 pastInstruction hcomes
  exact ⟨rfl, h, hcomes, htrue, hfalse⟩

end Machine

end Chip8
