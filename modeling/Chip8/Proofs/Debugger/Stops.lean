import Chip8.Proofs.Debugger.Messages
import Chip8.Proofs.Debugger.Pausing

namespace Chip8

namespace Machine

variable {σ : Type} [Surface σ]

theorem fetch_of_runStep_false (m m' : Machine σ) (hm : m.mode = .running)
    (h : m.runStep true = .ok false m') : m'.fetch = .ok 0 := by
  rcases runStep_cases m true hm with ⟨fault, n, hr, -⟩ | ⟨-, hf, hr⟩ | ⟨n, hr, -⟩
  · rw [hr] at h
    cases h
  · rw [hr, EStateM.Result.ok.injEq] at h
    rw [← h.2]
    exact hf
  · rw [hr] at h
    cases h

theorem refusal_of_runStep_error [Surface.Steady σ] (m m' : Machine σ) (fault : Fault)
    (hm : m.mode = .running) (h : m.runStep true = .error fault m') :
    m'.fetch ≠ .ok 0 ∧ m'.stepRefusal? = some fault := by
  simp only [runStep, if_true] at h
  cases hf : m.fetch with
  | error cause =>
    simp only [hf, EStateM.Result.error.injEq] at h
    obtain ⟨rfl, rfl⟩ := h
    refine ⟨?_, ?_⟩
    · rw [hf]
      exact fun h => by cases h
    · simp only [stepRefusal?, hm, hf]
  | ok w =>
    by_cases hw : w = 0
    · simp [hf, hw] at h
    · -- The step may have asked about a key, on which neither the word nor its refusal depends.
      simp only [hf, if_neg hw] at h
      have hu := step_error_unchanged m m' fault h
      have hfetch : m'.fetch = m.fetch := by
        simp only [fetch, hu.registers, hu.memory]
      refine ⟨?_, ?_⟩
      · rw [hfetch, hf]
        exact fun h => hw (Except.ok.inj h)
      · rw [hu.stepRefusal?]
        exact (step_error m m' fault h).1

end Machine

namespace Debugger

namespace Session

/-- A run stops at this session: its machine has halted, waits for a key or stands at a
breakpoint. -/
def Stops (s : Session) : Prop :=
  s.machine.halted = true ∨ s.machine.mode ≠ .running ∨ s.machine.pc ∈ s.breakpoints

theorem stop?_eq_none_iff_not_stops (s : Session) : s.stop? = none ↔ ¬s.Stops := by
  unfold stop? Stops
  cases s.machine.halted <;> cases s.machine.mode <;> simp

/-- The cause that stops a run holds, and none that comes before it does. -/
theorem stop?_cases (s : Session) (stop : Stop) (h : s.stop? = some stop) :
    (stop = .halted ∧ s.machine.halted = true) ∨
    (∃ x, stop = .waiting x ∧ s.machine.halted = false ∧ s.machine.mode = .awaitingKey x) ∨
    (stop = .breakpoint ∧ s.machine.halted = false ∧ s.machine.mode = .running ∧
      s.machine.pc ∈ s.breakpoints) := by
  unfold stop? at h
  cases hh : s.machine.halted with
  | true =>
    simp only [hh, if_true, Option.some.injEq] at h
    exact Or.inl ⟨h.symm, rfl⟩
  | false =>
    right
    cases hm : s.machine.mode with
    | awaitingKey x =>
      simp only [hh, hm, Bool.false_eq_true, if_false, Option.some.injEq] at h
      exact Or.inl ⟨x, h.symm, rfl, rfl⟩
    | running =>
      by_cases hp : s.machine.pc ∈ s.breakpoints
      · have hc : s.breakpoints.contains s.machine.pc = true := List.contains_iff_mem.mpr hp
        simp only [hh, hm, hc, Bool.false_eq_true, if_false, if_true, Option.some.injEq] at h
        exact Or.inr ⟨h.symm, rfl, rfl, hp⟩
      · simp [hh, hm, hp] at h

theorem stops_alike (s t : Session) (h : s.Alike t) : s.Stops ↔ t.Stops := by
  rw [Stops, Stops, h.machine, h.breakpoints]

theorem unblocked_of_not_stops (s : Session) (h : ¬s.Stops) : blocked? s.machine = none := by
  simp only [Stops, not_or, not_not] at h
  exact (blocked?_eq_none_iff s.machine).mpr ⟨Bool.eq_false_iff.mpr h.1, h.2.1⟩

theorem advance_breakpoints_before (s : Session) :
    s.advance.2.breakpoints = s.breakpoints ∧ s.advance.2.before = s.before := by
  cases hb : blocked? s.machine with
  | some reason =>
    rw [advance_of_blocked s reason hb]
    exact ⟨rfl, rfl⟩
  | none =>
    rw [advance_of_running s hb]
    cases s.machine.runStep true with
    | error fault m => exact ⟨rfl, rfl⟩
    | ok goesOn m =>
      cases goesOn with
      | false => exact ⟨rfl, rfl⟩
      | true =>
        dsimp only [count]
        split <;> exact ⟨rfl, rfl⟩

theorem advances_breakpoints_before (s : Session) (n : Nat) :
    (s.advances n).breakpoints = s.breakpoints ∧ (s.advances n).before = s.before := by
  induction n generalizing s with
  | zero => exact ⟨rfl, rfl⟩
  | succ n ih =>
    obtain ⟨hb, hr⟩ := advance_breakpoints_before s
    rw [advances, (ih _).1, (ih _).2]
    exact ⟨hb, hr⟩

/-- An advance that halts the machine tells why. -/
theorem advance_tellsHalt (s : Session) (hb : blocked? s.machine = none)
    (hh : s.advance.2.machine.halted = true) :
    TellsHalt s.advance.2.machine s.advance.2.notice := by
  obtain ⟨hs, hm⟩ := (blocked?_eq_none_iff s.machine).mp hb
  rw [advance_of_running s hb] at hh ⊢
  cases hr : s.machine.runStep true with
  | error fault m =>
    obtain ⟨hf, href⟩ := Machine.refusal_of_runStep_error s.machine m fault hm hr
    exact .failed fault hf href
  | ok goesOn m =>
    cases goesOn with
    | false => exact .zeroWord (Machine.fetch_of_runStep_false s.machine m hm hr)
    | true =>
      -- A step that succeeds leaves the machine going.
      rcases Machine.runStep_cases s.machine true hm with
        ⟨fault, n, hr', -⟩ | ⟨-, -, hr'⟩ | ⟨n, hr', -, hn, -⟩
      · rw [hr] at hr'
        cases hr'
      · rw [hr] at hr'
        cases hr'
      · rw [hr, EStateM.Result.ok.injEq] at hr'
        simp only [hr, count_halted, hr'.2, hn, hs] at hh
        cases hh

/-- A run of at most so many advances ends after `k` of them. Nothing stops the program before, and
there something does, unless the limit is reached. -/
structure EndsAfter (s : Session) (limit k : Nat) : Prop where
  pos : 1 ≤ k
  le : k ≤ limit
  first : ∀ j, 1 ≤ j → j < k → ¬(s.advances j).Stops
  last : (s.advances k).Stops ∨ k = limit

namespace EndsAfter

variable {s t : Session} {limit k : Nat}

theorem one_of_stops (h : s.advance.2.Stops) (hl : 1 ≤ limit) : s.EndsAfter limit 1 :=
  ⟨Nat.le_refl 1, hl, fun _ h1 h2 => absurd h2 (Nat.not_lt.mpr h1), Or.inl h⟩

theorem one_of_limit (s : Session) : s.EndsAfter 1 1 :=
  ⟨Nat.le_refl 1, Nat.le_refl 1, fun _ h1 h2 => absurd h2 (Nat.not_lt.mpr h1), Or.inr rfl⟩

theorem succ (h : ¬s.advance.2.Stops) (hk : s.advance.2.EndsAfter limit k) :
    s.EndsAfter (limit + 1) (k + 1) := by
  refine ⟨Nat.succ_pos k, Nat.succ_le_succ hk.le, ?_, ?_⟩
  · intro j hj hlt
    obtain ⟨i, rfl⟩ := Nat.exists_eq_add_of_le' hj
    cases i with
    | zero => exact h
    | succ i => exact hk.first (i + 1) (Nat.succ_pos i) (by omega)
  · exact hk.last.imp_right fun he => by rw [he]

theorem of_alike (h : s.Alike t) (hk : s.EndsAfter limit k) : t.EndsAfter limit k := by
  have hstops (j : Nat) : (s.advances j).Stops ↔ (t.advances j).Stops :=
    stops_alike _ _ (advances_alike s t h j)
  refine ⟨hk.pos, hk.le, ?_, ?_⟩
  · intro j hj hlt
    rw [← hstops]
    exact hk.first j hj hlt
  · rw [← hstops]
    exact hk.last

theorem unique {k' : Nat} (hk : s.EndsAfter limit k) (hk' : s.EndsAfter limit k') : k = k' := by
  -- Neither run can have gone on past the end of the other.
  have hle {a b : Nat} (ha : s.EndsAfter limit a) (hb : s.EndsAfter limit b) : a ≤ b := by
    rcases hb.last with hstops | hlimit
    · by_contra hlt
      exact ha.first b hb.pos (Nat.lt_of_not_le hlt) hstops
    · rw [hlimit]
      exact ha.le
  exact Nat.le_antisymm (hle hk hk') (hle hk' hk)

theorem unblocked (hk : s.EndsAfter limit k) (hb : blocked? s.machine = none) (j : Nat)
    (hj : j < k) : blocked? (s.advances j).machine = none := by
  cases j with
  | zero => exact hb
  | succ j => exact unblocked_of_not_stops _ (hk.first (j + 1) (Nat.succ_pos j) hj)

theorem tellsHalt (hk : s.EndsAfter limit k) (hb : blocked? s.machine = none)
    (hh : (s.advances k).machine.halted = true) :
    TellsHalt (s.advances k).machine (s.advances k).notice := by
  obtain ⟨j, rfl⟩ := Nat.exists_eq_add_of_le' hk.pos
  have hadd : s.advances (j + 1) = (s.advances j).advance.2 := advances_add s j 1
  rw [hadd] at hh ⊢
  exact advance_tellsHalt _ (hk.unblocked hb j (Nat.lt_succ_self j)) hh

end EndsAfter

theorem stretch_endsAfter (s : Session) (limit : Nat) (h : 1 ≤ limit) :
    ∃ k, s.EndsAfter limit k ∧ s.stretch limit = ⟨k, (s.advances k).stop?, s.advances k⟩ := by
  obtain ⟨n, rfl⟩ := Nat.exists_eq_add_of_le' h
  clear h
  -- By induction on the limit: the first advance stops the run, or the rest of it is a run from there.
  induction n generalizing s with
  | zero =>
    refine ⟨1, .one_of_limit s, ?_⟩
    simp only [stretch, stretchFrom, advances]
    cases s.advance.2.stop? <;> rfl
  | succ n ih =>
    cases hs : s.advance.2.stop? with
    | some stop =>
      have hstops : s.advance.2.Stops := by
        by_contra hn
        rw [(stop?_eq_none_iff_not_stops _).mpr hn] at hs
        cases hs
      refine ⟨1, .one_of_stops hstops (by omega), ?_⟩
      rw [stretch, stretchFrom]
      simp only [hs, advances]
    | none =>
      obtain ⟨k, hk, heq⟩ := ih s.advance.2
      refine ⟨k + 1, .succ ((stop?_eq_none_iff_not_stops _).mp hs) hk, ?_⟩
      rw [stretch, stretchFrom]
      simp only [hs]
      rw [stretchFrom_eq, heq, Nat.zero_add, Nat.add_comm]
      rfl

/-- What a run of `k` cycles tells where it ends: the reason of a halt first, then the key that the
program waits for, then the breakpoint, and the limit if nothing has stopped it. -/
inductive Explains (s : Session) (limit : Int) (k : Nat) : Notice → Prop where
  | halted {reason : Notice} (hh : s.machine.halted = true) (h : TellsHalt s.machine reason) :
    Explains s limit k reason
  | waiting (x : Fin 16) (hh : s.machine.halted = false) (hx : s.machine.mode = .awaitingKey x) :
    Explains s limit k (.waitingAfter x (.cycles k))
  | breakpoint (hh : s.machine.halted = false) (hm : s.machine.mode = .running)
      (hp : s.machine.pc ∈ s.breakpoints) :
    Explains s limit k (.breakpointHit s.machine.pc (.cycles k))
  | limit (h : ¬s.Stops) : Explains s limit k (.cycleLimit limit)

/-- What the user reads where such a run ends. -/
inductive Shows (s : Session) (limit : Int) (k : Nat) : String → Prop where
  | halted {text : String} (hh : s.machine.halted = true) (h : ShowsHalt s.machine text) :
    Shows s limit k text
  | waiting (x : Fin 16) (hh : s.machine.halted = false) (hx : s.machine.mode = .awaitingKey x) :
    Shows s limit k s!"Waiting for key into V{Text.hex 1 x.val} (use 'k <key>'). Ran {k} cycles."
  | breakpoint (hh : s.machine.halted = false) (hm : s.machine.mode = .running)
      (hp : s.machine.pc ∈ s.breakpoints) :
    Shows s limit k s!"Breakpoint hit at {Text.address s.machine.pc} (ran {k} cycles)"
  | limit (h : ¬s.Stops) : Shows s limit k s!"Stopped after {limit} cycles (limit reached)."

theorem Explains.shows {s : Session} {limit : Int} {k : Nat} {notice : Notice}
    (h : s.Explains limit k notice) : s.Shows limit k notice.text := by
  cases h with
  | halted hh h => exact .halted hh h.shows
  | waiting x hh hx =>
    rw [Notice.text_waitingAfter x (.cycles k) k " cycles" " cycles." rfl (by decide +kernel)]
    exact .waiting x hh hx
  | breakpoint hh hm hp =>
    rw [Notice.text_breakpointHit]
    exact .breakpoint hh hm hp
  | limit h => exact .limit h

/-- A run that was resumed at the first session has come to the second after `k` cycles. -/
structure Resumed (s : Session) (limit : Int) (k : Nat) (r : Session) : Prop where
  ends : s.EndsAfter limit.toNat k
  /-- Only the first instruction may have been at a breakpoint. -/
  passes : ∀ j, 1 ≤ j → j < k → (s.advances j).machine.pc ∉ s.breakpoints
  machine : r.machine = (s.advances k).machine
  sinceTick : r.sinceTick = (s.advances k).sinceTick
  breakpoints : r.breakpoints = s.breakpoints
  before : r.before = s.machine.registers.snapshot
  explains : r.Explains limit k r.notice
  shows : r.Shows limit k r.notice.text

theorem explains_stoppedBy (s : Session) (limit : Int) (k : Nat)
    (h : s.machine.halted = true → TellsHalt s.machine s.notice) (stop : Stop)
    (hs : s.stop? = some stop) :
    (s.stoppedBy (.cycles k) stop).Explains limit k (s.stoppedBy (.cycles k) stop).notice := by
  rcases stop?_cases s stop hs with ⟨rfl, hh⟩ | ⟨x, rfl, hh, hx⟩ | ⟨rfl, hh, hm, hp⟩
  · exact .halted hh (h hh)
  · exact .waiting x hh hx
  · exact .breakpoint hh hm hp

/-- Running on stops at the first advance after which the machine has halted, waits for a key or
stands at a breakpoint, or at the limit, and tells which of these it is. A breakpoint at which it
starts does not stop it, and it runs over no other. -/
theorem resume_stops_first (s : Session) (hb : blocked? s.machine = none) (limit : Int)
    (hl : 1 ≤ limit) : ∃ k, s.Resumed limit k (s.resume limit) := by
  -- The run starts where the registers are remembered, which is alike for all that can stop it.
  obtain ⟨k, hk, heq⟩ := stretch_endsAfter s.remember limit.toNat (by omega)
  have ha : (s.remember.advances k).Alike (s.advances k) :=
    advances_alike _ _ (Alike.refl s).remember k
  have hends : s.EndsAfter limit.toNat k := hk.of_alike (Alike.refl s).remember
  have hpasses (j : Nat) (h1 : 1 ≤ j) (h2 : j < k) : (s.advances j).machine.pc ∉ s.breakpoints := by
    intro hmem
    rw [← (advances_breakpoints_before s j).1] at hmem
    exact hends.first j h1 h2 (Or.inr (Or.inr hmem))
  obtain ⟨hbreak, hbefore⟩ := advances_breakpoints_before s.remember k
  refine ⟨k, ?_⟩
  simp only [resume, hb, heq]
  cases hs : (s.remember.advances k).stop? with
  | some stop =>
    have hexplains := explains_stoppedBy _ limit k (hk.tellsHalt hb) stop hs
    have hstopped := ha.stoppedBy (.cycles k) stop
    have hbefore' : ((s.remember.advances k).stoppedBy (.cycles k) stop).before =
        (s.remember.advances k).before := by cases stop <;> rfl
    exact ⟨hends, hpasses, hstopped.machine, hstopped.sinceTick,
      hstopped.breakpoints.trans (ha.breakpoints.symm.trans hbreak), hbefore'.trans hbefore,
      hexplains, hexplains.shows⟩
  | none =>
    have hnot := (stop?_eq_none_iff_not_stops _).mp hs
    exact ⟨hends, hpasses, ha.machine, ha.sinceTick, hbreak, hbefore, .limit hnot, .limit hnot⟩

def loopAtBreakpoint : Session where
  machine :=
    { surface := .standard, random := .zeros,
      memory := .holding [0x70, 0x01, 0x12, 0x00] (by decide) }
  breakpoints := [0x200]

/-- The breakpoint at which a loop starts stops it when it comes back there. -/
theorem resume_stops_first_loop :
    (blocked? loopAtBreakpoint.machine = none ∧ (1 : Int) ≤ 10) ∧
      loopAtBreakpoint.Resumed 10 2 (loopAtBreakpoint.resume 10) ∧
      (loopAtBreakpoint.resume 10).notice = .breakpointHit 0x200 (.cycles 2) ∧
      (loopAtBreakpoint.resume 10).notice.text = "Breakpoint hit at 0x200 (ran 2 cycles)" := by
  have hb : blocked? loopAtBreakpoint.machine = none := rfl
  have hfirst : loopAtBreakpoint.advance.2.stop? = none := by decide +kernel
  have hback : (loopAtBreakpoint.advances 2).machine.pc ∈ (loopAtBreakpoint.advances 2).breakpoints := by
    decide +kernel
  have hnotice : (loopAtBreakpoint.resume 10).notice = .breakpointHit 0x200 (.cycles 2) := by
    decide +kernel
  have hends : loopAtBreakpoint.EndsAfter 10 2 := by
    refine ⟨by decide, by decide, ?_, Or.inl (Or.inr (Or.inr hback))⟩
    intro j h1 h2
    obtain rfl : j = 1 := by omega
    exact (stop?_eq_none_iff_not_stops _).mp hfirst
  obtain ⟨k, hk⟩ := resume_stops_first loopAtBreakpoint hb 10 (by decide)
  obtain rfl : k = 2 := hk.ends.unique hends
  exact ⟨⟨hb, by decide⟩, hk, hnotice, by rw [hnotice]; decide +kernel⟩

end Session

end Debugger

end Chip8
