import Chip8.CommandLine.Answer
import Chip8.Proofs.Debugger.Stretch
import Chip8.Proofs.Headless.Paced
import Chip8.Proofs.Rom

namespace Chip8.Headless

open Debugger

/-- The ways in which a program ends headless and under a debugger that has done the same with it:
neither has halted, and the last instruction was or was not one before a tick; it has come to a zero
word; or it has failed. -/
inductive EndsTogether (period : Nat) : Finish Display → Session → Prop where
  | onTick (s : Session) (hh : s.machine.halted = false) (hc : period ∣ s.machine.cycles) :
    EndsTogether period ⟨s.machine, none⟩ s
  | betweenTicks (s : Session) (hh : s.machine.halted = false) (hc : ¬ period ∣ s.machine.cycles) :
    EndsTogether period ⟨s.machine.tick, none⟩ s
  | zeroWord (s : Session) (hh : s.machine.halted = true) (hm : s.machine.mode = .running) :
    EndsTogether period ⟨s.machine.tick, none⟩ s
  | failed (s : Session) (m : Machine Display) (fault : Fault)
    (hs : s.machine = { m with halted := true }) (hh : m.halted = false) (hm : m.mode = .running)
    (hn : s.notice = .failed m.pc fault) : EndsTogether period ⟨m, some fault⟩ s

/-- A session that a headless run can keep in step with: it goes on wherever the program does, and
its timers have ticked at every multiple of their period. -/
structure InStep (limits : Limits) (s : Session) : Prop where
  unblocked : blocked? s.machine = none
  breakpoints : s.breakpoints = []
  period : limits.cyclesPerTick = tickPeriod s.hz
  since : s.machine.cycles % limits.cyclesPerTick = s.sinceTick

theorem InStep.counted {limits : Limits} {s : Session} (h : InStep limits s) (m : Machine Display)
    (since : Nat) (hh : m.halted = false) (hm : m.mode = .running)
    (hs : m.cycles % limits.cyclesPerTick = since) :
    InStep limits { s with machine := m, sinceTick := since } :=
  ⟨(blocked?_eq_none_iff m).mpr ⟨hh, hm⟩, h.breakpoints, h.period, hs⟩

theorem advance_inStep (limits : Limits) (hzero : limits.stopAtZero = true) (left : Nat)
    (s : Session) (h : InStep limits s) :
    InStep limits s.advance.2 ∧ paced limits (left + 1) s.sinceTick s.machine =
        paced limits left s.advance.2.sinceTick s.advance.2.machine ∨
      s.advance.2.stop? ≠ none ∧ EndsTogether limits.cyclesPerTick
        (paced limits (left + 1) s.sinceTick s.machine) s.advance.2 := by
  obtain ⟨hh, hm⟩ := (blocked?_eq_none_iff s.machine).mp h.unblocked
  have hsince := h.since
  rw [h.period] at hsince
  rw [paced, Session.advance_of_running s h.unblocked, hzero]
  obtain ⟨fault, m, hr, hm', hh', -⟩ | ⟨-, -, hr⟩ | ⟨m, hr, -, hh', hc⟩ :=
    Machine.runStep_cases s.machine true hm
  · right
    simp only [hr]
    exact ⟨by simp, .failed _ m fault rfl (hh'.trans hh) hm' rfl⟩
  · right
    simp only [hr]
    refine ⟨by simp, ?_⟩
    exact .zeroWord (Session.halt { s with machine := { s.machine with halted := true } } _) rfl hm
  · rw [hh] at hh'
    simp only [hr]
    -- The two sides tick here together or not at all, before either looks at the key wait.
    obtain ⟨hlast, hmod, hcount⟩ | ⟨hlast, hmod, hcount⟩ := Session.count_cases s m hsince hc
    · rw [← h.period] at hlast hmod
      rw [hcount, if_pos hlast]
      by_cases hm' : m.mode = .running
      · left
        rw [if_neg (not_not_intro hm')]
        exact ⟨h.counted m.tick 0 hh' hm' hmod, rfl⟩
      · right
        rw [if_pos hm']
        refine ⟨?_, .onTick { s with machine := m.tick, sinceTick := 0 } hh'
          (Nat.dvd_of_mod_eq_zero hmod)⟩
        exact Session.stop?_of_waiting _ hm'
    · rw [← h.period] at hlast hmod
      rw [hcount, if_neg hlast]
      by_cases hm' : m.mode = .running
      · left
        rw [if_neg (not_not_intro hm')]
        exact ⟨h.counted m (s.sinceTick + 1) hh' hm' hmod, rfl⟩
      · right
        rw [if_pos hm']
        refine ⟨?_, .betweenTicks { s with machine := m, sinceTick := s.sinceTick + 1 } hh' ?_⟩
        · exact Session.stop?_of_waiting _ hm'
        · intro hd
          exact Nat.succ_ne_zero _ (hmod.symm.trans (Nat.mod_eq_zero_of_dvd hd))

theorem paced_endsTogether (limits : Limits) (hzero : limits.stopAtZero = true) (left ran : Nat)
    (s : Session) (h : InStep limits s) :
    EndsTogether limits.cyclesPerTick (paced limits left s.sinceTick s.machine)
      (s.stretchFrom ran left).session := by
  induction left generalizing s ran with
  | zero =>
    obtain ⟨hh, hm⟩ := (blocked?_eq_none_iff s.machine).mp h.unblocked
    simp only [paced, Session.stretchFrom]
    split
    · next h0 => exact .onTick s hh (Nat.dvd_of_mod_eq_zero (h.since.trans h0))
    · next h0 =>
      exact .betweenTicks s hh fun hd => h0 (h.since.symm.trans (Nat.mod_eq_zero_of_dvd hd))
  | succ left ih =>
    rw [Session.stretchFrom_next]
    obtain ⟨hnext, hpaced⟩ | ⟨hstop, hend⟩ := advance_inStep limits hzero left s h
    · rw [if_pos ((Session.stop?_eq_none_iff _ hnext.breakpoints).mpr hnext.unblocked), hpaced]
      exact ih (ran + 1) s.advance.2 hnext
    · rw [if_neg hstop]
      exact hend

/-- Whether the timers have ticked once more after the last instruction: a headless run ends with a
tick, unless it fails, and this one is new unless the run has just ticked and executed nothing
since. -/
def Finish.furtherTick (period : Nat) (f : Finish Display) : Bool :=
  match f.reason with
  | .halted => true
  | .failed => false
  | .waiting _ | .limitReached => !decide (period ∣ f.machine.cycles)

/-- A program has ended headless as it has under a debugger. -/
structure SameEnd (period : Nat) (f : Finish Display) (s : Session) : Prop where
  v : f.machine.registers.v = s.machine.registers.v
  i : f.machine.registers.i = s.machine.registers.i
  pc : f.machine.registers.pc = s.machine.registers.pc
  stack : f.machine.registers.stack = s.machine.registers.stack
  timers : f.machine.registers.dt =
      (if f.furtherTick period then s.machine.tick else s.machine).registers.dt ∧
    f.machine.registers.st =
      (if f.furtherTick period then s.machine.tick else s.machine).registers.st
  memory : f.machine.memory = s.machine.memory
  surface : f.machine.surface = s.machine.surface
  mode : f.machine.mode = s.machine.mode
  cycles : f.machine.cycles = s.machine.cycles
  random : f.machine.random = s.machine.random
  halted : s.machine.halted = true ↔ f.reason = .halted ∨ f.reason = .failed
  failed : f.reason = .failed ↔ f.fault ≠ none
  faultLines : f.fault ≠ none → f.faultLines "Error" = [s.notice.text]

theorem EndsTogether.notify {period : Nat} {f : Finish Display} {s : Session}
    (h : EndsTogether period f s) (hs : s.machine.halted = false) (notice : Notice) :
    EndsTogether period f (s.notify notice) := by
  cases h with
  | onTick _ hh hc => exact .onTick (s.notify notice) hh hc
  | betweenTicks _ hh hc => exact .betweenTicks (s.notify notice) hh hc
  | zeroWord _ hh hm => exact absurd (hs.symm.trans hh) Bool.false_ne_true
  | failed _ m fault hm => simp [hm] at hs

theorem resume_endsTogether (limits : Limits) (hzero : limits.stopAtZero = true) (s : Session)
    (h : InStep limits s) (hc : s.machine.cycles = 0) :
    EndsTogether limits.cyclesPerTick (run limits s.machine) (s.resume limits.maxCycles) := by
  obtain ⟨hh, hm⟩ := (blocked?_eq_none_iff s.machine).mp h.unblocked
  have hsince : s.sinceTick = 0 := by rw [← h.since, hc, Nat.zero_mod]
  have hpaced := run_eq_paced limits s.machine hh hm (h.period ▸ tickPeriod_pos s.hz)
  rw [hc, Nat.sub_zero, ← hsince] at hpaced
  have hend := paced_endsTogether limits hzero limits.maxCycles 0 s.remember
    ⟨h.unblocked, h.breakpoints, h.period, h.since⟩
  change EndsTogether _ (paced _ _ s.sinceTick s.machine)
    (s.remember.stretch limits.maxCycles).session at hend
  have hhalted := Session.stretchFrom_halted s.remember 0 limits.maxCycles hh
  change (s.remember.stretch limits.maxCycles).session.machine.halted = true →
    (s.remember.stretch limits.maxCycles).stop = some .halted at hhalted
  rw [← hpaced] at hend
  simp only [Session.resume, h.unblocked, Int.toNat_natCast]
  cases hstop : (s.remember.stretch limits.maxCycles).session.machine.halted with
  | true =>
    rw [hhalted hstop]
    exact hend
  | false =>
    -- Nothing has halted the program, so only the notice may be replaced.
    cases (s.remember.stretch limits.maxCycles).stop with
    | none => exact hend.notify hstop _
    | some stop =>
      cases stop with
      | halted => exact hend
      | waiting x => exact hend.notify hstop _
      | breakpoint => exact hend.notify hstop _

theorem Finish.reason_of_unhalted (m : Machine Display) (hh : m.halted = false) :
    Finish.reason ⟨m, none⟩ ≠ .halted ∧ Finish.reason ⟨m, none⟩ ≠ .failed := by
  cases hm : m.mode <;> simp [reason, hm, hh]

theorem Finish.furtherTick_of_unhalted (period : Nat) (m : Machine Display)
    (hh : m.halted = false) :
    Finish.furtherTick period ⟨m, none⟩ = !decide (period ∣ m.cycles) := by
  cases hm : m.mode <;> simp [furtherTick, reason, hm, hh]

theorem Finish.faultLines_failed (m : Machine Display) (fault : Fault) :
    Finish.faultLines ⟨m, some fault⟩ "Error" = [(Notice.failed m.pc fault).text] := by
  have opening : "Error" ++ " at " = "Error at " := by decide
  unfold Notice.text
  simp only [Finish.faultLines, toString, ← opening]

theorem EndsTogether.sameEnd {period : Nat} {f : Finish Display} {s : Session}
    (h : EndsTogether period f s) : SameEnd period f s := by
  cases h with
  | onTick _ hh hc =>
    obtain ⟨hr, hr'⟩ := Finish.reason_of_unhalted s.machine hh
    have ht := Finish.furtherTick_of_unhalted period s.machine hh
    refine ⟨rfl, rfl, rfl, rfl, ?_, rfl, rfl, rfl, rfl, rfl, ?_, ?_, ?_⟩
    · simp [ht, hc]
    · simp [hr, hr', hh]
    · simp [hr']
    · simp
  | betweenTicks _ hh hc =>
    obtain ⟨hr, hr'⟩ := Finish.reason_of_unhalted s.machine.tick hh
    have ht := Finish.furtherTick_of_unhalted period s.machine.tick hh
    refine ⟨rfl, rfl, rfl, rfl, ?_, rfl, rfl, rfl, rfl, rfl, ?_, ?_, ?_⟩
    · simp [ht, show ¬ period ∣ s.machine.tick.cycles from hc]
    · simp [hr, hr', hh]
    · simp [hr']
    · simp
  | zeroWord _ hh hm =>
    have hr : Finish.reason ⟨s.machine.tick, none⟩ = .halted := by
      simp [Finish.reason, Machine.tick, hh, hm]
    refine ⟨rfl, rfl, rfl, rfl, ?_, rfl, rfl, rfl, rfl, rfl, ?_, ?_, ?_⟩
    · simp [Finish.furtherTick, hr]
    · simp [hr, hh]
    · simp [hr]
    · simp
  | failed _ m fault hs hh hm hn =>
    have hr : Finish.reason ⟨m, some fault⟩ = .failed := by
      simp [Finish.reason, hh, hm]
    have ht : Finish.furtherTick period ⟨m, some fault⟩ = false := by
      simp [Finish.furtherTick, hr]
    have hline := Finish.faultLines_failed m fault
    rw [← hn] at hline
    refine ⟨?_, ?_, ?_, ?_, ?_, ?_, ?_, ?_, ?_, ?_, ?_, ?_, fun _ => hline⟩
    all_goals simp [hs, hr, ht]

/-- Whatever a program does, a headless run and a debugger that runs on without breakpoints bring it
to the same end, if their timers have the same period. -/
theorem run_sameEnd_resume (path : String) (rom : List UInt8) (hpos : 1 ≤ rom.length)
    (hsize : rom.length ≤ Rom.maxSize) (random : RandomSource) (cyclesPerTick maxCycles : Nat)
    (hz : Int) (hperiod : tickPeriod hz = cyclesPerTick) :
    ∃ m, Rom.load (CommandLine.machine random) path (.ok rom) = .ok (rom.length, m) ∧
      SameEnd cyclesPerTick (run { maxCycles, cyclesPerTick, stopAtZero := true } m)
        (({ machine := m, hz } : Session).resume maxCycles) := by
  refine ⟨_, Rom.load_of_fits (CommandLine.machine random) path rom hpos hsize, ?_⟩
  subst hperiod
  have hend := resume_endsTogether
    { maxCycles, cyclesPerTick := tickPeriod hz, stopAtZero := true } rfl
    { machine := { CommandLine.machine random with
        memory := (CommandLine.machine random).memory.write programStart rom }, hz }
    ⟨rfl, rfl, rfl, Nat.zero_mod _⟩ rfl
  exact hend.sameEnd

/-- A jump to itself runs into the limit inside a batch, under both of them. -/
theorem run_sameEnd_resume_loop :
    1 ≤ [0x12, (0x00 : UInt8)].length ∧ [0x12, (0x00 : UInt8)].length ≤ Rom.maxSize ∧
      tickPeriod 600 = 10 ∧
      ∃ m, Rom.load (CommandLine.machine .zeros) "loop" (.ok [0x12, 0x00]) = .ok (2, m) ∧
        SameEnd 10 (run { maxCycles := 25, cyclesPerTick := 10, stopAtZero := true } m)
          (({ machine := m, hz := 600 } : Session).resume 25) :=
  ⟨by decide, by decide, by decide,
    run_sameEnd_resume "loop" [0x12, 0x00] (by decide) (by decide) .zeros 10 25 600 (by decide)⟩

end Chip8.Headless
