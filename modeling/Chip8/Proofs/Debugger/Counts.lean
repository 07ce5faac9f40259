import Chip8.Proofs.Debugger.Stops

namespace Chip8.Debugger

theorem TellsHalt.count?_eq_none {m : Machine Display} {notice : Notice} (h : TellsHalt m notice) :
    notice.count? = none := by
  cases h <;> rfl

theorem count?_of_blocked (m : Machine Display) (reason : Notice) (h : blocked? m = some reason) :
    reason.count? = none := by
  unfold blocked? at h
  split at h
  · obtain rfl := Option.some.inj h
    rfl
  · split at h
    · obtain rfl := Option.some.inj h
      rfl
    · cases h

namespace Session

/-- What the second session tells of a run from the first is true: the number of instructions that it
says the run has had, and the reason of a halt, if there was one. If there was none, it does say a
number, unless the run was blocked. Both are there for the user to read. -/
structure TellsTruth (s r : Session) : Prop where
  count : ∀ n, r.notice.count? = some n →
    (r.machine.cycles : Int) = s.machine.cycles + n ∧ ShowsCount n r.notice.text
  halt : s.machine.halted = false → r.machine.halted = true →
    TellsHalt r.machine r.notice ∧ ShowsHalt r.machine r.notice.text
  speaks : blocked? s.machine = none → r.machine.halted = false → r.notice.count?.isSome

/-- From the first session it took so many turns to the second: those that are counted, and the one
that has halted the machine. -/
def Counted (s r : Session) (turns : Nat) : Prop :=
  ∃ n, r.machine.cycles = s.machine.cycles + n ∧ turns = n + r.machine.halted.toNat

/-- A session tells the reason of its halt, or else this number of instructions. -/
structure Tells (s : Session) (turns : Nat) : Prop where
  halt : s.machine.halted = true → TellsHalt s.machine s.notice
  count : s.machine.halted = false → s.notice.count? = some (turns : Int)

theorem Counted.tellsTruth {s r : Session} {turns : Nat} (hc : s.Counted r turns)
    (h : r.Tells turns) : s.TellsTruth r := by
  obtain ⟨counted, hcycles, hturns⟩ := hc
  refine ⟨?_, fun _ hh => ⟨h.halt hh, (h.halt hh).shows⟩, ?_⟩
  · intro n hn
    refine ⟨?_, r.notice.showsCount n hn⟩
    cases hh : r.machine.halted with
    | true =>
      -- The reason of a halt comes without a number.
      rw [(h.halt hh).count?_eq_none] at hn
      cases hn
    | false =>
      rw [hh, Bool.toNat_false, Nat.add_zero] at hturns
      obtain rfl : (turns : Int) = n := Option.some.inj ((h.count hh).symm.trans hn)
      rw [hturns, hcycles]
      exact Int.natCast_add _ _
  · intro _ hh
    rw [h.count hh]
    rfl

theorem tells_notify (s : Session) (hb : blocked? s.machine = none) (notice : Notice) (turns : Nat)
    (h : notice.count? = some (turns : Int)) : (s.notify notice).Tells turns := by
  have hh := ((blocked?_eq_none_iff s.machine).mp hb).1
  refine ⟨?_, fun _ => h⟩
  intro hhalted
  exact absurd (hh.symm.trans hhalted) Bool.false_ne_true

@[simp] theorem stoppedBy_machine (s : Session) (tally : Tally) (stop : Stop) :
    (s.stoppedBy tally stop).machine = s.machine := by
  cases stop <;> rfl

/-- A run that something stops tells what it is, and how far it has come. -/
theorem tells_stoppedBy (s : Session) (tally : Tally) (stop : Stop) (hs : s.stop? = some stop)
    (h : s.machine.halted = true → TellsHalt s.machine s.notice) :
    (s.stoppedBy tally stop).Tells tally.count := by
  have hgoesOn (hh : s.machine.halted = false) (hhalted : s.machine.halted = true) (p : Prop) : p :=
    absurd (hh.symm.trans hhalted) Bool.false_ne_true
  rcases stop?_cases s stop hs with ⟨rfl, hh⟩ | ⟨x, rfl, hh, -⟩ | ⟨rfl, hh, -⟩
  · exact ⟨h, fun hfalse => hgoesOn hfalse hh _⟩
  · exact ⟨fun hhalted => hgoesOn hh hhalted _, fun _ => rfl⟩
  · exact ⟨fun hhalted => hgoesOn hh hhalted _, fun _ => rfl⟩

theorem counted_advances (s : Session) (k : Nat)
    (h : ∀ j, j < k + 1 → blocked? (s.advances j).machine = none) :
    s.Counted (s.advances (k + 1)) (k + 1) := by
  induction k with
  | zero =>
    rcases advance_cases s (h 0 Nat.one_pos) with ⟨hh, hc⟩ | ⟨hh, hc⟩
    · exact ⟨0, hc, by rw [advances, advances, hh]; rfl⟩
    · exact ⟨1, hc, by rw [advances, advances, hh]; rfl⟩
  | succ k ih =>
    obtain ⟨n, hn, hturns⟩ := ih fun j hj => h j (Nat.lt_succ_of_lt hj)
    have hb := h (k + 1) (Nat.lt_succ_self _)
    have hgoesOn := ((blocked?_eq_none_iff _).mp hb).1
    rw [hgoesOn, Bool.toNat_false, Nat.add_zero] at hturns
    have hadd : s.advances (k + 1 + 1) = (s.advances (k + 1)).advance.2 := advances_add s (k + 1) 1
    rw [hadd]
    -- None of the turns before has halted the machine, so only this one can go uncounted.
    rcases advance_cases _ hb with ⟨hh, hc⟩ | ⟨hh, hc⟩
    · exact ⟨n, hc.trans hn, by rw [hh, hturns]; rfl⟩
    · exact ⟨n + 1, by rw [hc, hn, Nat.add_assoc], by rw [hh, hturns]; rfl⟩

theorem stretch_counted (s : Session) (hb : blocked? s.machine = none) (limit : Nat) :
    s.Counted (s.stretch limit).session (s.stretch limit).ran ∧
      ((s.stretch limit).stop = none → blocked? (s.stretch limit).session.machine = none) ∧
      ∀ stop, (s.stretch limit).stop = some stop → (s.stretch limit).session.stop? = some stop ∧
        ((s.stretch limit).session.machine.halted = true →
          TellsHalt (s.stretch limit).session.machine (s.stretch limit).session.notice) := by
  cases limit with
  | zero =>
    have hh := ((blocked?_eq_none_iff s.machine).mp hb).1
    refine ⟨⟨0, rfl, ?_⟩, fun _ => hb, fun stop hs => by cases hs⟩
    simp [stretch, stretchFrom, hh]
  | succ n =>
    obtain ⟨k, hk, heq⟩ := stretch_endsAfter s (n + 1) (Nat.succ_pos n)
    rw [heq]
    refine ⟨?_, ?_, fun stop hs => ⟨hs, hk.tellsHalt hb⟩⟩
    · obtain ⟨j, rfl⟩ := Nat.exists_eq_add_of_le' hk.pos
      exact counted_advances s j (hk.unblocked hb)
    · intro hs
      exact unblocked_of_not_stops _ ((stop?_eq_none_iff_not_stops _).mp hs)

theorem tellsTruth_of_blocked (s : Session) (reason : Notice)
    (hb : blocked? s.machine = some reason) : s.TellsTruth (s.notify reason) := by
  refine ⟨?_, fun hs hr => absurd (hs.symm.trans hr) Bool.false_ne_true, ?_⟩
  · intro n hn
    have hn' : reason.count? = some n := hn
    rw [count?_of_blocked _ _ hb] at hn'
    cases hn'
  · intro hgoesOn
    rw [hgoesOn] at hb
    cases hb

theorem resume_tellsTruth (s : Session) (limit : Int) (hl : 0 ≤ limit) :
    s.TellsTruth (s.resume limit) := by
  unfold resume
  cases hb : blocked? s.machine with
  | some reason => exact tellsTruth_of_blocked s reason hb
  | none =>
    obtain ⟨hc, hnone, hsome⟩ := stretch_counted s.remember hb limit.toNat
    have hran : (s.remember.stretch limit.toNat).stop = none →
        (s.remember.stretch limit.toNat).ran = 0 + limit.toNat :=
      stretchFrom_ran s.remember 0 limit.toNat
    generalize s.remember.stretch limit.toNat = r at hc hnone hsome hran
    dsimp only
    cases hs : r.stop with
    | some stop =>
      obtain ⟨hstop, htells⟩ := hsome stop hs
      have hc' : s.Counted (r.session.stoppedBy (.cycles r.ran) stop) r.ran := by
        rw [Counted, stoppedBy_machine]
        exact hc
      exact hc'.tellsTruth (tells_stoppedBy r.session (.cycles r.ran) stop hstop htells)
    | none =>
      have hlimit : (Notice.cycleLimit limit).count? = some (r.ran : Int) := by
        refine congrArg some ?_
        rw [hran hs]
        omega
      have hc' : s.Counted (r.session.notify (.cycleLimit limit)) r.ran := hc
      exact hc'.tellsTruth (tells_notify r.session (hnone hs) _ _ hlimit)

/-- A frame is a stretch after which it is told what has stopped the program, or how far it is. -/
theorem frame_stretch (s : Session) (hz : Int) (limit : Option Nat) (steps : Nat) :
    ∃ budget, budget ≤ stepsPerFrame hz ∧ let r := s.remember.stretch budget
      (∀ stop, r.stop = some stop → s.frame hz limit steps =
        ⟨r.session.stoppedBy (.steps (steps + r.ran) hz) stop, steps + r.ran, .ended⟩) ∧
      (r.stop = none → ∃ sequel, sequel ≠ .ended ∧ s.frame hz limit steps =
        ⟨r.session.notify (.runningAt hz (steps + r.ran) r.session.machine.pc), steps + r.ran,
          sequel⟩) := by
  cases limit with
  | none =>
    refine ⟨stepsPerFrame hz, Nat.le_refl _, ?_, ?_⟩
    · intro stop hs
      simp only [frame, hs]
    · intro hs
      refine ⟨.goesOn, by decide, ?_⟩
      simp only [frame, hs, Bool.false_eq_true, if_false]
  | some n =>
    refine ⟨min (stepsPerFrame hz) (n - steps), Nat.min_le_left _ _, ?_, ?_⟩
    · intro stop hs
      simp only [frame, hs]
    · intro hs
      refine ⟨_, ?_, by simp only [frame, hs]; rfl⟩
      split <;> decide

theorem frame_counted (s r : Session) (hb : blocked? r.machine = none) (hz : Int)
    (limit : Option Nat) (steps : Nat) (hc : s.Counted r steps) :
    s.Counted (r.frame hz limit steps).session (r.frame hz limit steps).steps ∧
      ((r.frame hz limit steps).sequel = .ended →
        (r.frame hz limit steps).session.Tells (r.frame hz limit steps).steps) ∧
      ((r.frame hz limit steps).sequel ≠ .ended →
        blocked? (r.frame hz limit steps).session.machine = none) := by
  have hgoesOn := ((blocked?_eq_none_iff r.machine).mp hb).1
  obtain ⟨n, hn, hsteps⟩ := hc
  rw [hgoesOn, Bool.toNat_false, Nat.add_zero] at hsteps
  obtain ⟨budget, -, hstopped, hrunning⟩ := frame_stretch r hz limit steps
  obtain ⟨hturns, hnone, hsome⟩ := stretch_counted r.remember hb budget
  generalize r.remember.stretch budget = q at hstopped hrunning hturns hnone hsome
  have hq : s.Counted q.session (steps + q.ran) := by
    obtain ⟨a, ha, hran⟩ := hturns
    refine ⟨n + a, ?_, ?_⟩
    · rw [ha, ← Nat.add_assoc, ← hn]
      rfl
    · rw [hsteps, hran, Nat.add_assoc]
  cases hs : q.stop with
  | some stop =>
    obtain ⟨hstop, htells⟩ := hsome stop hs
    rw [hstopped stop hs]
    refine ⟨?_, fun _ => tells_stoppedBy q.session (.steps (steps + q.ran) hz) stop hstop htells,
      fun h => absurd rfl h⟩
    rw [Counted, stoppedBy_machine]
    exact hq
  | none =>
    obtain ⟨sequel, hne, heq⟩ := hrunning hs
    rw [heq]
    exact ⟨hq, fun h => absurd h hne, fun _ => hnone hs⟩

/-- What a run at speed tells at its end is true, unless the user interrupts the drawing of the frame
in which it halts: that it tells one instruction too many, and nothing of the halt. -/
structure Accounts (s : Session) (hz : Int) (r : SpeedRun) : Prop where
  stopped : r.ending = .stopped → s.TellsTruth r.session
  paused : r.ending = .paused → r.session.machine.halted = false → s.TellsTruth r.session
  lost : r.ending = .paused → r.session.machine.halted = true →
    ∃ n, r.session.machine.cycles = s.machine.cycles + n ∧ r.session.notice = .paused (n + 1) hz ∧
      r.session.notice.text = s!"Paused after {n + 1} steps at {hz} Hz."

namespace Accounts

theorem of_unfinished (s : Session) (hz : Int) (r : SpeedRun) (hs : r.ending ≠ .stopped)
    (hp : r.ending ≠ .paused) : s.Accounts hz r :=
  ⟨fun h => absurd h hs, fun h => absurd h hp, fun h => absurd h hp⟩

theorem of_stopped (s : Session) (hz : Int) (r : SpeedRun) (hs : r.ending = .stopped)
    (h : s.TellsTruth r.session) : s.Accounts hz r := by
  have hp : r.ending ≠ .paused := by simp [hs]
  exact ⟨fun _ => h, fun hpaused => absurd hpaused hp, fun hpaused => absurd hpaused hp⟩

end Accounts

namespace Counted

variable {s r : Session} {steps : Nat}

theorem accounts_paused (hc : s.Counted r steps) (hz : Int) (t : Trace) :
    s.Accounts hz ⟨r.paused steps hz, t, .paused⟩ := by
  refine ⟨fun h => Ending.noConfusion h, ?_, ?_⟩
  · intro _ hh
    have hc' : s.Counted (r.paused steps hz) steps := hc
    refine hc'.tellsTruth ⟨?_, fun _ => rfl⟩
    intro hhalted
    exact absurd (hh.symm.trans hhalted) Bool.false_ne_true
  · -- The turn that has halted the machine is among the steps, but not among its cycles.
    intro _ hh
    obtain ⟨n, hn, hsteps⟩ := hc
    have hhalted : r.machine.halted = true := hh
    rw [hhalted, Bool.toNat_true] at hsteps
    refine ⟨n, hn, ?_⟩
    rw [hsteps]
    exact ⟨rfl, rfl⟩

theorem accounts_close (hc : s.Counted r steps) (ht : r.Tells steps) (host : Host) (hz : Int)
    (t : Trace) : s.Accounts hz (r.close host hz steps t) := by
  unfold close
  split
  · exact hc.accounts_paused hz _
  · exact .of_stopped s hz _ rfl (hc.tellsTruth ht)

end Counted

theorem frames_accounts (host : Host) (hz : Int) (interval : Float) (limit : Option Nat)
    (patience steps : Nat) (s r : Session) (t : Trace) (hb : blocked? r.machine = none)
    (hc : s.Counted r steps) :
    s.Accounts hz (frames host hz interval limit patience steps r t) := by
  -- By induction on the frames still allowed: each starts unblocked, with all its turns counted.
  induction patience generalizing steps r t with
  | zero => exact .of_unfinished s hz _ (by simp [frames]) (by simp [frames])
  | succ patience ih =>
    obtain ⟨hf, hended, hgoesOn⟩ := frame_counted s r hb hz limit steps hc
    have hafter := frames_afterFrame host hz interval limit patience steps r t
    generalize frames host hz interval limit (patience + 1) steps r t = q at hafter ⊢
    cases hafter with
    | unread => exact .of_unfinished s hz _ (by simp) (by simp)
    | ended t' ht h => exact hf.accounts_close (hended h) host hz t'
    | interrupted t' => exact hf.accounts_paused hz t'
    | limitReached t' ht h =>
      have hlimit : s.Counted ((r.frame hz limit steps).session.notify
          (.stepLimit (r.frame hz limit steps).steps)) (r.frame hz limit steps).steps := hf
      exact hlimit.accounts_close (tells_notify _ (hgoesOn (by simp [h])) _ _ rfl) host hz t'
    | unreadAfter => exact .of_unfinished s hz _ (by simp) (by simp)
    | goesOn t' ht h =>
      exact ih (r.frame hz limit steps).steps (r.frame hz limit steps).session t'
        (hgoesOn (by simp [h])) hf

theorem runAtSpeed_accounts (s : Session) (host : Host) (hz : Int) (limit : Option Nat)
    (t : Trace) : s.Accounts hz (s.runAtSpeed host hz limit t) := by
  cases hb : blocked? s.machine with
  | some reason =>
    rw [runAtSpeed_blocked s host hz limit t reason hb]
    exact .of_stopped s hz _ rfl (tellsTruth_of_blocked s reason hb)
  | none =>
    have hh := ((blocked?_eq_none_iff s.machine).mp hb).1
    have hc : s.Counted (s.atRate hz) 0 := by
      refine ⟨0, rfl, ?_⟩
      rw [atRate, hh]
      rfl
    unfold runAtSpeed
    rw [hb]
    dsimp only
    cases frameInterval hz with
    | error why => exact .of_unfinished s hz _ (by simp) (by simp)
    | ok interval => exact frames_accounts host hz interval limit _ 0 s (s.atRate hz) t hb hc

/-- Running on tells the truth: the number of instructions that it says it has had is by how much the
machine's own count has grown, and a halt is told with its reason. So does a run at speed, also where
the user interrupts it between two frames. But if the user interrupts the drawing of the frame in which
it halts, it says one instruction more than there were, and does not tell of the halt. -/
theorem runs_tell_truth (s : Session) :
    (∀ limit, 0 ≤ limit → s.TellsTruth (s.resume limit)) ∧
      ∀ (host : Host) (hz : Int) (limit : Option Nat) (t : Trace),
        s.Accounts hz (s.runAtSpeed host hz limit t) :=
  ⟨s.resume_tellsTruth, s.runAtSpeed_accounts⟩

def loadAndHalt : Session where
  machine := { surface := .standard, random := .zeros, memory := .holding [0x60, 0x01] (by decide) }

def hastyHost : Host where
  draws := true
  clock _ := .ok 0
  interruptsFrame k := k = 0
  interruptsPause _ := false
  patience := 1

/-- That program tells that it has halted, and where, if it is run on. -/
theorem runs_tell_truth_halt :
    (0 : Int) ≤ 5 ∧ loadAndHalt.TellsTruth (loadAndHalt.resume 5) ∧
      (loadAndHalt.resume 5).notice = .zeroWord 0x202 ∧
      (loadAndHalt.resume 5).notice.text = "CPU halted at 0x202 (zero opcode)." ∧
      loadAndHalt.Accounts 60 (loadAndHalt.runAtSpeed hastyHost 60 none {}) := by
  have hnotice : (loadAndHalt.resume 5).notice = .zeroWord 0x202 := by decide +kernel
  obtain ⟨hresume, hrun⟩ := runs_tell_truth loadAndHalt
  exact ⟨by decide, hresume 5 (by decide), hnotice, by rw [hnotice]; decide +kernel,
    hrun hastyHost 60 none {}⟩

/-- Interrupted as it halts, that program has executed one instruction, tells two, and does not tell
that it has halted. -/
theorem interrupted_halt_misreported :
    (loadAndHalt.runAtSpeed hastyHost 60 none {}).ending = .paused ∧
      (loadAndHalt.runAtSpeed hastyHost 60 none {}).session.machine.halted = true ∧
      (loadAndHalt.runAtSpeed hastyHost 60 none {}).session.machine.cycles = 1 ∧
      (loadAndHalt.runAtSpeed hastyHost 60 none {}).session.notice = .paused 2 60 ∧
      (loadAndHalt.runAtSpeed hastyHost 60 none {}).session.notice.text =
        "Paused after 2 steps at 60 Hz." ∧
      ¬loadAndHalt.TellsTruth (loadAndHalt.runAtSpeed hastyHost 60 none {}).session := by
  have hend : (loadAndHalt.runAtSpeed hastyHost 60 none {}).ending = .paused ∧
      (loadAndHalt.runAtSpeed hastyHost 60 none {}).session.machine.halted = true ∧
      (loadAndHalt.runAtSpeed hastyHost 60 none {}).session.machine.cycles = 1 ∧
      (loadAndHalt.runAtSpeed hastyHost 60 none {}).session.notice = .paused 2 60 := by
    decide +kernel
  obtain ⟨hpaused, hhalted, hcycles, hnotice⟩ := hend
  refine ⟨hpaused, hhalted, hcycles, hnotice, by rw [hnotice]; decide +kernel, ?_⟩
  intro h
  have hcount := (h.count 2 (by rw [hnotice]; rfl)).1
  rw [hcycles] at hcount
  exact absurd hcount (by decide)

end Session

end Chip8.Debugger
