import Chip8.Proofs.Debugger.Replay
import Mathlib.Tactic.Linarith
import Mathlib.Tactic.Ring

namespace Chip8.Debugger

namespace Session

def executes (s : Session) : Bool := s.advance.2.machine.cycles == s.machine.cycles + 1

/-- The turn of a session executes the last instruction of a period, behind which the timers tick. -/
def ticks (s : Session) : Bool := s.executes && decide (tickPeriod s.hz ≤ s.sinceTick + 1)

theorem count_eq (s : Session) (m : Machine Display) (h : s.executes = true) :
    { s with machine := m }.count =
      if s.ticks then { s with machine := m.tick, sinceTick := 0 }
      else { s with machine := m, sinceTick := s.sinceTick + 1 } := by
  simp only [count, ticks, h, Bool.true_and, decide_eq_true_eq]

theorem turn_cases (s : Session) (hb : blocked? s.machine = none) :
    s.executes = false ∧ s.ticks = false ∧ s.advance.2.machine.halted = true ∧
      s.advance.2.sinceTick = s.sinceTick ∧ s.advance.2.machine.cycles = s.machine.cycles ∨
    s.executes = true ∧ s.advance.2.machine.cycles = s.machine.cycles + 1 ∧
      ∃ m, s.machine.step = .ok true m ∧
        s.advance.2 = if s.ticks then { s with machine := m.tick, sinceTick := 0 }
          else { s with machine := m, sinceTick := s.sinceTick + 1 } := by
  rcases advance_outcome s hb with ⟨hh, -, hc, hs⟩ | ⟨m, hs, -, hc, ha⟩
  · have he : s.executes = false := by simp [executes, hc]
    exact Or.inl ⟨he, by rw [ticks, he, Bool.false_and], hh, hs, hc⟩
  · have hcycles : s.advance.2.machine.cycles = s.machine.cycles + 1 := by
      rw [ha, count_cycles]
      exact hc
    have he : s.executes = true := by simp [executes, hcycles]
    exact Or.inr ⟨he, hcycles, m, hs, ha.trans (count_eq s m he)⟩

/-- The turn of a session halts its machine where it stands at a zero word, or after a step that has
failed, and does nothing else to it. -/
inductive OnlyHalts (s : Session) : Prop where
  | zeroWord (h : s.machine.fetch = .ok 0)
    (hm : s.advance.2.machine = { s.machine with halted := true })
  | failed (fault : Fault) (m : Machine Display) (h : s.machine.step = .error fault m)
    (hm : s.advance.2.machine = { m with halted := true })

theorem onlyHalts_of_not_executes (s : Session) (hb : blocked? s.machine = none)
    (h : s.executes = false) : s.OnlyHalts := by
  have hm := ((blocked?_eq_none_iff s.machine).mp hb).2
  have ha := advance_of_running s hb
  by_cases hf : s.machine.fetch = .ok 0
  · have hr : s.machine.runStep true = .ok false { s.machine with halted := true } := by
      simp [Machine.runStep, hf]
    rw [hr] at ha
    exact .zeroWord hf (congrArg (fun r => r.2.machine) ha)
  · rw [s.machine.runStep_of_ne_zero true hm hf] at ha
    obtain ⟨fault, m, hs, -⟩ | ⟨m, hs, -, hc⟩ := Machine.step_cases s.machine hm
    · rw [hs] at ha
      exact .failed fault m hs (congrArg (fun r => r.2.machine) ha)
    · -- A step that succeeds is counted.
      rw [hs] at ha
      have hcycles : s.advance.2.machine.cycles = s.machine.cycles + 1 := by
        rw [ha, count_cycles]
        exact hc
      simp [executes, hcycles] at h

/-- The timers tick so often in a stretch of instructions, of which the first follows others since the
last tick, and so many follow the last tick then. -/
structure InPeriods (period before executed ticked after : Nat) : Prop where
  ticked : ticked = (before + executed) / period
  after : after = (before + executed) % period

theorem InPeriods.next {period before executed ticked after : Nat} (h : before < period)
    (hrest : InPeriods period (if period ≤ before + 1 then 0 else before + 1)
      executed ticked after) :
    InPeriods period before (executed + 1)
      (ticked + if period ≤ before + 1 then 1 else 0) after := by
  obtain ⟨ht, ha⟩ := hrest
  split at ht
  · next hlast =>
    have hsum : before + (executed + 1) = 0 + executed + period := by omega
    rw [if_pos hlast] at ha ⊢
    refine ⟨?_, ?_⟩
    · rw [hsum, Nat.add_div_right _ (by omega), ht]
    · rw [hsum, Nat.add_mod_right, ha]
  · next hlast =>
    have hsum : before + (executed + 1) = before + 1 + executed := by omega
    rw [if_neg hlast] at ha ⊢
    exact ⟨by rw [hsum, ht, Nat.add_zero], by rw [hsum, ha]⟩

/-- What turns do to the clock of a session. Nothing blocks them. They count the instructions that
they execute, each of which leaves the machine as the step has left it or one tick later, and a turn
that executes nothing only halts. After each instruction the count since the last tick is within the
period; and as long as the period stays, there is one tick for each time that it is full. -/
structure KeepsTime (s : Session) (es : List Session) (s' : Session) : Prop where
  free : ∀ e ∈ es, blocked? e.machine = none
  cycles : s'.machine.cycles = s.machine.cycles + es.countP executes
  executed : ∀ e ∈ es, e.executes → ∃ m, e.machine.step = .ok true m ∧
    e.advance.2.machine = if e.ticks then m.tick else m
  idle : ∀ e ∈ es, e.executes = false → e.OnlyHalts ∧ e.advance.2.sinceTick = e.sinceTick
  within : ∀ e ∈ es, e.executes → e.advance.2.sinceTick < tickPeriod e.advance.2.hz
  period : ∀ P, s.sinceTick < P → (∀ e ∈ es, tickPeriod e.hz = P) →
    InPeriods P s.sinceTick (es.countP executes) (es.countP ticks) s'.sinceTick

namespace Course

variable {s s' : Session} {es : List Session}

theorem cycles (h : Course s es s') :
    s'.machine.cycles = s.machine.cycles + es.countP executes := by
  induction h with
  | rest h => exact h.cycles
  | turn h hb hc ih =>
    rw [ih, List.countP_cons, ← h.cycles]
    rcases turn_cases _ hb with ⟨he, -, -, -, hc⟩ | ⟨he, hc, -⟩
    · simp [he, hc]
    · simp only [he, hc, if_true]
      omega

theorem unblocked (h : Course s es s') : ∀ e ∈ es, blocked? e.machine = none := by
  induction h with
  | rest h => exact fun e he => absurd he List.not_mem_nil
  | turn h hb hc ih =>
    intro e he
    rcases List.mem_cons.mp he with rfl | he
    · exact hb
    · exact ih e he

theorem period (h : Course s es s') (P : Nat) (hs : s.sinceTick < P)
    (hP : ∀ e ∈ es, tickPeriod e.hz = P) :
    InPeriods P s.sinceTick (es.countP executes) (es.countP ticks) s'.sinceTick := by
  -- By induction on the turns, for any count that they start with: each turn leaves another.
  induction h with
  | rest h =>
    rw [List.countP_nil, List.countP_nil, h.sinceTick]
    exact ⟨(Nat.div_eq_of_lt hs).symm, (Nat.mod_eq_of_lt hs).symm⟩
  | @turn s e s' es h hb hc ih =>
    have hP' := hP e List.mem_cons_self
    have hrest := fun hs => ih hs fun e he => hP e (List.mem_cons_of_mem _ he)
    rw [← h.sinceTick] at hs ⊢
    rw [List.countP_cons, List.countP_cons]
    rcases turn_cases e hb with ⟨he, ht, -, hsince, -⟩ | ⟨he, -, m, -, ha⟩
    · -- Nothing is executed, and nothing counted.
      rw [hsince] at hrest
      simpa [he, ht] using hrest hs
    · -- One more is counted, and the count starts again where it fills the period.
      have ht : e.ticks = decide (P ≤ e.sinceTick + 1) := by rw [ticks, he, hP', Bool.true_and]
      have hsince : e.advance.2.sinceTick =
          if P ≤ e.sinceTick + 1 then 0 else e.sinceTick + 1 := by
        rw [ha, ht]
        by_cases hlast : P ≤ e.sinceTick + 1 <;> simp [hlast]
      rw [hsince] at hrest
      have hnext := InPeriods.next hs (hrest (by split <;> omega))
      simpa [he, ht] using hnext

theorem keepsTime (h : Course s es s') : KeepsTime s es s' where
  free := h.unblocked
  cycles := h.cycles
  executed e hmem he := by
    rcases turn_cases e (h.unblocked e hmem) with ⟨hidle, -⟩ | ⟨-, -, m, hs, ha⟩
    · exact absurd (he.symm.trans hidle) Bool.false_ne_true.symm
    · refine ⟨m, hs, ?_⟩
      rw [ha]
      split <;> rfl
  idle e hmem he := by
    refine ⟨onlyHalts_of_not_executes e (h.unblocked e hmem) he, ?_⟩
    rcases turn_cases e (h.unblocked e hmem) with ⟨-, -, -, hs, -⟩ | ⟨hexecutes, -⟩
    · exact hs
    · exact absurd (he.symm.trans hexecutes) Bool.false_ne_true
  within e hmem he := by
    have hpos := tickPeriod_pos e.hz
    rcases turn_cases e (h.unblocked e hmem) with ⟨hidle, -⟩ | ⟨-, -, m, hs, ha⟩
    · exact absurd (he.symm.trans hidle) Bool.false_ne_true.symm
    · rw [advance_hz, ha]
      split
      · exact hpos
      · next ht =>
        simp only [ticks, he, Bool.true_and, decide_eq_true_eq] at ht
        dsimp only
        omega
  period := h.period

end Course

/-- However a session is driven, by whatever commands and at whatever speeds, nothing happens to it but
the turns of the program, what the commands do by hand and the speeds that they set; and any stretch of
this keeps time. Nothing but the instructions that the turns execute is counted: a zero word and a
fault are turns that execute nothing, and commands that are blocked or act by hand are no turns. -/
theorem turns_keep_time (host : Host) (lines : List String) (s : Session) (t : Trace) :
    (afterLines host lines s t).Alike (s.acts (actsOfLines host lines s t)) ∧
      ∀ seen stretch rest, actsOfLines host lines s t = seen ++ stretch ++ rest →
        KeepsTime (s.acts seen) ((s.acts seen).turnsOf stretch) (s.acts (seen ++ stretch)) := by
  obtain ⟨halike, hplayable⟩ := lines_play host lines s t
  refine ⟨halike, ?_⟩
  intro seen stretch rest h
  rw [h] at hplayable
  have hstretch := (Playable.append_iff.mp (Playable.append_iff.mp hplayable).1).2
  rw [acts_append]
  exact hstretch.course.keepsTime

def countingLoop : Session where
  machine :=
    { surface := .standard, random := .zeros,
      memory := .holding [0x70, 0x01, 0xF1, 0x07, 0x12, 0x00] (by decide),
      registers := { dt := 9 } }
  hz := 300

/-- A step, four instructions at 310, ticks by hand, a command that cannot be read, two instructions
at 305, and three at 299. -/
def loopLines : List String := ["s", "r 310 4", "t 2", "r 0", "r 305 2", "r 299 3"]

def loopStretch : List Act :=
  [.rate 310, .turn, .turn, .turn, .turn, .hand .tick, .hand .tick, .rate 305, .turn, .turn]

/-- One tick falls into the six instructions at 310 and 305, and two of them follow it: the step before
them counts, and the ticks by hand between them do not. Another tick falls into those at 299. -/
theorem turns_keep_time_loop :
    let seen : List Act := [.turn]
    let rest : List Act := [.rate 299, .turn, .turn, .turn]
    actsOfLines impatientHost loopLines countingLoop {} = seen ++ loopStretch ++ rest ∧
      (afterLines impatientHost loopLines countingLoop {}).Alike
        (countingLoop.acts (seen ++ loopStretch ++ rest)) ∧
      (afterLines impatientHost loopLines countingLoop {}).machine.registers.dt = 9 - 2 - 2 ∧
      KeepsTime (countingLoop.acts seen) ((countingLoop.acts seen).turnsOf loopStretch)
        (countingLoop.acts (seen ++ loopStretch)) ∧
      InPeriods 5 1 6 1 (countingLoop.acts (seen ++ loopStretch)).sinceTick := by
  intro seen rest
  have hacts : actsOfLines impatientHost loopLines countingLoop {} =
      seen ++ loopStretch ++ rest := by decide +kernel
  have hdt : (afterLines impatientHost loopLines countingLoop {}).machine.registers.dt = 9 - 2 - 2 := by
    decide +kernel
  have hcounts : ((countingLoop.acts seen).turnsOf loopStretch).countP executes = 6 ∧
      ((countingLoop.acts seen).turnsOf loopStretch).countP ticks = 1 ∧
      (countingLoop.acts seen).sinceTick = 1 := by decide +kernel
  have hrates : ∀ e ∈ (countingLoop.acts seen).turnsOf loopStretch, tickPeriod e.hz = 5 := by
    decide +kernel
  obtain ⟨halike, hkeeps⟩ := turns_keep_time impatientHost loopLines countingLoop {}
  have htime := hkeeps seen loopStretch rest hacts
  have hperiods := htime.period 5 (by rw [hcounts.2.2]; decide) hrates
  rw [hcounts.1, hcounts.2.1, hcounts.2.2] at hperiods
  rw [hacts] at halike
  exact ⟨hacts, halike, hdt, htime, hperiods⟩

end Session

/-- The number of ticks is within one tick of 60 a second, for so many instructions at a clock rate. -/
def NearNominal (hz : Int) (executed ticked : Nat) : Prop :=
  |60 * (executed : Int) - hz * ticked| ≤ hz

instance (hz : Int) (executed ticked : Nat) : Decidable (NearNominal hz executed ticked) :=
  inferInstanceAs (Decidable (_ ≤ _))

theorem tickPeriod_of_dvd (hz : Int) (hhz : 1 ≤ hz) (h : 60 ∣ hz) :
    60 * (tickPeriod hz : Int) = hz := by
  unfold tickPeriod
  omega

/-- Any other clock rate has a period that is too short, or too long by the one instruction that it
must have. -/
theorem tickPeriod_of_not_dvd (hz : Int) (h : ¬ 60 ∣ hz) :
    60 * (tickPeriod hz : Int) < hz ∧ hz < 60 * (tickPeriod hz : Int) + 60 ∨
      hz < 60 ∧ tickPeriod hz = 1 := by
  unfold tickPeriod
  omega

/-- The count is off by the instructions since the last tick, and by what each period lacks. -/
theorem nominal_error (hz : Int) (n : Nat) :
    60 * (n : Int) - hz * (n / tickPeriod hz : Nat) =
      60 * (n % tickPeriod hz : Nat) -
        (hz - 60 * tickPeriod hz) * (n / tickPeriod hz : Nat) := by
  have hn : (n : Int) = tickPeriod hz * (n / tickPeriod hz : Nat) + (n % tickPeriod hz : Nat) := by
    exact_mod_cast (Nat.div_add_mod n (tickPeriod hz)).symm
  calc
    60 * (n : Int) - hz * (n / tickPeriod hz : Nat)
      = 60 * (tickPeriod hz * (n / tickPeriod hz : Nat) + (n % tickPeriod hz : Nat)) -
          hz * (n / tickPeriod hz : Nat) := by rw [← hn]
    _ = _ := by ring

theorem nearNominal_of_dvd (hz : Int) (hhz : 1 ≤ hz) (h : 60 ∣ hz) (n : Nat) :
    NearNominal hz n (n / tickPeriod hz) := by
  have hP := tickPeriod_of_dvd hz hhz h
  have hr := Nat.mod_lt n (tickPeriod_pos hz)
  rw [NearNominal, nominal_error, hP, sub_self, zero_mul, sub_zero, abs_le]
  omega

theorem not_nearNominal_of_not_dvd (hz : Int) (hhz : 1 ≤ hz) (h : ¬ 60 ∣ hz) (n : Nat)
    (hn : 2 * hz * tickPeriod hz ≤ n) : ¬ NearNominal hz n (n / tickPeriod hz) := by
  rw [NearNominal, not_le]
  rcases tickPeriod_of_not_dvd hz h with ⟨hlow, hhigh⟩ | ⟨hslow, hone⟩
  · -- Each tick comes early, and the lead grows with their number.
    have hpos : (0 : Int) < tickPeriod hz := by exact_mod_cast tickPeriod_pos hz
    have hr := Nat.mod_lt n (tickPeriod_pos hz)
    have hticks : 2 * hz ≤ (n / tickPeriod hz : Nat) := by
      rw [Int.natCast_ediv]
      exact Int.le_ediv_of_mul_le hpos hn
    have hlead : ((n / tickPeriod hz : Nat) : Int) ≤
        (hz - 60 * tickPeriod hz) * (n / tickPeriod hz : Nat) :=
      le_mul_of_one_le_left (Int.natCast_nonneg _) (by omega)
    rw [nominal_error, lt_abs]
    omega
  · -- There is a tick behind every instruction, where there should be several.
    rw [hone, Nat.div_one]
    rw [hone] at hn
    have hlag : (n : Int) ≤ (60 - hz) * n := le_mul_of_one_le_left (Int.natCast_nonneg _) (by omega)
    rw [← sub_mul, lt_abs]
    omega

namespace Session

theorem hz_of_mem_turns (s : Session) (n : Nat) (e : Session) (h : e ∈ s.turns n) : e.hz = s.hz := by
  induction n generalizing s with
  | zero => exact absurd h List.not_mem_nil
  | succ n ih =>
    rcases List.mem_cons.mp h with rfl | h
    · rfl
    · exact (ih s.advance.2 h).trans (advance_hz s)

theorem length_turns (s : Session) (n : Nat) : (s.turns n).length = n := by
  induction n generalizing s with
  | zero => rfl
  | succ n ih => exact congrArg (· + 1) (ih s.advance.2)

/-- Let go on by steps, in stretches and at speed, all at one clock rate, a session only advances, and
its timers tick once for each full period of the instructions that it executes. The ticks stay within
one of 60 a second if the clock rate is a multiple of 60. At any other rate they leave that behind for
good. -/
theorem legs_tick_rate (s : Session) (ls : List Leg) (hhz : 1 ≤ s.hz) (hs : s.sinceTick = 0)
    (h : ∀ host trace hz limit, .run host trace hz limit ∈ ls → hz = s.hz) :
    Course s (s.turnsTo (s.legs ls)) (s.legs ls) ∧
    (s.legs ls).Alike (s.advances (s.turnsTo (s.legs ls)).length) ∧
    KeepsTime s (s.turnsTo (s.legs ls)) (s.legs ls) ∧
    ∃ n, (s.legs ls).machine.cycles = s.machine.cycles + n ∧
      (s.turnsTo (s.legs ls)).countP ticks = n / tickPeriod s.hz ∧
      (60 ∣ s.hz → NearNominal s.hz n ((s.turnsTo (s.legs ls)).countP ticks)) ∧
      (¬ 60 ∣ s.hz → 2 * s.hz * tickPeriod s.hz ≤ n →
        ¬ NearNominal s.hz n ((s.turnsTo (s.legs ls)).countP ticks)) := by
  have hadvances : (s.atRate s.hz).AdvancesTo (s.legs ls) := .legs s ls h
  have hcourse := hadvances.course
  have hlength : (s.turnsTo (s.legs ls)).length = s.turnCount (s.legs ls) := length_turns _ _
  have hrate : ∀ e ∈ s.turnsTo (s.legs ls), tickPeriod e.hz = tickPeriod s.hz := by
    intro e he
    rw [hz_of_mem_turns _ _ e he]
    exact congrArg tickPeriod hadvances.hz
  have hticks := (hcourse.period (tickPeriod s.hz) (by rw [hs]; exact tickPeriod_pos _) hrate).ticked
  rw [hs, Nat.zero_add] at hticks
  refine ⟨hcourse, by rw [hlength]; exact hadvances.turns.1, hcourse.keepsTime, _, hcourse.cycles,
    hticks, ?_, ?_⟩
  · intro hdvd
    rw [hticks]
    exact nearNominal_of_dvd s.hz hhz hdvd _
  · intro hdvd hn
    rw [hticks]
    exact not_nearNominal_of_not_dvd s.hz hhz hdvd _ hn

/-- A step, two frames of ten steps, and three steps more of the loop make four ticks at 300. -/
theorem legs_tick_rate_loop :
    let ls : List Leg := [.step, .run impatientHost {} 300 none, .resume 3]
    (∀ host trace hz limit, .run host trace hz limit ∈ ls → hz = countingLoop.hz) ∧
      countingLoop.hz = 300 ∧ countingLoop.sinceTick = 0 ∧
      (countingLoop.legs ls).Alike (countingLoop.advances 24) ∧
      KeepsTime countingLoop (countingLoop.turnsTo (countingLoop.legs ls)) (countingLoop.legs ls) ∧
      (countingLoop.legs ls).machine.cycles = 24 ∧
      (countingLoop.turnsTo (countingLoop.legs ls)).countP ticks = 4 ∧
      NearNominal 300 24 ((countingLoop.turnsTo (countingLoop.legs ls)).countP ticks) := by
  intro ls
  have hspeed : ∀ host trace hz limit, .run host trace hz limit ∈ ls → hz = countingLoop.hz := by
    intro host trace hz limit hmem
    obtain ⟨-, -, rfl, -⟩ : host = impatientHost ∧ trace = {} ∧ hz = 300 ∧ limit = none := by
      simpa [ls] using hmem
    rfl
  have hcycles : (countingLoop.legs ls).machine.cycles = 24 := by decide +kernel
  have hlength : (countingLoop.turnsTo (countingLoop.legs ls)).length = 24 := by decide +kernel
  obtain ⟨-, hadvances, htime, n, hn, hticks, hnear, -⟩ :=
    legs_tick_rate countingLoop ls (by decide) (by decide) hspeed
  rw [hlength] at hadvances
  have hn' : n = 24 := by
    rw [hcycles] at hn
    exact (hn.trans (Nat.zero_add n)).symm
  subst hn'
  exact ⟨hspeed, rfl, rfl, hadvances, htime, hcycles, hticks, hnear (by decide)⟩

/-- Five loads, after which a delay of five is read. Unless it has run out, V2 becomes 1. -/
def shortSleep : Session where
  machine :=
    { surface := .standard, random := .zeros,
      memory := .holding [0x61, 0x00, 0x61, 0x00, 0x61, 0x00, 0x61, 0x00, 0x61, 0x00, 0xF0, 0x07,
        0x30, 0x00, 0x62, 0x01, 0x60, 0x00, 0xF0, 0x15, 0x12, 0x14] (by decide),
      registers := { dt := 5 } }
  hz := 100

/-- At 100 there is a tick behind every instruction, where three in five are due. -/
theorem hundred_ticks_too_often :
    1 ≤ shortSleep.hz ∧ shortSleep.sinceTick = 0 ∧
      Course shortSleep (shortSleep.turnsTo (shortSleep.resume 12)) (shortSleep.resume 12) ∧
      KeepsTime shortSleep (shortSleep.turnsTo (shortSleep.resume 12)) (shortSleep.resume 12) ∧
      (shortSleep.resume 12).machine.cycles = 12 ∧
      (shortSleep.turnsTo (shortSleep.resume 12)).countP executes = 12 ∧
      (shortSleep.turnsTo (shortSleep.resume 12)).countP ticks = 12 ∧
      (shortSleep.resume 12).machine.registers.get 2 = 0 ∧
      ¬ NearNominal shortSleep.hz 12 12 := by
  have hcounts : (shortSleep.resume 12).machine.cycles = 12 ∧
      (shortSleep.turnsTo (shortSleep.resume 12)).countP executes = 12 ∧
      (shortSleep.turnsTo (shortSleep.resume 12)).countP ticks = 12 ∧
      (shortSleep.resume 12).machine.registers.get 2 = 0 := by decide +kernel
  have hadvances : (shortSleep.atRate 100).AdvancesTo (shortSleep.resume 12) := .resume shortSleep 12
  have hcourse := hadvances.course
  exact ⟨by decide, rfl, hcourse, hcourse.keepsTime, hcounts.1, hcounts.2.1, hcounts.2.2.1,
    hcounts.2.2.2, by decide⟩

end Session

end Chip8.Debugger
