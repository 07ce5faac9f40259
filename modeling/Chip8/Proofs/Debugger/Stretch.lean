import Chip8.Debugger.Session
import Chip8.Proofs.Machine.Step

namespace Chip8.Debugger

theorem blocked?_eq_none_iff {σ : Type} (m : Machine σ) :
    blocked? m = none ↔ m.halted = false ∧ m.mode = .running := by
  unfold blocked?
  cases m.halted <;> cases m.mode <;> simp

theorem tickPeriod_pos (hz : Int) : 0 < tickPeriod hz := by
  unfold tickPeriod
  omega

namespace Session

/-- Two sessions with the same program in the same state, which may have told different things. -/
structure Alike (s t : Session) : Prop where
  machine : s.machine = t.machine
  breakpoints : s.breakpoints = t.breakpoints
  hz : s.hz = t.hz
  sinceTick : s.sinceTick = t.sinceTick

namespace Alike

variable {s t u : Session}

theorem refl (s : Session) : s.Alike s := ⟨rfl, rfl, rfl, rfl⟩

theorem trans (h : s.Alike t) (h' : t.Alike u) : s.Alike u :=
  ⟨h.machine.trans h'.machine, h.breakpoints.trans h'.breakpoints, h.hz.trans h'.hz,
    h.sinceTick.trans h'.sinceTick⟩

theorem notify (h : s.Alike t) (notice : Notice) : (s.notify notice).Alike t :=
  ⟨h.machine, h.breakpoints, h.hz, h.sinceTick⟩

theorem remember (h : s.Alike t) : s.remember.Alike t :=
  ⟨h.machine, h.breakpoints, h.hz, h.sinceTick⟩

theorem stoppedBy (h : s.Alike t) (tally : Tally) (stop : Stop) :
    (s.stoppedBy tally stop).Alike t := by
  cases stop with
  | halted => exact h
  | waiting x => exact h.notify _
  | breakpoint => exact h.notify _

theorem withMachine (h : s.Alike t) (m : Machine Display) :
    Alike { s with machine := m } { t with machine := m } :=
  ⟨rfl, h.breakpoints, h.hz, h.sinceTick⟩

theorem halt (h : s.Alike t) (r r' : Notice) : (s.halt r).Alike (t.halt r') := by
  refine ⟨?_, h.breakpoints, h.hz, h.sinceTick⟩
  simp only [Session.halt, h.machine]

theorem count (h : s.Alike t) : s.count.Alike t.count := by
  simp only [Session.count, h.hz, h.sinceTick, h.machine]
  split
  · exact ⟨rfl, h.breakpoints, rfl, rfl⟩
  · exact ⟨rfl, h.breakpoints, rfl, rfl⟩

end Alike

theorem advance_of_blocked (s : Session) (reason : Notice)
    (h : blocked? s.machine = some reason) : s.advance = (false, s) := by
  simp only [advance, h]

/-- An advance is a step of a run that stops at zero words, with its result told and counted. -/
theorem advance_of_running (s : Session) (h : blocked? s.machine = none) :
    s.advance = match s.machine.runStep true with
      | .error fault m => (false, { s with machine := m }.halt (.failed m.pc fault))
      | .ok false m => (false, { s with machine := m }.halt (.zeroWord m.pc))
      | .ok true m =>
        ({ s with machine := m }.count.machine.running, { s with machine := m }.count) := by
  have hm := ((blocked?_eq_none_iff s.machine).mp h).2
  simp only [advance, h, Machine.runStep]
  cases hf : s.machine.fetch with
  | error fault => rfl
  | ok w =>
    by_cases hw : w = 0
    · simp [hw, halt, Machine.pc]
    · obtain ⟨fault, m, hs, -⟩ | ⟨m, hs, -⟩ := Machine.step_cases s.machine hm <;> simp [hw, hs]

theorem count_cases (s : Session) (m : Machine Display)
    (hsince : s.machine.cycles % tickPeriod s.hz = s.sinceTick)
    (hc : m.cycles = s.machine.cycles + 1) :
    s.sinceTick + 1 = tickPeriod s.hz ∧ m.cycles % tickPeriod s.hz = 0 ∧
      { s with machine := m }.count = { s with machine := m.tick, sinceTick := 0 } ∨
    s.sinceTick + 1 ≠ tickPeriod s.hz ∧ m.cycles % tickPeriod s.hz = s.sinceTick + 1 ∧
      { s with machine := m }.count = { s with machine := m, sinceTick := s.sinceTick + 1 } := by
  have hlt := Nat.mod_lt s.machine.cycles (tickPeriod_pos s.hz)
  have hmod : m.cycles % tickPeriod s.hz = (s.sinceTick + 1) % tickPeriod s.hz := by
    rw [hc, ← hsince, Nat.mod_add_mod]
  by_cases hlast : s.sinceTick + 1 = tickPeriod s.hz
  · left
    refine ⟨hlast, by rw [hmod, hlast, Nat.mod_self], ?_⟩
    rw [count, if_pos (by dsimp only; omega)]
  · right
    refine ⟨hlast, by rw [hmod, Nat.mod_eq_of_lt (by omega)], ?_⟩
    rw [count, if_neg (by dsimp only; omega)]

@[simp] theorem stop?_halt (s : Session) (reason : Notice) :
    (s.halt reason).stop? = some .halted := rfl

/-- Without breakpoints only a machine that cannot step is a reason to stop. -/
theorem stop?_eq_none_iff (s : Session) (h : s.breakpoints = []) :
    s.stop? = none ↔ blocked? s.machine = none := by
  unfold stop? blocked?
  cases s.machine.halted <;> cases s.machine.mode <;> simp [h]

theorem stop?_of_waiting (s : Session) (h : s.machine.mode ≠ .running) : s.stop? ≠ none := by
  unfold stop?
  cases hm : s.machine.mode with
  | running => exact absurd hm h
  | awaitingKey x => cases s.machine.halted <;> simp

theorem stretchFrom_next (s : Session) (ran limit : Nat) :
    (s.stretchFrom ran (limit + 1)).session =
      if s.advance.2.stop? = none then (s.advance.2.stretchFrom (ran + 1) limit).session
      else s.advance.2 := by
  rw [stretchFrom]
  cases s.advance.2.stop? <;> simp

theorem stop?_of_halted (s : Session) (h : s.machine.halted = true) : s.stop? = some .halted := by
  rw [stop?, if_pos h]

theorem stretchFrom_halted (s : Session) (ran limit : Nat) (hs : s.machine.halted = false)
    (h : (s.stretchFrom ran limit).session.machine.halted = true) :
    (s.stretchFrom ran limit).stop = some .halted := by
  induction limit generalizing ran s with
  | zero =>
    rw [stretchFrom, hs] at h
    exact absurd h Bool.false_ne_true
  | succ limit ih =>
    simp only [stretchFrom] at h ⊢
    cases hstop : s.advance.2.stop? with
    | some stop =>
      simp only [hstop] at h ⊢
      exact hstop.symm.trans (stop?_of_halted _ h)
    | none =>
      simp only [hstop] at h ⊢
      refine ih _ _ ?_ h
      cases hh : s.advance.2.machine.halted with
      | false => rfl
      | true => simp [stop?_of_halted _ hh] at hstop

theorem advance_alike (s t : Session) (h : s.Alike t) : s.advance.2.Alike t.advance.2 := by
  cases hb : blocked? s.machine with
  | some reason =>
    rw [advance_of_blocked s reason hb, advance_of_blocked t reason (h.machine ▸ hb)]
    exact h
  | none =>
    rw [advance_of_running s hb, advance_of_running t (h.machine ▸ hb), h.machine]
    cases t.machine.runStep true with
    | error fault m => exact (h.withMachine m).halt _ _
    | ok goesOn m =>
      cases goesOn with
      | false => exact (h.withMachine m).halt _ _
      | true => exact (h.withMachine m).count

theorem stop?_alike (s t : Session) (h : s.Alike t) : s.stop? = t.stop? := by
  simp only [stop?, h.machine, h.breakpoints]

structure Stretch.Alike (r r' : Stretch) : Prop where
  ran : r.ran = r'.ran
  stop : r.stop = r'.stop
  session : r.session.Alike r'.session

theorem stretchFrom_alike (s t : Session) (h : s.Alike t) (ran limit : Nat) :
    (s.stretchFrom ran limit).Alike (t.stretchFrom ran limit) := by
  induction limit generalizing ran s t with
  | zero => exact ⟨rfl, rfl, h⟩
  | succ limit ih =>
    have ha := advance_alike s t h
    simp only [stretchFrom, stop?_alike _ _ ha]
    cases t.advance.2.stop? with
    | some stop => exact ⟨rfl, rfl, ha⟩
    | none => exact ih _ _ ha (ran + 1)

theorem stretchFrom_eq (s : Session) (ran limit : Nat) :
    s.stretchFrom ran limit = { s.stretch limit with ran := ran + (s.stretch limit).ran } := by
  induction limit generalizing ran s with
  | zero => rfl
  | succ limit ih =>
    simp only [stretch, stretchFrom]
    cases s.advance.2.stop? with
    | some stop => rfl
    | none =>
      dsimp only
      rw [ih _ (ran + 1), ih _ (0 + 1)]
      simp only [Nat.zero_add, Nat.add_assoc]

theorem stretchFrom_ran (s : Session) (ran limit : Nat)
    (h : (s.stretchFrom ran limit).stop = none) :
    (s.stretchFrom ran limit).ran = ran + limit := by
  induction limit generalizing ran s with
  | zero => rfl
  | succ limit ih =>
    simp only [stretchFrom] at h ⊢
    cases hs : s.advance.2.stop? with
    | some stop => simp [hs] at h
    | none =>
      simp only [hs] at h ⊢
      rw [ih _ _ h]
      omega

/-- A stretch can be cut wherever nothing has stopped it before. -/
theorem stretchFrom_add (s : Session) (ran a b : Nat) :
    s.stretchFrom ran (a + b) = match (s.stretchFrom ran a).stop with
      | some _ => s.stretchFrom ran a
      | none => (s.stretchFrom ran a).session.stretchFrom (ran + a) b := by
  induction a generalizing ran s with
  | zero => rw [Nat.zero_add]; rfl
  | succ a ih =>
    rw [Nat.succ_add]
    simp only [stretchFrom]
    cases s.advance.2.stop? with
    | some stop => rfl
    | none =>
      dsimp only
      rw [ih, Nat.add_right_comm, Nat.add_assoc]

theorem stretch_add_of_stop (s : Session) (a b : Nat) (stop : Stop)
    (h : (s.stretch a).stop = some stop) : s.stretch (a + b) = s.stretch a := by
  have hadd := stretchFrom_add s 0 a b
  simp only [stretch] at h ⊢
  rw [hadd, h]

theorem stretch_add_of_none (s : Session) (a b : Nat) (h : (s.stretch a).stop = none) :
    s.stretch (a + b) = { (s.stretch a).session.stretch b with
      ran := a + ((s.stretch a).session.stretch b).ran } := by
  have hadd := stretchFrom_add s 0 a b
  rw [← stretchFrom_eq]
  simp only [stretch] at h ⊢
  rw [hadd, h, Nat.zero_add]

end Session

end Chip8.Debugger
