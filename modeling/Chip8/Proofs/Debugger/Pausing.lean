import Chip8.Proofs.Debugger.Frames

namespace Chip8.Debugger.Session

def advances : Nat → Session → Session
  | 0, s => s
  | n + 1, s => advances n s.advance.2

theorem advances_add (s : Session) (a b : Nat) : s.advances (a + b) = (s.advances a).advances b := by
  induction a generalizing s with
  | zero => rw [Nat.zero_add, advances]
  | succ a ih => rw [Nat.succ_add, advances, advances, ih]

theorem advances_of_blocked (s : Session) (n : Nat) (reason : Notice)
    (h : blocked? s.machine = some reason) : s.advances n = s := by
  induction n with
  | zero => rfl
  | succ n ih => rw [advances, advance_of_blocked s reason h, ih]

@[simp] theorem count_halted (s : Session) : s.count.machine.halted = s.machine.halted := by
  unfold count
  split <;> rfl

@[simp] theorem count_cycles (s : Session) : s.count.machine.cycles = s.machine.cycles := by
  unfold count
  split <;> rfl

theorem advance_outcome (s : Session) (h : blocked? s.machine = none) :
    (s.advance.2.machine.halted = true ∧ s.advance.2.machine.mode = .running ∧
      s.advance.2.machine.cycles = s.machine.cycles ∧ s.advance.2.sinceTick = s.sinceTick) ∨
    ∃ m, s.machine.step = .ok true m ∧ m.halted = false ∧ m.cycles = s.machine.cycles + 1 ∧
      s.advance.2 = { s with machine := m }.count := by
  obtain ⟨hh, hm⟩ := (blocked?_eq_none_iff s.machine).mp h
  rw [advance_of_running s h]
  rcases Machine.runStep_cases s.machine true hm with
    ⟨fault, m, hr, hmode, -, hc⟩ | ⟨-, -, hr⟩ | ⟨m, hr, hs, hh', hc⟩
  · left
    simp only [hr]
    exact ⟨rfl, hmode, hc, rfl⟩
  · left
    simp only [hr]
    exact ⟨rfl, hm, rfl, rfl⟩
  · right
    simp only [hr]
    exact ⟨m, hs, hh'.trans hh, hc, rfl⟩

theorem advance_cases (s : Session) (h : blocked? s.machine = none) :
    s.advance.2.machine.halted = true ∧ s.advance.2.machine.cycles = s.machine.cycles ∨
      s.advance.2.machine.halted = false ∧
        s.advance.2.machine.cycles = s.machine.cycles + 1 := by
  rcases advance_outcome s h with ⟨hh, -, hc, -⟩ | ⟨m, -, hh, hc, ha⟩
  · exact Or.inl ⟨hh, hc⟩
  · rw [ha, count_halted, count_cycles]
    exact Or.inr ⟨hh, hc⟩

/-- The number of advances that have done something can be read off the machine: each has counted a
cycle, but for one that has halted it. -/
theorem advances_eq (s : Session) (n : Nat) :
    s.machine.cycles ≤ (s.advances n).machine.cycles ∧
      s.advances ((s.advances n).machine.cycles - s.machine.cycles +
        if (s.advances n).machine.halted then 1 else 0) = s.advances n := by
  induction n generalizing s with
  | zero =>
    refine ⟨Nat.le_refl _, ?_⟩
    rw [advances, Nat.sub_self, Nat.zero_add]
    split
    · next hh =>
      have hb : blocked? s.machine = some .halted := by rw [blocked?, if_pos hh]
      exact advances_of_blocked s 1 _ hb
    · rfl
  | succ n ih =>
    cases hb : blocked? s.machine with
    | some reason =>
      rw [advances, advance_of_blocked s reason hb]
      exact ih s
    | none =>
      rw [advances]
      obtain ⟨hle, heq⟩ := ih s.advance.2
      rcases advance_cases s hb with ⟨hh, hc⟩ | ⟨hh, hc⟩
      · -- What has halted stays as it is, whatever follows.
        have hb' : blocked? s.advance.2.machine = some .halted := by rw [blocked?, if_pos hh]
        rw [advances_of_blocked _ n _ hb', hh, hc, Nat.sub_self]
        exact ⟨Nat.le_refl _, rfl⟩
      · refine ⟨by omega, ?_⟩
        have hn : (s.advance.2.advances n).machine.cycles - s.machine.cycles =
            (s.advance.2.advances n).machine.cycles - s.advance.2.machine.cycles + 1 := by omega
        rw [hn, Nat.add_right_comm, advances, heq]

def atRate (s : Session) (hz : Int) : Session := { s with hz }

theorem advance_atRate (s : Session) (hz : Int) (h : tickPeriod hz = tickPeriod s.hz) :
    (s.atRate hz).advance.2 = s.advance.2.atRate hz := by
  cases hb : blocked? s.machine with
  | some reason =>
    rw [advance_of_blocked s reason hb, advance_of_blocked (s.atRate hz) reason hb]
  | none =>
    rw [advance_of_running s hb, advance_of_running (s.atRate hz) hb]
    have hm : (s.atRate hz).machine = s.machine := rfl
    rw [hm]
    cases s.machine.runStep true with
    | error fault m => rfl
    | ok goesOn m =>
      cases goesOn with
      | false => rfl
      | true =>
        simp only [atRate, count, h]
        split <;> rfl

@[simp] theorem advance_hz (s : Session) : s.advance.2.hz = s.hz := by
  have h := congrArg Session.hz (advance_atRate s s.hz rfl)
  exact h

@[simp] theorem advances_hz (s : Session) (n : Nat) : (s.advances n).hz = s.hz := by
  induction n generalizing s with
  | zero => rfl
  | succ n ih => rw [advances, ih, advance_hz]

theorem advances_atRate (s : Session) (hz : Int) (h : tickPeriod hz = tickPeriod s.hz) (n : Nat) :
    (s.atRate hz).advances n = (s.advances n).atRate hz := by
  induction n generalizing s with
  | zero => rfl
  | succ n ih =>
    rw [advances, advance_atRate s hz h, ih s.advance.2 (by rw [advance_hz, h]), advances]

theorem advances_alike (s t : Session) (h : s.Alike t) (n : Nat) :
    (s.advances n).Alike (t.advances n) := by
  induction n generalizing s t with
  | zero => exact h
  | succ n ih => exact ih _ _ (advance_alike s t h)

theorem Alike.atRate {s t : Session} (h : s.Alike t) (hz : Int) :
    (s.atRate hz).Alike (t.atRate hz) :=
  ⟨h.machine, h.breakpoints, rfl, h.sinceTick⟩

/-- Advances alone bring the first session to where the second stands. -/
def AdvancesTo (s t : Session) : Prop := ∃ n, t.Alike (s.advances n)

namespace AdvancesTo

variable {s t u : Session}

theorem of_alike (h : t.Alike s) : s.AdvancesTo t := ⟨0, h⟩

theorem refl (s : Session) : s.AdvancesTo s := of_alike (Alike.refl s)

theorem advance (s : Session) : s.AdvancesTo s.advance.2 := ⟨1, Alike.refl _⟩

theorem trans (h : s.AdvancesTo t) (h' : t.AdvancesTo u) : s.AdvancesTo u := by
  obtain ⟨a, ha⟩ := h
  obtain ⟨b, hb⟩ := h'
  have hab := advances_alike _ _ ha b
  rw [← advances_add] at hab
  exact ⟨a + b, hb.trans hab⟩

theorem hz (h : s.AdvancesTo t) : t.hz = s.hz := by
  obtain ⟨n, ha⟩ := h
  rw [ha.hz, advances_hz]

theorem notify (h : s.AdvancesTo t) (notice : Notice) : s.AdvancesTo (t.notify notice) :=
  h.trans (of_alike ((Alike.refl t).notify notice))

theorem stoppedBy (h : s.AdvancesTo t) (tally : Tally) (stop : Stop) :
    s.AdvancesTo (t.stoppedBy tally stop) :=
  h.trans (of_alike ((Alike.refl t).stoppedBy tally stop))

theorem remember (s : Session) : s.AdvancesTo s.remember := of_alike (Alike.refl s).remember

theorem stretchFrom (s : Session) (ran limit : Nat) :
    s.AdvancesTo (s.stretchFrom ran limit).session := by
  induction limit generalizing ran s with
  | zero => exact refl s
  | succ limit ih =>
    rw [stretchFrom_next]
    split
    · exact (advance s).trans (ih s.advance.2 (ran + 1))
    · exact advance s

theorem step (s : Session) : s.AdvancesTo s.step := by
  unfold Session.step
  have h : s.AdvancesTo s.remember.advance.2 := (remember s).trans (advance s.remember)
  split
  · exact (refl s).notify _
  · dsimp only
    split
    · exact h
    · exact h.notify _

theorem resume (s : Session) (limit : Int) : s.AdvancesTo (s.resume limit) := by
  unfold Session.resume
  have h : s.AdvancesTo (s.remember.stretch limit.toNat).session :=
    (remember s).trans (stretchFrom s.remember 0 limit.toNat)
  split
  · exact (refl s).notify _
  · dsimp only
    split
    · exact h.stoppedBy _ _
    · exact h.notify _

theorem frame (s : Session) (hz : Int) (limit : Option Nat) (steps : Nat) :
    s.AdvancesTo (s.frame hz limit steps).session := by
  unfold Session.frame
  have h (budget : Nat) : s.AdvancesTo (s.remember.stretch budget).session :=
    (remember s).trans (stretchFrom s.remember 0 budget)
  dsimp only
  split
  · exact (h _).stoppedBy _ _
  · exact (h _).notify _

theorem close (h : s.AdvancesTo t) (host : Host) (hz : Int) (steps : Nat) (trace : Trace) :
    s.AdvancesTo (t.close host hz steps trace).session := by
  unfold Session.close
  split
  · exact h.notify _
  · exact h

theorem frames (host : Host) (hz : Int) (interval : Float) (limit : Option Nat)
    (patience steps : Nat) (s : Session) (trace : Trace) :
    s.AdvancesTo (frames host hz interval limit patience steps s trace).session := by
  induction patience generalizing steps s trace with
  | zero => exact refl s
  | succ patience ih =>
    have hf := frame s hz limit steps
    have hafter := frames_afterFrame host hz interval limit patience steps s trace
    generalize Session.frames host hz interval limit (patience + 1) steps s trace = r at hafter ⊢
    cases hafter with
    | unread => exact refl s
    | ended t' => exact hf.close host hz _ t'
    | interrupted => exact hf.notify _
    | limitReached t' => exact (hf.notify _).close host hz _ t'
    | unreadAfter => exact hf
    | goesOn t' => exact hf.trans (ih (s.frame hz limit steps).steps _ t')

theorem runAtSpeed (s : Session) (host : Host) (hz : Int) (limit : Option Nat) (trace : Trace)
    (hb : blocked? s.machine = none) :
    (s.atRate hz).AdvancesTo (s.runAtSpeed host hz limit trace).session := by
  unfold Session.runAtSpeed
  rw [hb]
  dsimp only
  split
  · exact refl _
  · exact frames host hz _ limit _ 0 _ trace

end AdvancesTo

/-- The second session stands where advances bring the first, at clock rates that all have one period
of the timers. -/
def LeadsTo (s t : Session) : Prop :=
  tickPeriod t.hz = tickPeriod s.hz ∧ (s.atRate t.hz).AdvancesTo t

namespace LeadsTo

variable {s t u : Session}

theorem of_advancesTo (h : s.AdvancesTo t) : s.LeadsTo t := by
  rw [LeadsTo, h.hz]
  exact ⟨rfl, h⟩

/-- Where the period of the timers stays, it does not matter when the clock rate changes. -/
theorem trans (h : s.LeadsTo t) (h' : t.LeadsTo u) : s.LeadsTo u := by
  obtain ⟨hp, a, ha⟩ := h
  obtain ⟨hp', hu⟩ := h'
  have hrate := advances_atRate (s.atRate t.hz) u.hz hp' a
  have hfirst : (s.atRate u.hz).AdvancesTo (t.atRate u.hz) := by
    refine ⟨a, ?_⟩
    change (t.atRate u.hz).Alike (((s.atRate t.hz).atRate u.hz).advances a)
    rw [hrate]
    exact ha.atRate u.hz
  exact ⟨hp'.trans hp, hfirst.trans hu⟩

end LeadsTo

/-- A way to let the program go on. -/
inductive Leg where
  | step
  | resume (limit : Int)
  | run (host : Host) (trace : Trace) (hz : Int) (limit : Option Int)

def leg (s : Session) : Leg → Session
  | .step => s.step
  | .resume limit => s.resume limit
  | .run host trace hz limit => (s.runAtSpeed host hz (limit.map Int.toNat) trace).session

def legs (s : Session) (ls : List Leg) : Session := ls.foldl leg s

/-- A leg only advances, once a run that is not blocked has set its clock rate. -/
theorem leg_advancesTo (s : Session) (l : Leg) :
    ∃ hz, (s.atRate hz).AdvancesTo (s.leg l) ∧
      (hz = s.hz ∨ ∃ host trace limit, l = .run host trace hz limit) := by
  cases l with
  | step => exact ⟨s.hz, .step s, .inl rfl⟩
  | resume limit => exact ⟨s.hz, .resume s limit, .inl rfl⟩
  | run host trace hz limit =>
    cases hb : blocked? s.machine with
    | some reason =>
      rw [leg, runAtSpeed_blocked s host hz _ trace reason hb]
      exact ⟨s.hz, (AdvancesTo.refl s).notify reason, .inl rfl⟩
    | none => exact ⟨hz, .runAtSpeed s host hz _ trace hb, .inr ⟨host, trace, limit, rfl⟩⟩

theorem LeadsTo.legs (s : Session) (ls : List Leg)
    (h : ∀ host trace hz limit, .run host trace hz limit ∈ ls → tickPeriod hz = tickPeriod s.hz) :
    s.LeadsTo (s.legs ls) := by
  induction ls generalizing s with
  | nil => exact of_advancesTo (.refl s)
  | cons l ls ih =>
    obtain ⟨hz, hl, hrate⟩ := leg_advancesTo s l
    have hperiod : tickPeriod hz = tickPeriod s.hz := by
      rcases hrate with rfl | ⟨host, trace, limit, rfl⟩
      · rfl
      · exact h host trace hz limit List.mem_cons_self
    have hset : s.LeadsTo (s.atRate hz) := ⟨hperiod, .refl _⟩
    have hfirst : s.LeadsTo (s.leg l) := hset.trans (of_advancesTo hl)
    refine hfirst.trans (ih (s.leg l) ?_)
    intro host trace hz limit hmem
    rw [hfirst.1]
    exact h host trace hz limit (List.mem_cons_of_mem l hmem)

theorem AdvancesTo.legs (s : Session) (ls : List Leg)
    (h : ∀ host trace hz limit, .run host trace hz limit ∈ ls → hz = s.hz) :
    s.AdvancesTo (s.legs ls) := by
  induction ls generalizing s with
  | nil => exact refl s
  | cons l ls ih =>
    obtain ⟨hz, hl, hrate⟩ := leg_advancesTo s l
    have hsame : hz = s.hz := by
      rcases hrate with rfl | ⟨host, trace, limit, rfl⟩
      · rfl
      · exact h host trace hz limit List.mem_cons_self
    subst hsame
    have hfirst : s.AdvancesTo (s.leg l) := hl
    refine hfirst.trans (ih (s.leg l) ?_)
    intro host trace hz limit hmem
    rw [hfirst.hz]
    exact h host trace hz limit (List.mem_cons_of_mem l hmem)

/-- However the program is let go on, and wherever the user interrupts it, it comes to where advances
alone bring it: one for each cycle counted, and one more if it has halted. -/
theorem legs_lose_nothing (s : Session) (ls : List Leg)
    (h : ∀ host trace hz limit, .run host trace hz limit ∈ ls → tickPeriod hz = tickPeriod s.hz) :
    ∃ n, (s.legs ls).machine.cycles = s.machine.cycles + n ∧
      ((s.legs ls).machine.halted = false →
        (s.legs ls).machine = (s.advances n).machine ∧
          (s.legs ls).sinceTick = (s.advances n).sinceTick) ∧
      ((s.legs ls).machine.halted = true →
        (s.legs ls).machine = (s.advances (n + 1)).machine ∧
          (s.legs ls).sinceTick = (s.advances (n + 1)).sinceTick) := by
  obtain ⟨hp, k, ha⟩ := LeadsTo.legs s ls h
  rw [advances_atRate s _ hp] at ha
  have hmachine : (s.legs ls).machine = (s.advances k).machine := ha.machine
  have hsince : (s.legs ls).sinceTick = (s.advances k).sinceTick := ha.sinceTick
  obtain ⟨hle, heq⟩ := advances_eq s k
  rw [hmachine, hsince]
  refine ⟨(s.advances k).machine.cycles - s.machine.cycles, by omega, ?_, ?_⟩
  · intro hh
    rw [if_neg (by rw [hh]; exact Bool.false_ne_true), Nat.add_zero] at heq
    rw [heq]
    exact ⟨rfl, rfl⟩
  · intro hh
    rw [if_pos hh] at heq
    rw [heq]
    exact ⟨rfl, rfl⟩

def impatientHost : Host where
  draws := true
  clock _ := .ok 0
  interruptsFrame k := k = 1
  interruptsPause _ := false
  patience := 2

/-- Jumps wherever one looks, in a step, two frames of five steps of which the second is interrupted
as it is drawn, and three steps more. -/
theorem legs_lose_nothing_interrupted :
    let s : Session := { machine := { surface := .standard, random := .zeros,
                                      memory := ⟨Vector.replicate 4096 0x12⟩ }, hz := 120 }
    let ls : List Leg := [.step, .run impatientHost {} 150 none, .resume 3]
    (∀ host trace hz limit, .run host trace hz limit ∈ ls → tickPeriod hz = tickPeriod s.hz) ∧
      (s.legs ls).machine = (s.advances 14).machine ∧
      (s.legs ls).sinceTick = (s.advances 14).sinceTick := by
  intro s ls
  have hpace : ∀ host trace hz limit, .run host trace hz limit ∈ ls →
      tickPeriod hz = tickPeriod s.hz := by
    intro host trace hz limit hmem
    obtain ⟨-, -, rfl, -⟩ : host = impatientHost ∧ trace = {} ∧ hz = 150 ∧ limit = none := by
      simpa [ls] using hmem
    decide
  have hcycles : (s.legs ls).machine.cycles = 14 := by decide +kernel
  have hgoesOn : (s.legs ls).machine.halted = false := by decide +kernel
  obtain ⟨n, hn, hpaused, -⟩ := legs_lose_nothing s ls hpace
  have hn' : n = 14 := by
    rw [hcycles] at hn
    exact (hn.trans (Nat.zero_add n)).symm
  subst hn'
  exact ⟨hpace, hpaused hgoesOn⟩

end Chip8.Debugger.Session
