import Chip8.Debugger.Command
import Chip8.Proofs.Debugger.Pausing

namespace Chip8

/-- The events by which a user acts on a machine while its program rests: keys that go down and up,
and ticks of the timers. -/
def Event.byHand : Event → Bool
  | .pressKey _ | .releaseKey _ | .tick => true
  | _ => false

namespace Machine

variable {σ : Type} [Surface σ]

theorem byHand_halted_cycles (m : Machine σ) (event : Event) (h : event.byHand) :
    (m.after event).halted = m.halted ∧ (m.after event).cycles = m.cycles := by
  cases event with
  | pressKey code => cases hm : m.mode <;> simp [after, pressKey, hm]
  | releaseKey code => exact ⟨rfl, rfl⟩
  | tick => exact ⟨rfl, rfl⟩
  | _ => exact absurd h Bool.false_ne_true

theorem allByHand_halted_cycles (m : Machine σ) (events : List Event)
    (h : ∀ event ∈ events, event.byHand) :
    (m.afterAll events).halted = m.halted ∧ (m.afterAll events).cycles = m.cycles := by
  induction events generalizing m with
  | nil => exact ⟨rfl, rfl⟩
  | cons event events ih =>
    obtain ⟨hh, hc⟩ := byHand_halted_cycles m event (h event List.mem_cons_self)
    have hrest := ih (m.after event) fun e he => h e (List.mem_cons_of_mem event he)
    rw [hh, hc] at hrest
    exact hrest

end Machine

namespace Debugger

namespace Session

/-- Between two sessions the program has rested: no instruction has been counted, and the machine has
been acted on by hand at most. -/
structure Rests (s s' : Session) : Prop where
  sinceTick : s'.sinceTick = s.sinceTick
  machine : ∃ events : List Chip8.Event, (∀ event ∈ events, event.byHand) ∧
    s'.machine = s.machine.afterAll events

namespace Rests

variable {s s' s'' : Session}

theorem of_machine (hm : s'.machine = s.machine) (hs : s'.sinceTick = s.sinceTick) : s.Rests s' :=
  ⟨hs, [], fun _ h => absurd h List.not_mem_nil, hm⟩

theorem refl (s : Session) : s.Rests s := of_machine rfl rfl

theorem of_alike (h : s'.Alike s) : s.Rests s' := of_machine h.machine h.sinceTick

theorem trans (h : s.Rests s') (h' : s'.Rests s'') : s.Rests s'' := by
  obtain ⟨events, he, hm⟩ := h.machine
  obtain ⟨later, hl, hm'⟩ := h'.machine
  refine ⟨h'.sinceTick.trans h.sinceTick, events ++ later, ?_, ?_⟩
  · intro event hmem
    exact (List.mem_append.mp hmem).elim (he event) (hl event)
  · rw [Machine.afterAll_append, ← hm, hm']

theorem halted (h : s.Rests s') : s'.machine.halted = s.machine.halted := by
  obtain ⟨events, he, hm⟩ := h.machine
  rw [hm]
  exact (Machine.allByHand_halted_cycles _ events he).1

theorem cycles (h : s.Rests s') : s'.machine.cycles = s.machine.cycles := by
  obtain ⟨events, he, hm⟩ := h.machine
  rw [hm]
  exact (Machine.allByHand_halted_cycles _ events he).2

end Rests

def turns : Nat → Session → List Session
  | 0, _ => []
  | n + 1, s => s :: turns n s.advance.2

/-- The number of turns from a session to another: a turn counts a cycle, or it halts the machine. -/
def turnCount (s s' : Session) : Nat :=
  s'.machine.cycles - s.machine.cycles + if s'.machine.halted && !s.machine.halted then 1 else 0

/-- The turns that have brought a session to where another stands. A change of the clock rate comes
before the first of them. -/
def turnsTo (s s' : Session) : List Session := (s.atRate s'.hz).turns (s.turnCount s')

/-- The course of a session: turns that nothing blocks, with rests before, between and after them. -/
inductive Course : Session → List Session → Session → Prop where
  | rest {s s' : Session} (h : s.Rests s') : Course s [] s'
  | turn {s e s' : Session} {es : List Session} (h : s.Rests e) (hb : blocked? e.machine = none)
    (hc : Course e.advance.2 es s') : Course s (e :: es) s'

namespace Course

variable {s s' s'' : Session} {es fs : List Session}

theorem after_rest (h : s.Rests s') (hc : Course s' es s'') : Course s es s'' := by
  cases hc with
  | rest h' => exact .rest (h.trans h')
  | turn h' hb hc => exact .turn (h.trans h') hb hc

theorem append_iff : Course s (es ++ fs) s'' ↔ ∃ s', Course s es s' ∧ Course s' fs s'' := by
  induction es generalizing s with
  | nil =>
    constructor
    · intro h
      exact ⟨s, .rest (.refl s), h⟩
    · rintro ⟨s', h | ⟨_, _, _⟩, h'⟩
      exact h'.after_rest h
  | cons e es ih =>
    constructor
    · rintro (_ | ⟨h, hb, hc⟩)
      obtain ⟨s', h1, h2⟩ := ih.mp hc
      exact ⟨s', .turn h hb h1, h2⟩
    · rintro ⟨s', _ | ⟨h, hb, hc⟩, h'⟩
      exact .turn h hb (ih.mpr ⟨s', hc, h'⟩)

theorem then_rest (hc : Course s es s') (h : s'.Rests s'') : Course s es s'' := by
  have := append_iff.mpr ⟨s', hc, .rest h⟩
  rwa [List.append_nil] at this

theorem of_turns (s : Session) (n : Nat)
    (h : ∀ e ∈ s.turns n, blocked? e.machine = none) : Course s (s.turns n) (s.advances n) := by
  induction n generalizing s with
  | zero => exact .rest (.refl s)
  | succ n ih =>
    have hrest := ih s.advance.2 fun e he => h e (List.mem_cons_of_mem s he)
    exact .turn (.refl s) (h s List.mem_cons_self) hrest

end Course

theorem advances_turnCount (s : Session) (n : Nat) :
    s.advances (s.turnCount (s.advances n)) = s.advances n ∧
      ∀ e ∈ s.turns (s.turnCount (s.advances n)), blocked? e.machine = none := by
  have hself (s : Session) : s.turnCount s = 0 := by simp [turnCount]
  induction n generalizing s with
  | zero =>
    rw [advances, hself]
    exact ⟨rfl, fun e he => absurd he List.not_mem_nil⟩
  | succ n ih =>
    cases hb : blocked? s.machine with
    | some reason =>
      rw [advances_of_blocked s (n + 1) reason hb, hself]
      exact ⟨rfl, fun e he => absurd he List.not_mem_nil⟩
    | none =>
      have hgoesOn := ((blocked?_eq_none_iff s.machine).mp hb).1
      rw [advances]
      rcases advance_cases s hb with ⟨hh, hc⟩ | ⟨hh, hc⟩
      · -- This turn halts the machine and is the last.
        have hb' : blocked? s.advance.2.machine = some .halted := by rw [blocked?, if_pos hh]
        have hcount : s.turnCount s.advance.2 = 1 := by simp [turnCount, hh, hc, hgoesOn]
        rw [advances_of_blocked _ n _ hb', hcount]
        refine ⟨rfl, ?_⟩
        intro e he
        rw [List.mem_singleton.mp he]
        exact hb
      · obtain ⟨heq, hrest⟩ := ih s.advance.2
        have hle := (advances_eq s.advance.2 n).1
        have hcount : s.turnCount (s.advance.2.advances n) =
            s.advance.2.turnCount (s.advance.2.advances n) + 1 := by
          simp only [turnCount, hh, hgoesOn]
          omega
        rw [hcount]
        refine ⟨heq, ?_⟩
        intro e he
        rcases List.mem_cons.mp he with rfl | he
        · exact hb
        · exact hrest e he

namespace AdvancesTo

variable {s s' : Session}

/-- More advances may have been tried than there were turns; the end tells how many there were. -/
theorem turns (h : s.AdvancesTo s') : s'.Alike (s.advances (s.turnCount s')) ∧
    ∀ e ∈ s.turns (s.turnCount s'), blocked? e.machine = none := by
  obtain ⟨n, ha⟩ := h
  have hcount : s.turnCount (s.advances n) = s.turnCount s' := by
    simp only [turnCount, ha.machine]
  obtain ⟨heq, hturns⟩ := advances_turnCount s n
  rw [hcount] at heq hturns
  rw [heq]
  exact ⟨ha, hturns⟩

theorem at_last_rate {hz : Int} (h : (s.atRate hz).AdvancesTo s') :
    (s.atRate s'.hz).AdvancesTo s' := by
  rw [h.hz]
  exact h

theorem course {hz : Int} (h : (s.atRate hz).AdvancesTo s') : Course s (s.turnsTo s') s' := by
  obtain ⟨ha, hturns⟩ := h.at_last_rate.turns
  have hrests : s.Rests (s.atRate s'.hz) := .of_machine rfl rfl
  exact ((Course.of_turns _ _ hturns).then_rest (.of_alike ha)).after_rest hrests

end AdvancesTo

theorem leg_course (s : Session) (l : Leg) : ∃ es, Course s es (s.leg l) := by
  obtain ⟨hz, h, -⟩ := leg_advancesTo s l
  exact ⟨_, h.course⟩

end Session

def Command.drives : Command → Bool
  | step | resume | run _ _ => true
  | _ => false

/-- The clock rate at which a command lets the program go on, if it names one. -/
def Command.rate? : Command → Option Int
  | run hz _ => some hz
  | _ => none

def Command.handwork : Command → List Chip8.Event
  | press key => [.pressKey key.val]
  | release key => [.releaseKey key.val]
  | tick count => List.replicate count.toNat .tick
  | _ => []

theorem Command.byHand_of_mem_handwork (c : Command) (event : Chip8.Event) (h : event ∈ c.handwork) :
    event.byHand := by
  cases c with
  | press key => rw [List.mem_singleton.mp h]; rfl
  | release key => rw [List.mem_singleton.mp h]; rfl
  | tick count => rw [List.eq_of_mem_replicate h]; rfl
  | _ => exact absurd h List.not_mem_nil

namespace Session

theorem repeat_tick {σ : Type} [Surface σ] (m : Machine σ) (n : Nat) :
    n.repeat Machine.tick m = m.afterAll (List.replicate n .tick) := by
  induction n with
  | zero => rfl
  | succ n ih =>
    rw [List.replicate_succ', Machine.afterAll_append, ← ih]
    rfl

theorem obey_by_hand (s : Session) (host : Host) (t : Trace) (c : Command) (h : c.drives = false) :
    (s.obey host t c).session.machine = s.machine.afterAll c.handwork ∧
      (s.obey host t c).session.sinceTick = s.sinceTick := by
  cases c with
  | step | resume | run => exact absurd h Bool.false_ne_true.symm
  | breakpoint addr =>
    simp only [obey, toggleBreakpoint]
    split <;> exact ⟨rfl, rfl⟩
  | tick count => exact ⟨repeat_tick s.machine count.toNat, rfl⟩
  | _ => exact ⟨rfl, rfl⟩

theorem obey_of_blocked (s : Session) (host : Host) (t : Trace) (c : Command) (h : c.drives)
    (reason : Notice) (hb : blocked? s.machine = some reason) :
    (s.obey host t c).session = s.notify reason := by
  cases c with
  | step => simp only [obey, step, hb]
  | resume => simp only [obey, resume, hb]
  | run hz limit => simp only [obey, runAtSpeed_blocked s host hz limit t reason hb]
  | _ => exact absurd h Bool.false_ne_true

/-- Otherwise it advances the session, at the clock rate that it names or the one there was. -/
theorem obey_of_free (s : Session) (host : Host) (t : Trace) (c : Command) (h : c.drives)
    (hb : blocked? s.machine = none) :
    (s.atRate (c.rate?.getD s.hz)).AdvancesTo (s.obey host t c).session := by
  cases c with
  | step => exact .step s
  | resume => exact .resume s resumeLimit
  | run hz limit => exact .runAtSpeed s host hz limit t hb
  | _ => exact absurd h Bool.false_ne_true

theorem Rests.course {s s' : Session} (h : s.Rests s') : Course s (s.turnsTo s') s' := by
  have hcount : s.turnCount s' = 0 := by simp [turnCount, h.cycles, h.halted]
  rw [turnsTo, hcount]
  exact .rest h

/-- Whatever a user commands, the session goes on in turns. -/
theorem command_course (s : Session) (host : Host) (t : Trace) (line : String) :
    Course s (s.turnsTo (s.command host t line).2.session) (s.command host t line).2.session := by
  unfold command
  cases Command.parse line with
  | error notice =>
    have h : s.Rests (s.notify notice) := .of_machine rfl rfl
    exact h.course
  | ok c =>
    dsimp only
    cases hd : c.drives with
    | true =>
      cases hb : blocked? s.machine with
      | some reason =>
        have h : s.Rests (s.notify reason) := .of_machine rfl rfl
        rw [obey_of_blocked s host t c hd reason hb]
        exact h.course
      | none => exact (obey_of_free s host t c hd hb).course
    | false =>
      obtain ⟨hm, hs⟩ := obey_by_hand s host t c hd
      have h : s.Rests (s.obey host t c).session :=
        ⟨hs, c.handwork, c.byHand_of_mem_handwork, hm⟩
      exact h.course

def obeyLines (host : Host) : List String → Session → Trace → Session × Trace
  | [], s, t => (s, t)
  | line :: lines, s, t =>
    let r := (s.command host t line).2
    obeyLines host lines r.session r.trace

/-- The session that command lines leave. -/
def afterLines (host : Host) (lines : List String) (s : Session) (t : Trace) : Session :=
  (obeyLines host lines s t).1

def turnsOfLines (host : Host) : List String → Session → Trace → List Session
  | [], _, _ => []
  | line :: lines, s, t =>
    let r := (s.command host t line).2
    s.turnsTo r.session ++ turnsOfLines host lines r.session r.trace

theorem obeyLines_append (host : Host) (lines later : List String) (s : Session) (t : Trace) :
    obeyLines host (lines ++ later) s t =
      obeyLines host later (afterLines host lines s t) (obeyLines host lines s t).2 := by
  induction lines generalizing s t with
  | nil => rfl
  | cons line lines ih => exact ih _ _

theorem lines_course (host : Host) (lines : List String) (s : Session) (t : Trace) :
    Course s (turnsOfLines host lines s t) (afterLines host lines s t) := by
  induction lines generalizing s t with
  | nil => exact .rest (.refl s)
  | cons line lines ih => exact Course.append_iff.mpr ⟨_, command_course s host t line, ih _ _⟩

end Session

end Debugger

end Chip8
