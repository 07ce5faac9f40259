import Chip8.Proofs.Debugger.Turns

namespace Chip8.Debugger

/-- What a session can go through: its clock rate is set, its program takes a turn, its machine is
acted on by hand, or a breakpoint is toggled. -/
inductive Act where
  | rate (hz : Int)
  | turn
  | hand (event : Chip8.Event)
  | breakpoint (addr : Int)
deriving DecidableEq

/-- What a command does to a session that it takes through so many turns. -/
def Command.acts (turns : Nat) : Command → List Act
  | step | resume => List.replicate turns .turn
  | run hz _ => .rate hz :: List.replicate turns .turn
  | breakpoint addr => [.breakpoint addr]
  | c => c.handwork.map .hand

namespace Session

def act (s : Session) : Act → Session
  | .rate hz => s.atRate hz
  | .turn => s.advance.2
  | .hand event => { s with machine := s.machine.after event }
  | .breakpoint addr => s.toggleBreakpoint addr

def acts (s : Session) (as : List Act) : Session := as.foldl act s

/-- The sessions that take the turns among some acts, each as it is before it does. -/
def turnsOf (s : Session) : List Act → List Session
  | [] => []
  | a :: as => if a = .turn then s :: turnsOf (s.act a) as else turnsOf (s.act a) as

/-- What comes of a command line. Nothing comes of one that cannot be read, nor of one that would let
a machine go on that is blocked. -/
def actsOfLine (host : Host) (s : Session) (t : Trace) (line : String) : List Act :=
  match Command.parse line with
  | .error _ => []
  | .ok c =>
    if c.drives ∧ (blocked? s.machine).isSome then []
    else c.acts (s.turnCount (s.command host t line).2.session)

def actsOfLines (host : Host) : List String → Session → Trace → List Act
  | [], _, _ => []
  | line :: lines, s, t =>
    let r := (s.command host t line).2
    actsOfLine host s t line ++ actsOfLines host lines r.session r.trace

theorem acts_append (s : Session) (as bs : List Act) : s.acts (as ++ bs) = (s.acts as).acts bs :=
  List.foldl_append

theorem turnsOf_append (s : Session) (as bs : List Act) :
    s.turnsOf (as ++ bs) = s.turnsOf as ++ (s.acts as).turnsOf bs := by
  induction as generalizing s with
  | nil => rfl
  | cons a as ih =>
    have hrest : s.acts (a :: as) = (s.act a).acts as := rfl
    rw [hrest, List.cons_append, turnsOf, turnsOf, ih]
    split <;> rfl

theorem acts_replicate_turn (s : Session) (n : Nat) :
    s.acts (List.replicate n .turn) = s.advances n ∧
      s.turnsOf (List.replicate n .turn) = s.turns n := by
  induction n generalizing s with
  | zero => exact ⟨rfl, rfl⟩
  | succ n ih =>
    obtain ⟨hacts, hturns⟩ := ih s.advance.2
    exact ⟨hacts, congrArg (s :: ·) hturns⟩

theorem acts_hand (s : Session) (events : List Chip8.Event) :
    s.acts (events.map .hand) = { s with machine := s.machine.afterAll events } ∧
      s.turnsOf (events.map .hand) = [] := by
  induction events generalizing s with
  | nil => exact ⟨rfl, rfl⟩
  | cons event events ih => exact ih { s with machine := s.machine.after event }

theorem act_alike (s t : Session) (h : s.Alike t) (a : Act) : (s.act a).Alike (t.act a) := by
  cases a with
  | rate hz => exact h.atRate hz
  | turn => exact advance_alike s t h
  | hand event =>
    simp only [act, h.machine]
    exact h.withMachine _
  | breakpoint addr =>
    simp only [act, toggleBreakpoint, h.breakpoints]
    split
    · exact ⟨h.machine, rfl, h.hz, h.sinceTick⟩
    · exact ⟨h.machine, rfl, h.hz, h.sinceTick⟩

theorem acts_alike (s t : Session) (h : s.Alike t) (as : List Act) :
    (s.acts as).Alike (t.acts as) := by
  induction as generalizing s t with
  | nil => exact h
  | cons a as ih => exact ih _ _ (act_alike s t h a)

/-- Nothing blocks the turns among some acts, and what they do by hand a user can do. -/
structure Playable (s : Session) (as : List Act) : Prop where
  free : ∀ e ∈ s.turnsOf as, blocked? e.machine = none
  byHand : ∀ event, .hand event ∈ as → event.byHand

namespace Playable

variable {s t : Session} {as bs : List Act}

theorem nil (s : Session) : s.Playable [] :=
  ⟨fun _ h => absurd h List.not_mem_nil, fun _ h => absurd h List.not_mem_nil⟩

theorem append_iff : s.Playable (as ++ bs) ↔ s.Playable as ∧ (s.acts as).Playable bs := by
  constructor
  · rintro ⟨hfree, hhand⟩
    rw [turnsOf_append] at hfree
    refine ⟨⟨?_, ?_⟩, ?_, ?_⟩
    · exact fun e he => hfree e (List.mem_append_left _ he)
    · exact fun event he => hhand event (List.mem_append_left _ he)
    · exact fun e he => hfree e (List.mem_append_right _ he)
    · exact fun event he => hhand event (List.mem_append_right _ he)
  · rintro ⟨ha, hb⟩
    refine ⟨?_, ?_⟩
    · intro e he
      rw [turnsOf_append] at he
      exact (List.mem_append.mp he).elim (ha.free e) (hb.free e)
    · intro event he
      exact (List.mem_append.mp he).elim (ha.byHand event) (hb.byHand event)

theorem cons_iff {a : Act} : s.Playable (a :: as) ↔ s.Playable [a] ∧ (s.act a).Playable as := by
  rw [← List.singleton_append]
  exact append_iff

theorem alike (h : s.Alike t) (hp : s.Playable as) : t.Playable as := by
  refine ⟨?_, hp.byHand⟩
  have hfree := hp.free
  clear hp
  induction as generalizing s t with
  | nil => exact fun e he => absurd he List.not_mem_nil
  | cons a as ih =>
    have hrest := act_alike s t h a
    rw [turnsOf] at hfree ⊢
    split at hfree
    · next ha =>
      rw [if_pos ha]
      intro e he
      rcases List.mem_cons.mp he with rfl | he
      · rw [← h.machine]
        exact hfree s List.mem_cons_self
      · exact ih hrest (fun e he => hfree e (List.mem_cons_of_mem s he)) e he
    · next ha =>
      rw [if_neg ha]
      exact ih hrest hfree

theorem course (h : s.Playable as) : Course s (s.turnsOf as) (s.acts as) := by
  induction as generalizing s with
  | nil => exact .rest (.refl s)
  | cons a as ih =>
    obtain ⟨hone, hrest⟩ := cons_iff.mp h
    have hcourse := ih hrest
    cases a with
    | rate hz =>
      have hrests : s.Rests (s.atRate hz) := .of_machine rfl rfl
      exact hcourse.after_rest hrests
    | turn =>
      have hfree := hone.free s (List.mem_singleton.mpr rfl)
      exact .turn (.refl s) hfree hcourse
    | hand event =>
      have hhand := hone.byHand event (List.mem_singleton.mpr rfl)
      have hrests : s.Rests (s.act (.hand event)) := by
        refine ⟨rfl, [event], ?_, rfl⟩
        intro e he
        rw [List.mem_singleton.mp he]
        exact hhand
      exact hcourse.after_rest hrests
    | breakpoint addr =>
      have hrests : s.Rests (s.toggleBreakpoint addr) := by
        unfold toggleBreakpoint
        split
        · exact .of_machine rfl rfl
        · exact .of_machine rfl rfl
      exact hcourse.after_rest hrests

end Playable

/-- Some acts, none of which goes against a block, bring the first session to where the second
stands. -/
structure Plays (s : Session) (as : List Act) (s' : Session) : Prop where
  alike : s'.Alike (s.acts as)
  playable : s.Playable as

theorem Plays.trans {s s' s'' : Session} {as bs : List Act} (h : s.Plays as s')
    (h' : s'.Plays bs s'') : s.Plays (as ++ bs) s'' := by
  refine ⟨?_, Playable.append_iff.mpr ⟨h.playable, h'.playable.alike h.alike⟩⟩
  rw [acts_append]
  exact h'.alike.trans (acts_alike _ _ h.alike bs)

theorem Plays.of_alike {s s' : Session} (h : s'.Alike s) : s.Plays [] s' := ⟨h, .nil s⟩

/-- A command that lets the program go on sets the clock rate, if it names one, and takes turns. -/
theorem acts_of_drives (s : Session) (c : Command) (h : c.drives) (n : Nat) :
    s.acts (c.acts n) = (s.atRate (c.rate?.getD s.hz)).advances n ∧
      s.turnsOf (c.acts n) = (s.atRate (c.rate?.getD s.hz)).turns n := by
  cases c with
  | step | resume => exact acts_replicate_turn s n
  | run hz limit => exact acts_replicate_turn (s.atRate hz) n
  | _ => exact absurd h Bool.false_ne_true

theorem plays_of_drives (s s' : Session) (c : Command) (h : c.drives)
    (ha : (s.atRate (c.rate?.getD s.hz)).AdvancesTo s') :
    s.Plays (c.acts (s.turnCount s')) s' := by
  obtain ⟨hacts, hturns⟩ := acts_of_drives s c h (s.turnCount s')
  obtain ⟨halike, hfree⟩ := ha.turns
  refine ⟨?_, ?_, ?_⟩
  · rw [hacts]
    exact halike
  · rw [hturns]
    exact hfree
  · -- There is nothing by hand among them.
    intro event hmem
    cases c <;> simp [Command.acts, Command.drives] at h hmem

theorem obey_plays (s : Session) (host : Host) (t : Trace) (c : Command) (h : c.drives = false)
    (n : Nat) : s.Plays (c.acts n) (s.obey host t c).session := by
  have hhand (hc : c.acts n = c.handwork.map .hand)
      (ha : (s.obey host t c).session.Alike
        { s with machine := s.machine.afterAll c.handwork }) :
      s.Plays (c.acts n) (s.obey host t c).session := by
    obtain ⟨hacts, hturns⟩ := acts_hand s c.handwork
    rw [hc]
    refine ⟨by rw [hacts]; exact ha, ?_, ?_⟩
    · rw [hturns]
      exact fun e he => absurd he List.not_mem_nil
    · intro event hmem
      obtain ⟨e, he, heq⟩ := List.mem_map.mp hmem
      rw [← Act.hand.inj heq]
      exact c.byHand_of_mem_handwork e he
  obtain ⟨hm, hs⟩ := obey_by_hand s host t c h
  cases c with
  | step | resume | run => exact absurd h Bool.false_ne_true.symm
  | breakpoint addr =>
    refine ⟨Alike.refl _, fun e he => absurd he List.not_mem_nil, ?_⟩
    intro event hmem
    cases List.mem_singleton.mp hmem
  | _ => exact hhand rfl ⟨hm, rfl, rfl, hs⟩

theorem command_plays (s : Session) (host : Host) (t : Trace) (line : String) :
    s.Plays (actsOfLine host s t line) (s.command host t line).2.session := by
  unfold actsOfLine command
  cases Command.parse line with
  | error notice => exact .of_alike ((Alike.refl s).notify notice)
  | ok c =>
    dsimp only
    cases hd : c.drives with
    | true =>
      cases hb : blocked? s.machine with
      | some reason =>
        rw [obey_of_blocked s host t c hd reason hb, if_pos ⟨rfl, rfl⟩]
        exact .of_alike ((Alike.refl s).notify reason)
      | none =>
        rw [if_neg (by simp)]
        exact plays_of_drives s _ c hd (obey_of_free s host t c hd hb)
    | false =>
      rw [if_neg (by simp)]
      exact obey_plays s host t c hd _

/-- Nothing else happens to a session under any command lines than their acts. -/
theorem lines_play (host : Host) (lines : List String) (s : Session) (t : Trace) :
    s.Plays (actsOfLines host lines s t) (afterLines host lines s t) := by
  induction lines generalizing s t with
  | nil => exact .of_alike (Alike.refl s)
  | cons line lines ih => exact (command_plays s host t line).trans (ih _ _)

end Session

end Chip8.Debugger
