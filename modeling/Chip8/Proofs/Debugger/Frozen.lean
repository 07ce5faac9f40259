import Chip8.Proofs.Debugger.Turns
import Chip8.Proofs.Machine.KeyWait

namespace Chip8

/-- A machine that has halted is not waiting for a key as well. -/
def Machine.StopsOneWay {σ : Type} (m : Machine σ) : Prop :=
  ¬ (m.halted = true ∧ m.mode ≠ .running)

namespace Machine

variable {σ : Type} [Surface σ]

theorem StopsOneWay.byHand {m : Machine σ} (h : m.StopsOneWay) (event : Event)
    (he : event.byHand) : (m.after event).StopsOneWay := by
  cases event with
  | pressKey code =>
    have hmode : (m.pressKey code).mode = .running := by
      cases hm : m.mode <;> simp [pressKey, hm]
    exact fun hboth => hboth.2 hmode
  | releaseKey code => exact h
  | tick => exact h
  | _ => exact absurd he Bool.false_ne_true

theorem StopsOneWay.allByHand {m : Machine σ} (h : m.StopsOneWay) (events : List Event)
    (he : ∀ event ∈ events, event.byHand) : (m.afterAll events).StopsOneWay := by
  induction events generalizing m with
  | nil => exact h
  | cons event events ih =>
    have hone := h.byHand event (he event List.mem_cons_self)
    exact ih hone fun e hmem => he e (List.mem_cons_of_mem event hmem)

theorem StillWaits.allByHand [Surface.KeysApart σ] (m : Machine σ) (hm : m.mode = .running)
    (events : List Event) (he : ∀ event ∈ events, event.byHand) :
    m.StillWaits (m.afterAll events) := by
  induction events generalizing m with
  | nil => exact refl m
  | cons event events ih =>
    have hone : m.StillWaits (m.after event) := by
      cases event with
      | pressKey code =>
        have hpress : m.pressKey code =
            { m with surface := Surface.setKey m.surface (Keypad.key code).val true } := by
          simp only [pressKey, hm]
        rw [Machine.after, hpress]
        exact ⟨rfl, rfl, rfl, Surface.KeysApart.pixel_setKey _ _ _, rfl, rfl, rfl⟩
      | releaseKey code =>
        exact ⟨rfl, rfl, rfl, Surface.KeysApart.pixel_setKey _ _ _, rfl, rfl, rfl⟩
      | tick => exact ⟨rfl, rfl, rfl, rfl, rfl, rfl, rfl⟩
      | _ => exact absurd (he _ List.mem_cons_self) Bool.false_ne_true
    have hrest := ih (m.after event) (hone.mode.trans hm) fun e hmem =>
      he e (List.mem_cons_of_mem event hmem)
    exact hone.trans hrest

end Machine

namespace Debugger.Session

/-- The program stands still from a session to a later one: all that may have changed in the machine
are its timers and its keys. -/
structure Frozen (s s' : Session) : Prop where
  machine : s.machine.StillWaits s'.machine
  sinceTick : s'.sinceTick = s.sinceTick

theorem Rests.stopsOneWay {s s' : Session} (h : s.Rests s') (hs : s.machine.StopsOneWay) :
    s'.machine.StopsOneWay := by
  obtain ⟨events, he, hm⟩ := h.machine
  rw [hm]
  exact hs.allByHand events he

theorem Rests.frozen {s s' : Session} (h : s.Rests s') (hs : s.machine.StopsOneWay)
    (hh : s.machine.halted = true) : s.Frozen s' := by
  obtain ⟨events, he, hm⟩ := h.machine
  have hmode : s.machine.mode = .running := Decidable.not_not.mp fun hne => hs ⟨hh, hne⟩
  refine ⟨?_, h.sinceTick⟩
  rw [hm]
  exact .allByHand s.machine hmode events he

theorem advance_stopsOneWay (s : Session) (hb : blocked? s.machine = none) :
    s.advance.2.machine.StopsOneWay := by
  intro hboth
  rcases advance_outcome s hb with ⟨-, hmode, -⟩ | ⟨m, -, hh, -, ha⟩
  · exact hboth.2 hmode
  · rw [ha, count_halted, hh] at hboth
    exact Bool.false_ne_true hboth.1

/-- The moments of a course: its start, the end of each turn, and its end. -/
def moments (s : Session) (es : List Session) (s' : Session) : List Session :=
  s :: (es.map fun e => e.advance.2) ++ [s']

namespace Course

variable {s s' : Session} {es : List Session}

theorem stopsOneWay (h : Course s es s') (hs : s.machine.StopsOneWay) :
    ∀ m ∈ moments s es s', m.machine.StopsOneWay := by
  induction h with
  | rest h =>
    intro m hm
    rcases List.mem_cons.mp hm with rfl | hm
    · exact hs
    · rw [List.mem_singleton.mp hm]
      exact h.stopsOneWay hs
  | turn h hb hc ih =>
    intro m hm
    rcases List.mem_cons.mp hm with rfl | hm
    · exact hs
    · exact ih (advance_stopsOneWay _ hb) m hm

/-- No turn follows a halt, so that whatever follows it is done by hand. -/
theorem pairwise_frozen (h : Course s es s') (hs : s.machine.StopsOneWay) :
    (moments s es s').Pairwise fun m m' => m.machine.halted = true → m.Frozen m' := by
  induction h with
  | rest h =>
    refine List.pairwise_pair.mpr ?_
    exact fun hh => h.frozen hs hh
  | turn h hb hc ih =>
    refine List.pairwise_cons.mpr ⟨?_, ih (advance_stopsOneWay _ hb)⟩
    intro m hm hh
    have hfree := ((blocked?_eq_none_iff _).mp hb).1
    rw [h.halted, hh] at hfree
    exact absurd hfree.symm Bool.false_ne_true

theorem frozen (h : Course s es s') (hs : s.machine.StopsOneWay) (hh : s.machine.halted = true) :
    s.Frozen s' := by
  have hfirst := (List.pairwise_cons.mp (h.pairwise_frozen hs)).1
  exact hfirst s' (List.mem_append_right _ (List.mem_singleton.mpr rfl)) hh

end Course

/-- What a command line does to the machine by hand. -/
def handwork (line : String) : List Chip8.Event :=
  match Command.parse line with
  | .error _ => []
  | .ok c => c.handwork

theorem command_of_halted (s : Session) (host : Host) (t : Trace) (line : String)
    (h : s.machine.halted = true) :
    (s.command host t line).2.session.machine = s.machine.afterAll (handwork line) := by
  have hb : blocked? s.machine = some .halted := by rw [blocked?, if_pos h]
  -- The commands that let the program go on find it blocked, and the others do not ask.
  unfold command handwork
  cases Command.parse line with
  | error notice => rfl
  | ok c =>
    dsimp only
    cases hd : c.drives with
    | true =>
      rw [obey_of_blocked s host t c hd .halted hb]
      cases c with
      | step | resume | run => rfl
      | _ => exact absurd hd Bool.false_ne_true
    | false => exact (obey_by_hand s host t c hd).1

theorem byHand_of_mem_handwork (line : String) (event : Chip8.Event) (h : event ∈ handwork line) :
    event.byHand := by
  unfold handwork at h
  cases hp : Command.parse line with
  | error notice => simp [hp] at h
  | ok c =>
    rw [hp] at h
    exact c.byHand_of_mem_handwork event h

theorem lines_of_halted (host : Host) (lines : List String) (s : Session) (t : Trace)
    (h : s.machine.halted = true) :
    (afterLines host lines s t).machine = s.machine.afterAll (lines.flatMap handwork) := by
  induction lines generalizing s t with
  | nil => rfl
  | cons line lines ih =>
    have hone := command_of_halted s host t line h
    have hkept := Machine.allByHand_halted_cycles s.machine _ (byHand_of_mem_handwork line)
    rw [← hone, h] at hkept
    rw [List.flatMap_cons, Machine.afterAll_append, ← hone]
    exact ih _ _ hkept.1

/-- What the commands of a user leave of a session: its turns are all that its program has gone
through, at none of its moments has it halted while it waits for a key, and from the moment at which
it halts the program stands still. Whatever is commanded then, keys that are pressed or released and
ticks that are asked for are all that still reaches the machine. -/
structure HaltsForGood (host : Host) (lines : List String) (s : Session) (t : Trace) : Prop where
  course : Course s (turnsOfLines host lines s t) (afterLines host lines s t)
  oneWay : ∀ m ∈ moments s (turnsOfLines host lines s t) (afterLines host lines s t),
    m.machine.StopsOneWay
  frozen : (moments s (turnsOfLines host lines s t) (afterLines host lines s t)).Pairwise
    fun m m' => m.machine.halted = true → m.Frozen m'
  byHand : (afterLines host lines s t).machine.halted = true → ∀ later : List String,
    (afterLines host lines s t).Frozen (afterLines host (lines ++ later) s t) ∧
    (afterLines host (lines ++ later) s t).machine =
      (afterLines host lines s t).machine.afterAll (later.flatMap handwork)

theorem haltsForGood_of_stopsOneWay (host : Host) (lines : List String) (s : Session) (t : Trace)
    (hs : s.machine.StopsOneWay) : HaltsForGood host lines s t := by
  have hcourse := lines_course host lines s t
  refine ⟨hcourse, hcourse.stopsOneWay hs, hcourse.pairwise_frozen hs, ?_⟩
  intro hh later
  have hend := hcourse.stopsOneWay hs _ (List.mem_append_right _ (List.mem_singleton.mpr rfl))
  have hlater := lines_course host later (afterLines host lines s t) (obeyLines host lines s t).2
  have hadd : afterLines host (lines ++ later) s t =
      afterLines host later (afterLines host lines s t) (obeyLines host lines s t).2 :=
    congrArg Prod.fst (obeyLines_append host lines later s t)
  rw [hadd]
  exact ⟨hlater.frozen hend hh, lines_of_halted host later _ _ hh⟩

/-- A session that starts with any program in memory, whatever its user commands, has halted for good
once it halts. -/
theorem halted_session_frozen (surface : Display) (random : RandomSource) (memory : Memory)
    (notice : Notice) (host : Host) (t : Trace) (lines : List String) :
    HaltsForGood host lines { machine := { surface, random, memory }, notice } t := by
  apply haltsForGood_of_stopsOneWay
  intro hboth
  exact hboth.2 rfl

def shortDelay : Session where
  machine :=
    { surface := .standard, random := .zeros,
      memory := .holding [0x60, 0x05, 0xF0, 0x15] (by decide) }

/-- After the halt of that program its delay is counted down by hand, and by nothing else. -/
theorem halted_session_frozen_delay :
    let lines := ["s", "c"]
    let later := ["k 3", "t 2", "r 60 9", "s", "c"]
    HaltsForGood frozenHost lines shortDelay {} ∧
      (afterLines frozenHost lines shortDelay {}).machine.halted = true ∧
      (afterLines frozenHost lines shortDelay {}).machine.registers.dt = 5 ∧
      (afterLines frozenHost lines shortDelay {}).Frozen
        (afterLines frozenHost (lines ++ later) shortDelay {}) ∧
      (afterLines frozenHost (lines ++ later) shortDelay {}).machine =
        (afterLines frozenHost lines shortDelay {}).machine.afterAll
          [.pressKey 3, .tick, .tick] ∧
      (afterLines frozenHost (lines ++ later) shortDelay {}).machine.registers.dt = 3 := by
  intro lines later
  have h : HaltsForGood frozenHost lines shortDelay {} :=
    halted_session_frozen _ _ _ .ready frozenHost {} lines
  have hh : (afterLines frozenHost lines shortDelay {}).machine.halted = true := by
    decide +kernel
  have hwork : later.flatMap handwork = [.pressKey 3, .tick, .tick] := by decide +kernel
  obtain ⟨hfrozen, hm⟩ := h.byHand hh later
  rw [hwork] at hm
  exact ⟨h, hh, by decide +kernel, hfrozen, hm, by decide +kernel⟩

end Debugger.Session

end Chip8
