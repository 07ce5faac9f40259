import Chip8.Proofs.Debugger.Reachable
import Chip8.Proofs.Debugger.Reading
import Chip8.Proofs.Machine.HeldKeys

namespace Chip8

theorem Keypad.key_val (k : Fin 16) : Keypad.key k.val = k := by
  apply Fin.ext
  simp only [Keypad.key]
  omega

def Machine.withTimers {σ : Type} (m : Machine σ) (dt st : Int) : Machine σ :=
  { m with registers := { m.registers with dt, st } }

theorem Machine.tick_withTimers {σ : Type} (m : Machine σ) (dt st : Int) :
    (m.withTimers dt st).tick =
      m.withTimers (if 0 < dt then dt - 1 else dt) (if 0 < st then st - 1 else st) := rfl

theorem Machine.repeat_tick_eq {σ : Type} (m : Machine σ) (hd : 0 ≤ m.registers.dt)
    (hs : 0 ≤ m.registers.st) (n : Nat) :
    n.repeat Machine.tick m =
      m.withTimers (max 0 (m.registers.dt - n)) (max 0 (m.registers.st - n)) := by
  induction n with
  | zero =>
    have hzero (r : Int) (hr : 0 ≤ r) : max 0 (r - (0 : Nat)) = r := by omega
    rw [hzero _ hd, hzero _ hs]
    rfl
  | succ n ih =>
    have hone (r : Int) : (if 0 < max 0 (r - n) then max 0 (r - n) - 1 else max 0 (r - n)) =
        max 0 (r - (n + 1 : Nat)) := by
      split <;> omega
    rw [Nat.repeat, ih, tick_withTimers, hone, hone]

/-- What a count of ticks leaves of a timer. A negative count leaves it alone. -/
def countedDown (timer count : Int) : Int := if 0 ≤ count then max 0 (timer - count) else timer

/-- The machine that a key has reached, with the surface on which it is held: a register that waits
for a key takes its number, and the machine goes on. -/
def Machine.receive {σ : Type} (m : Machine σ) (surface : σ) (k : Fin 16) : Machine σ :=
  match m.mode with
  | .running => { m with surface }
  | .awaitingKey x =>
    { m with surface, mode := .running, registers := m.registers.set x (UInt8.ofNat k.val) }

theorem Machine.pressKey_eq_receive {σ : Type} [Surface σ] (m : Machine σ) (k : Fin 16) :
    m.pressKey k.val = m.receive (Surface.setKey m.surface k.val true) k := by
  cases hm : m.mode with
  | running => simp only [pressKey, receive, hm, Keypad.key_val]
  | awaitingKey x => simp only [pressKey, receive, hm, Keypad.key_val]

namespace Debugger

theorem Session.tick_eq (s : Session) (n : Int) (hd : 0 ≤ s.machine.registers.dt)
    (hs : 0 ≤ s.machine.registers.st) : ∃ notice, s.tick n =
      { s with
        machine := s.machine.withTimers (countedDown s.machine.registers.dt n)
          (countedDown s.machine.registers.st n)
        notice } := by
  have hcount (r : Int) (hr : 0 ≤ r) : max 0 (r - (n.toNat : Int)) = countedDown r n := by
    unfold countedDown
    split <;> omega
  rw [Session.tick, Machine.repeat_tick_eq s.machine hd hs, hcount _ hd, hcount _ hs]
  exact ⟨_, rfl⟩

/-- Lines that ask for help, or for nothing that can be done: all that they get is an answer. -/
inductive Idle (line : String) : Prop where
  | empty (h : Text.words line = [])
  | help (args : List String) (h : Asks line .help args)
  | unknown (word : String) (args : List String) (h : Text.words line = word :: args)
    (hv : ∀ v : Verb, Text.lower word ∉ v.names)
  | noAddress (v : Verb) (args : List String) (hv : v = .breakpoint ∨ v = .view)
    (h : Asks line v args) (hn : argument? .hexadecimal args = none)
  | noKey (v : Verb) (args : List String) (hv : v = .press ∨ v = .release) (h : Asks line v args)
    (hn : ∀ k : Fin 16, argument? .hexadecimal args ≠ some (k.val : Int))
  | badRate (args : List String) (h : Asks line .run args)
    (hn : ∀ n, argument? .decimal args = some n → n < 1)
  | badLimit (rate : String) (args : List String) (h : Asks line .run (rate :: args))
    (hne : args ≠ []) (hn : ∀ n, argument? .decimal args = some n → n < 1)
  | noCount (args : List String) (h : Asks line .tick args) (hne : args ≠ [])
    (hn : argument? .decimal args = none)

theorem Idle.parse {line : String} (h : Idle line) :
    Command.parse line = .ok .help ∨ ∃ notice, Command.parse line = .error notice := by
  have hrefused (args : List String) (hasks : Asks line .run args)
      (h : (∀ n, argument? .decimal args = some n → n < 1) ∨
        args.tail ≠ [] ∧ ∀ n, argument? .decimal args.tail = some n → n < 1) :
      ∃ notice, Command.parse line = .error notice := by
    rw [parse_of_asks line _ args hasks]
    exact runArgs_refused args h
  cases h with
  | empty h => exact Or.inl (by simp only [Command.parse, h])
  | help args h => exact Or.inl (parse_of_asks line _ args h)
  | unknown word args h hv =>
    refine Or.inr ⟨.unknownCommand (Text.lower word), ?_⟩
    simp only [Command.parse, h]
    exact Verb.ofWords_of_not_mem _ args hv
  | noAddress v args hv h hn =>
    have hread (form : String) (f : Int → Command) :
        ∃ notice, (Command.address args form).map f = .error notice := by
      obtain ⟨notice, he⟩ := address_of_none args form hn
      exact ⟨notice, by rw [he]; rfl⟩
    right
    rw [parse_of_asks line v args h]
    rcases hv with rfl | rfl
    · exact hread _ .breakpoint
    · exact hread _ .view
  | noKey v args hv h hn =>
    have hread (form : String) (f : Fin 16 → Command) :
        ∃ notice, (Command.key args form).map f = .error notice := by
      obtain ⟨notice, he⟩ := key_of_none args form hn
      exact ⟨notice, by rw [he]; rfl⟩
    right
    rw [parse_of_asks line v args h]
    rcases hv with rfl | rfl
    · exact hread _ .press
    · exact hread _ .release
  | badRate args h hn => exact Or.inr (hrefused args h (Or.inl hn))
  | badLimit rate args h hne hn => exact Or.inr (hrefused (rate :: args) h (Or.inr ⟨hne, hn⟩))
  | noCount args h hne hn =>
    right
    rw [parse_of_asks line _ args h]
    exact tickArgs_of_none args hne hn

namespace Session

theorem command_of_idle (line : String) (h : Idle line) :
    ∃ notice, ∀ (s : Session) (host : Host) (t : Trace),
      s.command host t line = (true, ⟨s.notify notice, t, .stopped⟩) := by
  rcases h.parse with hp | ⟨notice, hp⟩
  · exact ⟨.help, fun s host t => by simp only [command, hp]; rfl⟩
  · exact ⟨notice, fun s host t => by simp only [command, hp]⟩

/-- A run ends by itself or is paused, or it is given up: no time fails to be computed on a host whose
clock can be read. -/
theorem frames_ending (host : Host) (hclock : ∀ k, ∃ time, host.clock k = .ok time) (hz : Int)
    (interval : Float) (limit : Option Nat) (patience steps : Nat) (s : Session) (t : Trace) :
    (frames host hz interval limit patience steps s t).ending ∈
      [Ending.stopped, .paused, .abandoned] := by
  have hclose (s : Session) (steps : Nat) (t : Trace) :
      (s.close host hz steps t).ending ∈ [Ending.stopped, .paused, .abandoned] := by
    unfold close
    split <;> simp
  have hread (k : Nat) (why : Number.Failure) : host.clock k ≠ .error why := by
    obtain ⟨time, htime⟩ := hclock k
    simp [htime]
  induction patience generalizing steps s t with
  | zero => simp [frames]
  | succ patience ih =>
    have hafter := frames_afterFrame host hz interval limit patience steps s t
    generalize frames host hz interval limit (patience + 1) steps s t = r at hafter ⊢
    cases hafter with
    | unread t' k why hk => exact absurd hk (hread k why)
    | ended => exact hclose _ _ _
    | interrupted => simp
    | limitReached => exact hclose _ _ _
    | unreadAfter t' h k why hk => exact absurd hk (hread k why)
    | goesOn => exact ih _ _ _

theorem obey_ending (s : Session) (host : Host) (hclock : ∀ k, ∃ time, host.clock k = .ok time)
    (t : Trace) (c : Command) (hc : ∀ hz limit, c = .run hz limit → 1 ≤ hz) :
    (s.obey host t c).ending ∈ [Ending.stopped, .paused, .abandoned] := by
  cases c with
  | run hz limit =>
    simp only [obey, runAtSpeed, frameInterval_of_pos hz (hc hz limit rfl)]
    cases blocked? s.machine with
    | some reason => simp
    | none => exact frames_ending host hclock hz _ limit _ 0 _ t
  | _ => simp [obey]

/-- One screen is the other but for a key, which is held or not. -/
structure KeyMoved (k : Fin 16) (held : Bool) (d d' : Display) : Prop where
  screen : d' = { d with keypad := d'.keypad }
  keys : ∀ code, d'.keypad.isPressed code =
    if code % 16 = k.val then held else d.keypad.isPressed code

theorem KeyMoved.setKey (k : Fin 16) (held : Bool) (d : Display) :
    KeyMoved k held d (Surface.setKey d k.val held) := by
  refine ⟨rfl, ?_⟩
  intro code
  have hmod : (k.val : Int) % 16 = code % 16 ↔ code % 16 = k.val := by omega
  change (d.keypad.set k.val held).isPressed code = _
  rw [Keypad.isPressed_set]
  simp only [hmod]

/-- What a command line changes of a session, and that it changes nothing else. -/
structure KeepsToItsWord (s : Session) (host : Host) (t : Trace) (line : String) : Prop where
  /-- Nothing is thrown: the command is over, or the user has interrupted it. -/
  ends : (s.command host t line).2.ending = .stopped ∨ (s.command host t line).2.ending = .paused
  quits : (s.command host t line).1 = false ↔ ∃ args, Asks line .quit args
  quit : (s.command host t line).1 = false → (s.command host t line).2 = ⟨s, t, .stopped⟩
  idle : Idle line → ∃ notice, s.command host t line = (true, ⟨s.notify notice, t, .stopped⟩)
  breakpoint : ∀ args n, Asks line .breakpoint args → argument? .hexadecimal args = some n →
    ∃ breakpoints notice,
      s.command host t line = (true, ⟨{ s with breakpoints, notice }, t, .stopped⟩)
  view : ∀ args n, Asks line .view args → argument? .hexadecimal args = some n →
    ∃ viewAddr notice, 0 ≤ viewAddr ∧ viewAddr ≤ 0xFFFF ∧ viewAddr % 65536 = n % 65536 ∧
      s.command host t line = (true, ⟨{ s with viewAddr, notice }, t, .stopped⟩)
  release : ∀ args (k : Fin 16), Asks line .release args →
    argument? .hexadecimal args = some (k.val : Int) →
    ∃ surface notice, KeyMoved k false s.machine.surface surface ∧
      s.command host t line =
        (true, ⟨{ s with machine := { s.machine with surface }, notice }, t, .stopped⟩)
  press : ∀ args (k : Fin 16), Asks line .press args →
    argument? .hexadecimal args = some (k.val : Int) →
    ∃ surface notice, KeyMoved k true s.machine.surface surface ∧
      s.command host t line =
        (true, ⟨{ s with machine := s.machine.receive surface k, notice }, t, .stopped⟩)
  tick : ∀ args n, Asks line .tick args → (args = [] ∧ n = 1 ∨ argument? .decimal args = some n) →
    ∃ notice, s.command host t line = (true, ⟨{ s with
      machine := s.machine.withTimers (countedDown s.machine.registers.dt n)
        (countedDown s.machine.registers.st n)
      notice }, t, .stopped⟩)

theorem command_of_read (s : Session) (host : Host) (t : Trace) (line : String) (v : Verb)
    (args : List String) (h : Asks line v args) (c : Command) (hc : v.read args = .ok c) :
    s.command host t line = (decide (c ≠ .quit), s.obey host t c) := by
  simp only [command, parse_of_asks line v args h, hc]

theorem command_eq_false_iff (s : Session) (host : Host) (t : Trace) (line : String) :
    (s.command host t line).1 = false ↔ ∃ args, Asks line .quit args := by
  constructor
  · intro h
    unfold command at h
    cases hp : Command.parse line with
    | error notice => simp [hp] at h
    | ok c =>
      have hc : c = .quit := by simpa [hp] using h
      rw [hc] at hp
      obtain ⟨args, hasks, -⟩ := asks_of_parse line _ hp (by simp)
      exact ⟨args, hasks⟩
  · rintro ⟨args, hasks⟩
    rw [command_of_read s host t line .quit args hasks .quit rfl]
    rfl

theorem command_ending (s : Session) (host : Host) (hclock : ∀ k, ∃ time, host.clock k = .ok time)
    (t : Trace) (line : String) :
    (s.command host t line).2.ending ∈ [Ending.stopped, .paused, .abandoned] := by
  unfold command
  cases hp : Command.parse line with
  | error notice => simp
  | ok c =>
    refine obey_ending s host hclock t c ?_
    rintro hz limit rfl
    obtain ⟨args, -, hread⟩ := asks_of_parse line _ hp (by simp)
    obtain ⟨hz', limit', heq, hpos⟩ := runArgs_ok args _ hread
    cases heq
    exact hpos

/-- Whatever is typed into a session that one may come to, it is answered without a failure once the
command is over, and it touches nothing but what it names. -/
theorem commands_keep_to_their_word (s : Session) (hs : s.Reachable) (host : Host)
    (hclock : ∀ k, ∃ time, host.clock k = .ok time) (t : Trace) (line : String)
    (hend : (s.command host t line).2.ending ≠ .abandoned) : s.KeepsToItsWord host t line where
  ends := by
    have := command_ending s host hclock t line
    simp only [List.mem_cons, List.not_mem_nil, or_false] at this
    tauto
  quits := command_eq_false_iff s host t line
  quit h := by
    obtain ⟨args, hasks⟩ := (command_eq_false_iff s host t line).mp h
    rw [command_of_read s host t line .quit args hasks .quit rfl]
    rfl
  idle h := by
    obtain ⟨notice, hnotice⟩ := command_of_idle line h
    exact ⟨notice, hnotice s host t⟩
  breakpoint args n hasks hn := by
    rw [command_of_read s host t line _ args hasks _ (Verb.read_breakpoint args n hn), obey,
      toggleBreakpoint]
    split
    · exact ⟨_, _, rfl⟩
    · exact ⟨_, _, rfl⟩
  view args n hasks hn := by
    rw [command_of_read s host t line _ args hasks _ (Verb.read_view args n hn)]
    exact ⟨n % 65536, _, by omega, by omega, by omega, rfl⟩
  release args k hasks hk := by
    rw [command_of_read s host t line _ args hasks _ (Verb.read_release args k hk), obey,
      releaseKey, Machine.releaseKey, Keypad.key_val]
    exact ⟨_, _, .setKey k false _, rfl⟩
  press args k hasks hk := by
    rw [command_of_read s host t line _ args hasks _ (Verb.read_press args k hk), obey, pressKey,
      Machine.pressKey_eq_receive]
    exact ⟨_, _, .setKey k true _, rfl⟩
  tick args n hasks hn := by
    obtain ⟨notice, htick⟩ := tick_eq s n hs.inRange.dt.1 hs.inRange.st.1
    rw [command_of_read s host t line .tick args hasks _ (tickArgs_of_argument args n hn), obey,
      htick]
    exact ⟨notice, rfl⟩

def keyWanted : Session where
  machine := ({ surface := .standard, random := .zeros } : Machine Display).afterAll [.awaitKey 3]

/-- The key is named in another spelling, and more than is needed follows it. -/
theorem commands_keep_to_their_word_key :
    (keyWanted.Reachable ∧ (∀ k, ∃ time, frozenHost.clock k = .ok time) ∧
      (keyWanted.command frozenHost {} "KEY 0x_A now").2.ending ≠ .abandoned) ∧
    keyWanted.KeepsToItsWord frozenHost {} "KEY 0x_A now" ∧
      (keyWanted.command frozenHost {} "KEY 0x_A now").2.session.notice = .keyPressed 0xA true ∧
      (keyWanted.command frozenHost {} "KEY 0x_A now").2.session.machine.registers.v.toList[3]? =
        some 0xA := by
  have hreach : keyWanted.Reachable :=
    .opened 64 32 (by decide) (by decide) .zeros [.awaitKey 3] keyWanted rfl
  have hclock : ∀ k, ∃ time, frozenHost.clock k = .ok time := fun _ => ⟨0, rfl⟩
  have hend : (keyWanted.command frozenHost {} "KEY 0x_A now").2.ending ≠ .abandoned := by
    decide +kernel
  exact ⟨⟨hreach, hclock, hend⟩,
    commands_keep_to_their_word keyWanted hreach frozenHost hclock {} _ hend,
    by decide +kernel, by decide +kernel⟩

end Session

end Debugger

end Chip8
