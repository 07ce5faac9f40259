import Chip8.Debugger.Command

namespace Chip8.Debugger

/-- What the first word of a command line can ask for. -/
inductive Verb where
  | step
  | resume
  | run
  | breakpoint
  | view
  | press
  | release
  | tick
  | help
  | quit
deriving DecidableEq, Repr

namespace Verb

def names : Verb → List String
  | step => ["s", "step"]
  | resume => ["c", "continue"]
  | run => ["r", "run"]
  | breakpoint => ["b", "breakpoint"]
  | view => ["g", "goto"]
  | press => ["k", "key"]
  | release => ["u", "release"]
  | tick => ["t", "tick"]
  | help => ["h", "help"]
  | quit => ["q", "quit"]

def read : Verb → List String → Except Notice Command
  | step, _ => .ok .step
  | resume, _ => .ok .resume
  | run, args => Command.runArgs args
  | breakpoint, args => (Command.address args "b <hex_address>").map .breakpoint
  | view, args => (Command.address args "g <hex_address>").map .view
  | press, args => (Command.key args "k <key>").map .press
  | release, args => (Command.key args "u <key>").map .release
  | tick, args => Command.tickArgs args
  | help, _ => .ok .help
  | quit, _ => .ok .quit

theorem ofWords_of_mem (v : Verb) (name : String) (args : List String) (h : name ∈ v.names) :
    Command.ofWords name args = v.read args := by
  cases v <;>
  · simp only [names, List.mem_cons, List.not_mem_nil, or_false] at h
    rcases h with rfl | rfl <;> simp [Command.ofWords, read]

theorem ofWords_of_not_mem (name : String) (args : List String) (h : ∀ v : Verb, name ∉ v.names) :
    Command.ofWords name args = .error (.unknownCommand name) := by
  have hne (v : Verb) : ∀ word ∈ v.names, name ≠ word := fun word hw heq => h v (heq ▸ hw)
  have hstep := hne step
  have hresume := hne resume
  have hrun := hne run
  have hbreakpoint := hne breakpoint
  have hview := hne view
  have hpress := hne press
  have hrelease := hne release
  have htick := hne tick
  have hhelp := hne help
  have hquit := hne quit
  simp only [names, List.mem_cons, List.not_mem_nil, or_false, forall_eq_or_imp, forall_eq] at *
  simp [Command.ofWords, *]

end Verb

def Command.verb : Command → Verb
  | step => .step
  | resume => .resume
  | run _ _ => .run
  | breakpoint _ => .breakpoint
  | view _ => .view
  | press _ => .press
  | release _ => .release
  | tick _ => .tick
  | help => .help
  | quit => .quit

theorem exists_of_map_ok {α : Type} (f : α → Command) (x : Except Notice α) (c : Command)
    (h : x.map f = .ok c) : ∃ a, x = .ok a ∧ f a = c := by
  cases x with
  | error notice => cases h
  | ok a => exact ⟨a, rfl, Except.ok.inj h⟩

theorem positive_eq (what : Argument) (tooSmall : Notice) (text : String) :
    (∃ notice, (∀ n, Text.Base.decimal.integer? text = some n → n < 1) ∧
      Command.positive what tooSmall text = .error notice) ∨
    ∃ n, Text.Base.decimal.integer? text = some n ∧ 1 ≤ n ∧
      Command.positive what tooSmall text = .ok n := by
  unfold Command.positive
  cases Text.Base.decimal.integer? text with
  | none => exact Or.inl ⟨_, by simp, rfl⟩
  | some n =>
    by_cases hn : n < 1
    · exact Or.inl ⟨tooSmall, by simpa using hn, if_pos hn⟩
    · exact Or.inr ⟨n, rfl, Int.not_lt.mp hn, if_neg hn⟩

theorem runArgs_ok (args : List String) (c : Command) (h : Command.runArgs args = .ok c) :
    ∃ hz limit, c = .run hz limit ∧ 1 ≤ hz := by
  have hrate (text : String) (hz : Int)
      (h : Command.positive .hz .hzTooSmall text = .ok hz) : 1 ≤ hz := by
    rcases positive_eq .hz .hzTooSmall text with ⟨notice, -, he⟩ | ⟨n, -, hn, he⟩
    · rw [h] at he
      cases he
    · rw [h, Except.ok.injEq] at he
      rwa [he]
  unfold Command.runArgs at h
  split at h
  · cases h
  · obtain ⟨hz, hok, rfl⟩ := exists_of_map_ok _ _ _ h
    exact ⟨hz, none, rfl, hrate _ hz hok⟩
  · split at h
    · cases h
    · cases h
    · next hok _ => exact ⟨_, _, (Except.ok.inj h).symm, hrate _ _ hok⟩

theorem Verb.verb_of_read (v : Verb) (args : List String) (c : Command) (h : v.read args = .ok c) :
    c.verb = v := by
  cases v with
  | step | resume | help | quit => rw [← Except.ok.inj h]; rfl
  | run =>
    obtain ⟨hz, limit, rfl, -⟩ := runArgs_ok args c h
    rfl
  | breakpoint | view | press | release =>
    obtain ⟨a, -, rfl⟩ := exists_of_map_ok _ _ _ h
    rfl
  | tick =>
    simp only [read, Command.tickArgs] at h
    split at h
    · rw [← Except.ok.inj h]; rfl
    · split at h
      · rw [← Except.ok.inj h]; rfl
      · cases h

/-- The line has this verb as its first word, in capital or small letters, and these words after it. -/
def Asks (line : String) (v : Verb) (args : List String) : Prop :=
  ∃ word, Text.words line = word :: args ∧ Text.lower word ∈ v.names

def argument? (base : Text.Base) (args : List String) : Option Int := args.head?.bind base.integer?

theorem parse_of_asks (line : String) (v : Verb) (args : List String) (h : Asks line v args) :
    Command.parse line = v.read args := by
  obtain ⟨word, hwords, hmem⟩ := h
  simp only [Command.parse, hwords]
  exact v.ofWords_of_mem _ args hmem

/-- A line is empty, begins with a word that is no verb, or asks for something. -/
theorem line_cases (line : String) :
    (Text.words line = [] ∧ Command.parse line = .ok .help) ∨
    (∃ word args, Text.words line = word :: args ∧ (∀ v : Verb, Text.lower word ∉ v.names) ∧
      Command.parse line = .error (.unknownCommand (Text.lower word))) ∨
    ∃ v args, Asks line v args ∧ Command.parse line = v.read args := by
  unfold Command.parse
  cases hwords : Text.words line with
  | nil => exact Or.inl ⟨rfl, rfl⟩
  | cons word args =>
    right
    by_cases hv : ∃ v : Verb, Text.lower word ∈ v.names
    · obtain ⟨v, hmem⟩ := hv
      exact Or.inr ⟨v, args, ⟨word, hwords, hmem⟩, v.ofWords_of_mem _ args hmem⟩
    · have hnone : ∀ v : Verb, Text.lower word ∉ v.names := fun v hmem => hv ⟨v, hmem⟩
      exact Or.inl ⟨word, args, rfl, hnone, Verb.ofWords_of_not_mem _ args hnone⟩

theorem asks_of_parse (line : String) (c : Command) (h : Command.parse line = .ok c)
    (hc : c ≠ .help) : ∃ args, Asks line c.verb args ∧ c.verb.read args = .ok c := by
  rcases line_cases line with ⟨-, hp⟩ | ⟨_, _, -, -, hp⟩ | ⟨v, args, hasks, hp⟩
  · rw [hp] at h
    exact absurd (Except.ok.inj h).symm hc
  · rw [hp] at h
    cases h
  · rw [hp] at h
    rw [v.verb_of_read args c h]
    exact ⟨args, hasks, h⟩

theorem address_of_argument (args : List String) (form : String) (n : Int)
    (h : argument? .hexadecimal args = some n) : Command.address args form = .ok (n % 65536) := by
  cases args with
  | nil => cases h
  | cons text args =>
    have hread : Text.Base.hexadecimal.integer? text = some n := h
    simp only [Command.address, hread]

theorem address_of_none (args : List String) (form : String)
    (h : argument? .hexadecimal args = none) :
    ∃ notice, Command.address args form = .error notice := by
  cases args with
  | nil => exact ⟨_, rfl⟩
  | cons text args =>
    have hread : Text.Base.hexadecimal.integer? text = none := h
    exact ⟨.invalid .address text, by simp only [Command.address, hread]⟩

theorem index?_val (k : Fin 16) : Registers.index? k.val = some k := by
  rw [Registers.index?, dif_pos (by omega)]
  rfl

theorem key_of_argument (args : List String) (form : String) (k : Fin 16)
    (h : argument? .hexadecimal args = some (k.val : Int)) : Command.key args form = .ok k := by
  cases args with
  | nil => cases h
  | cons text args =>
    have hread : Text.Base.hexadecimal.integer? text = some (k.val : Int) := h
    simp only [Command.key, hread, Option.bind_some, index?_val]

theorem key_of_none (args : List String) (form : String)
    (h : ∀ k : Fin 16, argument? .hexadecimal args ≠ some (k.val : Int)) :
    ∃ notice, Command.key args form = .error notice := by
  cases args with
  | nil => exact ⟨_, rfl⟩
  | cons text args =>
    refine ⟨.invalid .key text, ?_⟩
    have hnone : (Text.Base.hexadecimal.integer? text).bind Registers.index? = none := by
      rw [Option.bind_eq_none_iff]
      intro n hn
      refine dif_neg fun hrange => h ⟨n.toNat, by omega⟩ ?_
      exact hn.trans (congrArg some (Int.toNat_of_nonneg hrange.1).symm)
    simp only [Command.key, hnone]

namespace Verb

theorem read_breakpoint (args : List String) (n : Int) (h : argument? .hexadecimal args = some n) :
    breakpoint.read args = .ok (.breakpoint (n % 65536)) := by
  rw [read, address_of_argument args _ n h]
  rfl

theorem read_view (args : List String) (n : Int) (h : argument? .hexadecimal args = some n) :
    view.read args = .ok (.view (n % 65536)) := by
  rw [read, address_of_argument args _ n h]
  rfl

theorem read_press (args : List String) (k : Fin 16)
    (h : argument? .hexadecimal args = some (k.val : Int)) : press.read args = .ok (.press k) := by
  rw [read, key_of_argument args _ k h]
  rfl

theorem read_release (args : List String) (k : Fin 16)
    (h : argument? .hexadecimal args = some (k.val : Int)) :
    release.read args = .ok (.release k) := by
  rw [read, key_of_argument args _ k h]
  rfl

end Verb

theorem runArgs_refused (args : List String)
    (h : (∀ n, argument? .decimal args = some n → n < 1) ∨
      args.tail ≠ [] ∧ ∀ n, argument? .decimal args.tail = some n → n < 1) :
    ∃ notice, Command.runArgs args = .error notice := by
  have hpositive (what : Argument) (tooSmall : Notice) (text : String) (more : List String)
      (h : ∀ n, argument? .decimal (text :: more) = some n → n < 1) :
      ∃ notice, Command.positive what tooSmall text = .error notice := by
    rcases positive_eq what tooSmall text with ⟨notice, -, he⟩ | ⟨n, hread, hn, -⟩
    · exact ⟨notice, he⟩
    · have := h n hread
      omega
  match args, h with
  | [], _ => exact ⟨_, rfl⟩
  | [rate], h =>
    have hrate := h.resolve_right fun hlimit => hlimit.1 rfl
    obtain ⟨notice, he⟩ := hpositive .hz .hzTooSmall rate [] hrate
    exact ⟨notice, by rw [Command.runArgs, he]; rfl⟩
  | rate :: limit :: more, h =>
    rcases positive_eq .hz .hzTooSmall rate with ⟨notice, -, he⟩ | ⟨n, hread, hn, he⟩
    · exact ⟨notice, by rw [Command.runArgs, he]⟩
    · -- The rate is in order, so it is the limit that is not.
      have hlimit := h.resolve_left fun hrate => absurd (hrate n hread) (Int.not_lt.mpr hn)
      obtain ⟨notice, he'⟩ := hpositive .maxSteps .maxStepsTooSmall limit more hlimit.2
      exact ⟨notice, by rw [Command.runArgs, he, he']⟩

theorem tickArgs_of_argument (args : List String) (n : Int)
    (h : args = [] ∧ n = 1 ∨ argument? .decimal args = some n) :
    Command.tickArgs args = .ok (.tick n) := by
  rcases h with ⟨rfl, rfl⟩ | h
  · rfl
  · cases args with
    | nil => cases h
    | cons text args =>
      have hread : Text.Base.decimal.integer? text = some n := h
      simp only [Command.tickArgs, hread]

theorem tickArgs_of_none (args : List String) (hne : args ≠ [])
    (h : argument? .decimal args = none) : ∃ notice, Command.tickArgs args = .error notice := by
  cases args with
  | nil => exact absurd rfl hne
  | cons text args =>
    have hread : Text.Base.decimal.integer? text = none := h
    exact ⟨.invalid .tickCount text, by simp only [Command.tickArgs, hread]⟩

end Chip8.Debugger
