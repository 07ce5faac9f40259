import Chip8.Proofs.Debugger.Frames
import Chip8.Proofs.Debugger.Layout
import Chip8.Proofs.Debugger.Reading
import Chip8.Proofs.Memory.Dump
import Chip8.Proofs.Text.Markup

namespace Chip8

open Text

namespace Memory

variable (m : Memory)

/-- The bytes of the rows of a dump as their characters, with the bar that ends each row. -/
def shownText (start : Int) (rows : Nat) : List Char :=
  (List.range rows).flatMap fun r => m.rowText (rowStart start + 16 * (r : Nat)) ++ ['|']

theorem carries_dumpRow (addr : Int) :
    Carries (m.dumpRow addr).toList (m.rowText addr ++ ['|']) := by
  have hmarks : ∀ c ∈ markChars, c ∉ tagMarks := by decide
  have hlabel : Carries ('0' :: 'x' :: (hex 4 addr).toList) [] := by
    have hlead : Carries ['0', 'x'] [] := .plain (by decide)
    apply hlead.append
    apply Carries.plain
    intro c hc
    exact hmarks c (List.mem_append_right _ (mem_hex 4 addr c hc))
  have hcolon : Carries [':', ' '] [] := .plain (by decide)
  have hhalf (first : Nat) : Carries (m.hexHalf addr first) [] :=
    .plain fun c hc => hmarks c (m.mem_hexHalf addr first c hc)
  have hgap : Carries [' ', ' '] [] := .plain (by decide)
  have hbar : Carries [' ', ' ', '|'] [] := .plain (by decide)
  rw [toList_dumpRow]
  exact hlabel.append (hcolon.append ((hhalf 0).append (hgap.append ((hhalf 8).append
    (hbar.append (.ended (m.rowText addr) '|' (by decide)))))))

theorem carries_dump (start : Int) (rows : Nat) :
    Carries (m.dump start rows).toList (m.shownText start rows) := by
  rw [dump, dumpLines, String.toList_intercalate, List.map_map]
  apply Carries.intercalate
  · decide
  · intro r _
    exact m.carries_dumpRow _

end Memory

namespace Debugger

theorem eq_error_of_map {α β : Type} (f : α → β) (x : Except Notice α) (notice : Notice)
    (h : x.map f = .error notice) : x = .error notice := by
  cases x with
  | error other => exact congrArg Except.error (Except.error.inj h)
  | ok a => cases h

theorem eq_of_positive_invalid {what what' : Argument} {tooSmall : Notice} {text word : String}
    (h : Command.positive what tooSmall text = .error (.invalid what' word))
    (hsmall : tooSmall ≠ .invalid what' word) : word = text := by
  unfold Command.positive at h
  split at h
  · exact (Notice.invalid.inj (Except.error.inj h)).2.symm
  · split at h
    · exact absurd (Except.error.inj h) hsmall
    · cases h

theorem mem_of_runArgs_invalid (args : List String) (what : Argument) (word : String)
    (h : Command.runArgs args = .error (.invalid what word)) : word ∈ args := by
  unfold Command.runArgs at h
  split at h
  · cases h
  · have hrate := eq_error_of_map _ _ _ h
    rw [eq_of_positive_invalid hrate (by simp)]
    exact List.mem_cons_self
  · split at h
    -- The rate is refused first, whatever the limit is.
    · next hrate =>
      rw [Except.error.inj h] at hrate
      rw [eq_of_positive_invalid hrate (by simp)]
      exact List.mem_cons_self
    · next hlimit =>
      rw [Except.error.inj h] at hlimit
      rw [eq_of_positive_invalid hlimit (by simp)]
      exact List.mem_cons_of_mem _ List.mem_cons_self
    · cases h

/-- Reads the first argument, which is called invalid if it cannot be read. -/
def readFirst {α β : Type} (read : String → Option α) (what : Argument) (without : Except Notice β)
    (make : α → β) : List String → Except Notice β
  | [] => without
  | text :: _ =>
    match read text with
    | some a => .ok (make a)
    | none => .error (.invalid what text)

theorem mem_of_readFirst_invalid {α β : Type} {read : String → Option α} {what what' : Argument}
    {without : Except Notice β} {make : α → β} {args : List String} {word : String}
    (h : readFirst read what without make args = .error (.invalid what' word))
    (hne : without ≠ .error (.invalid what' word)) : word ∈ args := by
  cases args with
  | nil => exact absurd h hne
  | cons text args =>
    rw [readFirst] at h
    split at h
    · cases h
    · rw [(Notice.invalid.inj (Except.error.inj h)).2]
      exact List.mem_cons_self

theorem address_eq_readFirst (args : List String) (form : String) :
    Command.address args form =
      readFirst Base.hexadecimal.integer? .address (.error (.usage form)) (· % 65536) args := by
  cases args with
  | nil => rfl
  | cons text args =>
    rw [Command.address, readFirst]
    cases Base.hexadecimal.integer? text <;> rfl

theorem key_eq_readFirst (args : List String) (form : String) :
    Command.key args form =
      readFirst (fun text => (Base.hexadecimal.integer? text).bind Registers.index?) .key
        (.error (.usage form)) id args := by
  cases args with
  | nil => rfl
  | cons text args =>
    rw [Command.key, readFirst]
    cases (Base.hexadecimal.integer? text).bind Registers.index? <;> rfl

theorem tickArgs_eq_readFirst (args : List String) :
    Command.tickArgs args =
      readFirst Base.decimal.integer? .tickCount (.ok (.tick 1)) .tick args := by
  cases args with
  | nil => rfl
  | cons text args =>
    rw [Command.tickArgs, readFirst]
    cases Base.decimal.integer? text <;> rfl

theorem Verb.mem_of_invalid (v : Verb) (args : List String) (what : Argument) (word : String)
    (h : v.read args = .error (.invalid what word)) : word ∈ args := by
  cases v with
  | step | resume | help | quit => cases h
  | run => exact mem_of_runArgs_invalid args what word h
  | breakpoint | view =>
    have haddress := eq_error_of_map _ _ _ h
    rw [address_eq_readFirst] at haddress
    exact mem_of_readFirst_invalid haddress (by simp)
  | press | release =>
    have hkey := eq_error_of_map _ _ _ h
    rw [key_eq_readFirst] at hkey
    exact mem_of_readFirst_invalid hkey (by simp)
  | tick =>
    rw [read, tickArgs_eq_readFirst] at h
    exact mem_of_readFirst_invalid h (by simp)

theorem exists_word_of_invalid (line : String) (what : Argument) (word : String)
    (h : Command.parse line = .error (.invalid what word)) :
    ∃ v args, Asks line v args ∧ word ∈ args := by
  rcases line_cases line with ⟨-, hp⟩ | ⟨_, _, -, -, hp⟩ | ⟨v, args, hasks, hp⟩
  · rw [hp] at h
    cases h
  · rw [hp] at h
    cases h
  · exact ⟨v, args, hasks, v.mem_of_invalid args what word (hp.symm.trans h)⟩

namespace Session

variable (s : Session)

theorem hasTag_memory :
    HasTag s.layout.memory.text.toList ↔
      HasTag (s.machine.memory.shownText s.viewAddr memoryRows) :=
  (s.machine.memory.carries_dump s.viewAddr memoryRows).hasTag_iff

def invalidFront (what : Argument) : String :=
  s.stateLine ++ "\n" ++ ("Invalid " ++ what.name ++ ": ")

theorem lacks_invalidFront (what : Argument) : Lacks tagMarks (s.invalidFront what) := by
  have hline : Lacks tagMarks s.stateLine := by
    intro c hc
    apply s.lacks_stateLine
    revert c
    decide
  have hname : Lacks tagMarks ("Invalid " ++ what.name ++ ": ") := by
    cases what <;> decide
  have hbreak : Lacks tagMarks "\n" := by decide
  exact (hline.append hbreak).append hname

theorem hasTag_status (what : Argument) (word : String) :
    HasTag (s.notify (.invalid what word)).layout.status.text.toList ↔ HasTag word.toList := by
  have htext : (s.notify (.invalid what word)).layout.status.text =
      (s.notify (.invalid what word)).invalidFront what ++ word := by
    rw [invalidFront, String.append_assoc]
    rfl
  rw [htext, String.toList_append]
  apply hasTag_plain_append
  intro c hc hmark
  exact lacks_invalidFront _ what c hmark hc

theorem command_of_error (host : Host) (t : Trace) (line : String) (notice : Notice)
    (h : Command.parse line = .error notice) :
    (s.command host t line).2.session = s.notify notice := by
  rw [command, h]

/-- The panels show data as it is: the memory panel has a tag if and only if the characters of the
bytes in it have, and after a command line with an invalid argument the status panel has one if and
only if that argument has. -/
theorem markup_only_from_data :
    (HasTag s.layout.memory.text.toList ↔
      HasTag (s.machine.memory.shownText s.viewAddr memoryRows)) ∧
    ∀ (host : Host) (t : Trace) (line : String) (what : Argument) (word : String),
      Command.parse line = .error (.invalid what word) →
      (∃ v args, Asks line v args ∧ word ∈ args) ∧
      (HasTag (s.command host t line).2.session.layout.status.text.toList ↔
        HasTag word.toList) := by
  refine ⟨s.hasTag_memory, ?_⟩
  intro host t line what word h
  refine ⟨exists_word_of_invalid line what word h, ?_⟩
  rw [s.command_of_error host t line _ h]
  exact s.hasTag_status what word

def bracketed : Session where
  machine :=
    { surface := .standard, random := .zeros,
      memory := .holding [0x5B, 0x2F, 0x78, 0x5D] (by decide) }

/-- The word of this line has such a tag too. -/
theorem markup_only_from_data_closing :
    Command.parse "b [/x]" = .error (.invalid .address "[/x]") ∧
    (HasTag bracketed.layout.memory.text.toList ↔
      HasTag (bracketed.machine.memory.shownText bracketed.viewAddr memoryRows)) ∧
    (∃ v args, Asks "b [/x]" v args ∧ "[/x]" ∈ args) ∧
    (HasTag (bracketed.command frozenHost {} "b [/x]").2.session.layout.status.text.toList ↔
      HasTag "[/x]".toList) := by
  have hparse : Command.parse "b [/x]" = .error (.invalid .address "[/x]") := by decide +kernel
  obtain ⟨hmemory, hstatus⟩ := markup_only_from_data bracketed
  exact ⟨hparse, hmemory, hstatus frozenHost {} "b [/x]" .address "[/x]" hparse⟩

/-- The bytes of that program make a tag in the memory panel, and so does the word in the status
panel. -/
theorem data_read_as_markup :
    HasTag bracketed.layout.memory.text.toList ∧
    HasTag (bracketed.command frozenHost {} "b [/x]").2.session.layout.status.text.toList := by
  have hparse : Command.parse "b [/x]" = .error (.invalid .address "[/x]") := by decide +kernel
  constructor
  · rw [hasTag_memory]
    decide +kernel
  · rw [bracketed.command_of_error frozenHost {} _ _ hparse, hasTag_status]
    decide

end Session

end Debugger

end Chip8
