import Chip8.Proofs.Debugger.Reading
import Chip8.Proofs.Debugger.Stops
import Chip8.Proofs.Debugger.Turns
import Chip8.Proofs.Text.Spelling
import Mathlib.Data.List.TakeDrop
import Mathlib.Data.List.TakeWhile

namespace Chip8.Debugger

/-- The line sets or removes a breakpoint at the address, of which only the low sixteen bits count. -/
def toggles (addr : Int) (line : String) : Bool :=
  match Text.words line with
  | [] => false
  | word :: args =>
    decide (Text.lower word ∈ Verb.breakpoint.names) &&
      (argument? .hexadecimal args).any fun n => n % 65536 = addr % 65536

theorem toggles_iff (addr : Int) (line : String) :
    toggles addr line = true ↔ ∃ args n, Asks line .breakpoint args ∧
      argument? .hexadecimal args = some n ∧ n % 65536 = addr % 65536 := by
  unfold toggles Asks
  cases Text.words line with
  | nil => simp
  | cons word args => simp [Option.any_eq_true]

@[simp] theorem toggles_emod (addr : Int) (line : String) :
    toggles (addr % 65536) line = toggles addr line := by
  simp only [toggles, Int.emod_emod]

theorem toggles_spelling (line : String) (sp : Text.Spelling) (more : List String)
    (h : Asks line .breakpoint (sp.text :: more)) (addr : Int) :
    toggles addr line = true ↔ addr % 65536 = sp.address := by
  obtain ⟨word, hwords, hmem⟩ := h
  simp only [toggles, hwords, hmem, argument?, List.head?_cons, Option.bind_some, sp.integer?_text,
    Option.any_some, decide_true, Bool.true_and, decide_eq_true_eq, sp.value_emod]
  exact eq_comm

/-- The number of lines by which a breakpoint at the address is set or removed. -/
def toggleCount (addr : Int) (lines : List String) : Nat := lines.countP (toggles addr)

theorem parse_breakpoint_iff (line : String) (addr : Int) :
    Command.parse line = .ok (.breakpoint addr) ↔
      (0 ≤ addr ∧ addr ≤ 0xFFFF) ∧ toggles addr line = true := by
  rw [toggles_iff]
  constructor
  · intro h
    obtain ⟨args, hasks, hread⟩ := asks_of_parse line _ h (by simp)
    obtain ⟨a, ha, heq⟩ := exists_of_map_ok _ _ _ hread
    cases heq
    cases hn : argument? .hexadecimal args with
    | none =>
      obtain ⟨notice, he⟩ := address_of_none args "b <hex_address>" hn
      rw [ha] at he
      cases he
    | some n =>
      rw [address_of_argument args _ n hn, Except.ok.injEq] at ha
      exact ⟨by omega, args, n, hasks, hn, by omega⟩
  · rintro ⟨hrange, args, n, hasks, hn, heq⟩
    have haddr : n % 65536 = addr := by omega
    rw [parse_of_asks line _ args hasks, Verb.read_breakpoint args n hn, haddr]

theorem pairwise_lt_insert (l : List Int) (h : l.Pairwise (· < ·)) (n : Int) (hn : n ∉ l) :
    (l.takeWhile (· < n) ++ n :: l.dropWhile (· < n)).Pairwise (· < ·) := by
  rw [← List.takeWhile_append_dropWhile (p := (· < n)) (l := l)] at h hn
  obtain ⟨hbelow, habove, hcross⟩ := List.pairwise_append.mp h
  have hlt : ∀ a ∈ l.takeWhile (· < n), a < n := by
    intro a ha
    simpa using List.mem_takeWhile_imp ha
  have hgt : ∀ b ∈ l.dropWhile (· < n), n < b := by
    intro b hb
    -- The first that is not smaller is greater, since the number itself is not there.
    cases hd : l.dropWhile (· < n) with
    | nil => simp [hd] at hb
    | cons c rest =>
      have hsome : l.dropWhile (· < n) ≠ [] := hd ▸ List.cons_ne_nil c rest
      have hc : ¬c < n := by simpa [hd] using List.head_dropWhile_not _ hsome
      rw [hd] at hb habove hn
      have hne : c ≠ n := fun heq => hn (by simp [heq])
      rcases List.mem_cons.mp hb with rfl | hb
      · omega
      · have := List.rel_of_pairwise_cons habove hb
        omega
  refine List.pairwise_append.mpr ⟨hbelow, List.pairwise_cons.mpr ⟨hgt, habove⟩, ?_⟩
  intro a ha b hb
  rcases List.mem_cons.mp hb with rfl | hb
  · exact hlt a ha
  · exact hcross a ha b hb

namespace Session

/-- The breakpoints are in order, each of them once. -/
def Ascending (s : Session) : Prop := s.breakpoints.Pairwise (· < ·)

theorem toggleBreakpoint_ascending (s : Session) (h : s.Ascending) (addr : Int) :
    (s.toggleBreakpoint addr).Ascending ∧
      ∀ a, a ∈ (s.toggleBreakpoint addr).breakpoints ↔ (a ∈ s.breakpoints ↔ a ≠ addr) := by
  unfold toggleBreakpoint Ascending at *
  by_cases hc : s.breakpoints.contains addr
  · rw [if_pos hc]
    have hmem : addr ∈ s.breakpoints := List.contains_iff_mem.mp hc
    have hnodup : s.breakpoints.Nodup := h.imp fun hlt => Int.ne_of_lt hlt
    refine ⟨h.sublist List.erase_sublist, ?_⟩
    intro a
    rw [hnodup.mem_erase_iff]
    by_cases ha : a = addr
    · simp [ha, hmem]
    · simp [ha]
  · rw [if_neg hc]
    have hmem : addr ∉ s.breakpoints := fun hm => hc (List.contains_iff_mem.mpr hm)
    simp only [List.span_eq_takeWhile_dropWhile]
    refine ⟨pairwise_lt_insert _ h addr hmem, ?_⟩
    intro a
    rw [List.mem_append, List.mem_cons, or_left_comm, ← List.mem_append,
      List.takeWhile_append_dropWhile]
    by_cases ha : a = addr
    · simp [ha, hmem]
    · simp [ha]

theorem AdvancesTo.breakpoints {s s' : Session} (h : s.AdvancesTo s') :
    s'.breakpoints = s.breakpoints := by
  obtain ⟨n, ha⟩ := h
  rw [ha.breakpoints]
  exact (advances_breakpoints_before s n).1

theorem leg_breakpoints (s : Session) (l : Leg) : (s.leg l).breakpoints = s.breakpoints := by
  obtain ⟨hz, h, -⟩ := leg_advancesTo s l
  exact h.breakpoints

theorem obey_breakpoints (s : Session) (host : Host) (t : Trace) (c : Command)
    (h : ∀ addr, c ≠ .breakpoint addr) :
    (s.obey host t c).session.breakpoints = s.breakpoints := by
  cases c with
  | step => exact leg_breakpoints s .step
  | resume => exact leg_breakpoints s (.resume resumeLimit)
  | run hz limit =>
    have hleg := leg_breakpoints s (.run host t hz (limit.map Int.ofNat))
    simpa [leg, obey, Function.comp_def] using hleg
  | breakpoint addr => exact absurd rfl (h addr)
  | _ => rfl

theorem command_breakpoints_cases (s : Session) (host : Host) (t : Trace) (line : String) :
    (∃ addr, Command.parse line = .ok (.breakpoint addr) ∧
      (s.command host t line).2.session = s.toggleBreakpoint addr) ∨
    (∀ addr, Command.parse line ≠ .ok (.breakpoint addr)) ∧
      (s.command host t line).2.session.breakpoints = s.breakpoints := by
  unfold command
  cases Command.parse line with
  | error notice => exact Or.inr ⟨by simp, rfl⟩
  | ok c =>
    by_cases hc : ∃ addr, c = .breakpoint addr
    · obtain ⟨addr, rfl⟩ := hc
      exact Or.inl ⟨addr, rfl, rfl⟩
    · have hne (addr : Int) : c ≠ .breakpoint addr := fun heq => hc ⟨addr, heq⟩
      exact Or.inr ⟨by simpa using hne, obey_breakpoints s host t c hne⟩

theorem command_ascending (s : Session) (h : s.Ascending) (host : Host) (t : Trace)
    (line : String) : (s.command host t line).2.session.Ascending := by
  rcases command_breakpoints_cases s host t line with ⟨addr, -, hs⟩ | ⟨-, hb⟩
  · rw [hs]
    exact (toggleBreakpoint_ascending s h addr).1
  · rw [Ascending, hb]
    exact h

/-- A line that toggles nothing leaves the breakpoints as they are. -/
theorem command_breakpoints_of_toggles_none (s : Session) (host : Host) (t : Trace) (line : String)
    (h : ∀ a, 0 ≤ a → a ≤ 0xFFFF → toggles a line = false) :
    (s.command host t line).2.session.breakpoints = s.breakpoints := by
  rcases command_breakpoints_cases s host t line with ⟨addr, hp, -⟩ | ⟨-, hb⟩
  · obtain ⟨⟨h0, h1⟩, ht⟩ := (parse_breakpoint_iff line addr).mp hp
    rw [h addr h0 h1] at ht
    cases ht
  · exact hb

theorem mem_command_breakpoints (s : Session) (h : s.Ascending) (host : Host) (t : Trace)
    (line : String) (a : Int) :
    a ∈ (s.command host t line).2.session.breakpoints ↔
      (a ∈ s.breakpoints ↔ ¬((0 ≤ a ∧ a ≤ 0xFFFF) ∧ toggles a line = true)) := by
  rw [← parse_breakpoint_iff]
  rcases command_breakpoints_cases s host t line with ⟨addr, hp, hs⟩ | ⟨hne, hb⟩
  · rw [hs, hp, Except.ok.injEq, Command.breakpoint.injEq, eq_comm (a := addr)]
    exact (toggleBreakpoint_ascending s h addr).2 a
  · rw [hb]
    simp [hne a]

theorem afterLines_cons (host : Host) (line : String) (lines : List String) (s : Session)
    (t : Trace) : afterLines host (line :: lines) s t =
      afterLines host lines (s.command host t line).2.session (s.command host t line).2.trace :=
  rfl

theorem afterLines_ascending (host : Host) (lines : List String) (s : Session) (h : s.Ascending)
    (t : Trace) : (afterLines host lines s t).Ascending := by
  induction lines generalizing s t with
  | nil => exact h
  | cons line lines ih => exact ih _ (command_ascending s h host t line) _

theorem mem_afterLines_breakpoints (host : Host) (lines : List String) (s : Session)
    (h : s.Ascending) (t : Trace) (a : Int) :
    a ∈ (afterLines host lines s t).breakpoints ↔
      (a ∈ s.breakpoints ↔ ¬((0 ≤ a ∧ a ≤ 0xFFFF) ∧ toggleCount a lines % 2 = 1)) := by
  induction lines generalizing s t with
  | nil => simp [afterLines, obeyLines, toggleCount]
  | cons line lines ih =>
    have hodd (n : Nat) : (n + 1) % 2 = 1 ↔ ¬n % 2 = 1 := by omega
    rw [afterLines_cons, ih _ (command_ascending s h host t line),
      mem_command_breakpoints s h host t line a, toggleCount, toggleCount, List.countP_cons]
    cases toggles a line with
    | false => simp
    | true =>
      rw [if_pos rfl, hodd]
      by_cases hr : 0 ≤ a ∧ a ≤ 0xFFFF
      · by_cases ha : a ∈ s.breakpoints <;> simp [hr, ha]
      · simp [hr]

theorem command_eq_of_toggles (s : Session) (host : Host) (t : Trace) (line line' : String) (a : Int)
    (h : toggles a line = true) (h' : toggles a line' = true) :
    s.command host t line = s.command host t line' := by
  have hparse (line : String) (h : toggles a line = true) :
      Command.parse line = .ok (.breakpoint (a % 65536)) := by
    rw [parse_breakpoint_iff, toggles_emod]
    exact ⟨by omega, h⟩
  simp only [command, hparse line h, hparse line' h']

/-- A session that starts without breakpoints has one at an address just if an odd number of its lines
has toggled it. How the address is written in them does not matter, nor what comes after it, and
neither another line nor the program as it runs, halts or fails changes the breakpoints. -/
theorem breakpoints_by_parity (s : Session) (hs : s.breakpoints = []) (host : Host) (t : Trace)
    (lines : List String) :
    ((afterLines host lines s t).Ascending ∧
      ∀ a, a ∈ (afterLines host lines s t).breakpoints ↔
        (0 ≤ a ∧ a ≤ 0xFFFF) ∧ toggleCount a lines % 2 = 1) ∧
    (∀ line (sp : Text.Spelling) more, Asks line .breakpoint (sp.text :: more) →
      ∀ a, toggles a line = true ↔ a % 65536 = sp.address) ∧
    (∀ (s : Session) line line' a, toggles a line = true → toggles a line' = true →
      s.command host t line = s.command host t line') ∧
    (∀ (s : Session) line, (∀ a, 0 ≤ a → a ≤ 0xFFFF → toggles a line = false) →
      (s.command host t line).2.session.breakpoints = s.breakpoints) ∧
    ∀ (s : Session) (l : Leg), (s.leg l).breakpoints = s.breakpoints := by
  have hascending : s.Ascending := by rw [Ascending, hs]; exact .nil
  refine ⟨⟨afterLines_ascending host lines s hascending t, ?_⟩, toggles_spelling, ?_, ?_,
    leg_breakpoints⟩
  · intro a
    rw [mem_afterLines_breakpoints host lines s hascending t a, hs]
    simp [and_assoc]
  · exact fun s => command_eq_of_toggles s host t
  · exact fun s => command_breakpoints_of_toggles_none s host t

def spinning : Session where
  machine :=
    { surface := .standard, random := .zeros,
      memory := .holding [0x12, 0x00] (by decide) }

/-- Three lines toggle the address 0x200, each in its own way, one toggles 0x300, and the others none. -/
def mixedLines : List String :=
  ["b 0X2_00", "B +10200 here", "s", "b", "BreakPoint -fe00", "g 300", "b 300", "b 0x_", "step"]

theorem breakpoints_by_parity_mixed :
    spinning.breakpoints = [] ∧
    (∀ a, a ∈ (afterLines frozenHost mixedLines spinning {}).breakpoints ↔
      (0 ≤ a ∧ a ≤ 0xFFFF) ∧ toggleCount a mixedLines % 2 = 1) ∧
    toggleCount 0x200 mixedLines = 3 ∧ toggleCount 0x300 mixedLines = 1 ∧
      (afterLines frozenHost mixedLines spinning {}).breakpoints = [0x200, 0x300] := by
  have hfirst : toggleCount 0x200 mixedLines = 3 := by decide +kernel
  have hsecond : toggleCount 0x300 mixedLines = 1 := by decide +kernel
  have hset : (afterLines frozenHost mixedLines spinning {}).breakpoints = [0x200, 0x300] := by
    decide +kernel
  have hparity := breakpoints_by_parity spinning rfl frozenHost {} mixedLines
  exact ⟨rfl, hparity.1.2, hfirst, hsecond, hset⟩

end Session

end Chip8.Debugger
