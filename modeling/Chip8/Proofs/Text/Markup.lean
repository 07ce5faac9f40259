import Chip8.Proofs.Text.Joined
import Mathlib.Data.List.Basic

namespace Chip8.Text

def opensTag (c : Char) : Bool := c.isLower || ['#', '/', '@'].contains c

def backslashes (cs : List Char) : Nat := (cs.reverse.takeWhile (· == '\\')).length

/-- A tag: an opening bracket, a character that makes a tag of it, any characters but another
opening bracket, and a closing bracket. A backslash before it escapes it, unless that backslash is
itself escaped by another. -/
def HasTag (cs : List Char) : Prop :=
  ∃ front c inner back, cs = front ++ '[' :: c :: (inner ++ ']' :: back) ∧
    backslashes front % 2 = 0 ∧ opensTag c = true ∧ '[' ∉ inner

/-- The last character is an opening bracket that is not escaped. -/
def EndsInBracket (cs : List Char) : Prop :=
  ∃ front, cs = front ++ ['['] ∧ backslashes front % 2 = 0

/-- A tag has begun that the next closing bracket ends. -/
def EndsInTag (cs : List Char) : Prop :=
  ∃ front c inner, cs = front ++ '[' :: c :: inner ∧
    backslashes front % 2 = 0 ∧ opensTag c = true ∧ '[' ∉ inner

theorem last_cases {cs front rest : List Char} {x c : Char} (h : cs ++ [x] = front ++ c :: rest) :
    (rest = [] ∧ cs = front ∧ x = c) ∨ ∃ more, rest = more ++ [x] ∧ cs = front ++ c :: more := by
  rcases List.eq_nil_or_concat' rest with rfl | ⟨more, y, rfl⟩
  · obtain ⟨hcs, hx⟩ := List.append_inj' h rfl
    exact Or.inl ⟨rfl, hcs, List.singleton_inj.mp hx⟩
  · rw [← List.cons_append, ← List.append_assoc] at h
    obtain ⟨hcs, hx⟩ := List.append_inj' h rfl
    exact Or.inr ⟨more, by rw [hx], hcs⟩

section

variable (cs : List Char) (x : Char)

theorem backslashes_append :
    backslashes (cs ++ [x]) = if x = '\\' then backslashes cs + 1 else 0 := by
  rw [backslashes, List.reverse_append, List.reverse_singleton, List.singleton_append,
    List.takeWhile_cons]
  by_cases hx : x = '\\'
  · rw [if_pos (beq_iff_eq.mpr hx), if_pos hx, List.length_cons]
    rfl
  · rw [if_neg (by rwa [beq_iff_eq]), if_neg hx]
    rfl

theorem endsInBracket_append :
    EndsInBracket (cs ++ [x]) ↔ x = '[' ∧ backslashes cs % 2 = 0 := by
  constructor
  · rintro ⟨front, heq, heven⟩
    obtain ⟨rfl, hx⟩ := List.append_inj' heq rfl
    exact ⟨List.singleton_inj.mp hx, heven⟩
  · rintro ⟨rfl, heven⟩
    exact ⟨cs, rfl, heven⟩

theorem endsInTag_append :
    EndsInTag (cs ++ [x]) ↔
      (EndsInTag cs ∧ x ≠ '[') ∨ (EndsInBracket cs ∧ opensTag x = true) := by
  constructor
  · rintro ⟨front, c, inner, heq, heven, hc, hinner⟩
    -- The last character makes the tag of the bracket before it, or stands further inside.
    have hlast := last_cases (heq.trans (List.append_cons front '[' _))
    rcases hlast with ⟨-, hcs, rfl⟩ | ⟨inner, rfl, hcs⟩
    · exact Or.inr ⟨⟨front, hcs, heven⟩, hc⟩
    · rw [List.mem_append, not_or, List.mem_singleton] at hinner
      rw [← List.append_cons] at hcs
      exact Or.inl ⟨⟨front, c, inner, hcs, heven, hc, hinner.1⟩, Ne.symm hinner.2⟩
  · rintro (⟨⟨front, c, inner, rfl, heven, hc, hinner⟩, hx⟩ | ⟨⟨front, rfl, heven⟩, hx⟩)
    · refine ⟨front, c, inner ++ [x], by simp, heven, hc, ?_⟩
      rw [List.mem_append, List.mem_singleton, not_or]
      exact ⟨hinner, Ne.symm hx⟩
    · exact ⟨front, x, [], by simp, heven, hx, List.not_mem_nil⟩

theorem hasTag_append :
    HasTag (cs ++ [x]) ↔ HasTag cs ∨ (EndsInTag cs ∧ x = ']') := by
  have hregroup (front inner back : List Char) (c : Char) :
      front ++ '[' :: c :: (inner ++ ']' :: back) =
        (front ++ '[' :: c :: inner) ++ ']' :: back := by simp
  constructor
  · rintro ⟨front, c, inner, back, heq, htag⟩
    rw [hregroup] at heq
    -- The tag ends with the last character, or it was there before that.
    rcases last_cases heq with ⟨-, hcs, hx⟩ | ⟨back, rfl, hcs⟩
    · exact Or.inr ⟨⟨front, c, inner, hcs, htag⟩, hx⟩
    · rw [← hregroup] at hcs
      exact Or.inl ⟨front, c, inner, back, hcs, htag⟩
  · rintro (⟨front, c, inner, back, rfl, htag⟩ | ⟨⟨front, c, inner, rfl, htag⟩, rfl⟩)
    · exact ⟨front, c, inner, back ++ [x], by simp, htag⟩
    · exact ⟨front, c, inner, [], by simp, htag⟩

end

/-- What of the characters so far bears on tags. -/
@[ext]
structure Scan where
  escaping : Bool := false
  bracket : Bool := false
  inside : Bool := false
  found : Bool := false

namespace Scan

def step (s : Scan) (c : Char) : Scan where
  escaping := c == '\\' && !s.escaping
  bracket := c == '[' && !s.escaping
  inside := (s.inside && c != '[') || (s.bracket && opensTag c)
  found := s.found || (s.inside && c == ']')

def run (s : Scan) (cs : List Char) : Scan := cs.foldl step s

theorem run_append (s : Scan) (cs cs' : List Char) :
    s.run (cs ++ cs') = (s.run cs).run cs' := List.foldl_append

/-- A scan knows of the characters what it has to. -/
structure Knows (s : Scan) (cs : List Char) : Prop where
  escaping : s.escaping = true ↔ backslashes cs % 2 = 1
  bracket : s.bracket = true ↔ EndsInBracket cs
  inside : s.inside = true ↔ EndsInTag cs
  found : s.found = true ↔ HasTag cs

variable {s : Scan} {cs : List Char}

theorem escaping_step (c : Char) :
    (s.step c).escaping = true ↔ c = '\\' ∧ ¬ s.escaping = true := by
  simp [step]

theorem bracket_step (c : Char) :
    (s.step c).bracket = true ↔ c = '[' ∧ ¬ s.escaping = true := by
  simp [step]

theorem inside_step (c : Char) :
    (s.step c).inside = true ↔
      (s.inside = true ∧ c ≠ '[') ∨ (s.bracket = true ∧ opensTag c = true) := by
  simp [step]

theorem found_step (c : Char) :
    (s.step c).found = true ↔ s.found = true ∨ (s.inside = true ∧ c = ']') := by
  simp [step]

theorem knows_nil : Knows {} [] where
  escaping := by decide
  bracket := by simp [EndsInBracket]
  inside := by simp [EndsInTag]
  found := by simp [HasTag]

theorem Knows.step (h : s.Knows cs) (c : Char) : (s.step c).Knows (cs ++ [c]) where
  escaping := by
    rw [escaping_step, h.escaping, backslashes_append]
    by_cases hc : c = '\\'
    · rw [if_pos hc, and_iff_right hc]
      omega
    · rw [if_neg hc]
      exact ⟨fun h => absurd h.1 hc, fun h => absurd h (by decide)⟩
  bracket := by
    rw [bracket_step, h.escaping, endsInBracket_append, Nat.mod_two_not_eq_one]
  inside := by rw [inside_step, h.inside, h.bracket, endsInTag_append]
  found := by rw [found_step, h.found, h.inside, hasTag_append]

theorem Knows.run (h : s.Knows cs) (more : List Char) : (s.run more).Knows (cs ++ more) := by
  induction more generalizing s cs with
  | nil => rwa [List.append_nil]
  | cons c more ih =>
    rw [List.append_cons]
    exact ih (h.step c)

end Scan

/-- Tags are found by a scan. -/
theorem hasTag_iff (cs : List Char) : HasTag cs ↔ (Scan.run {} cs).found = true :=
  (Scan.knows_nil.run cs).found.symm

instance (cs : List Char) : Decidable (HasTag cs) := decidable_of_iff _ (hasTag_iff cs).symm

/-- Of two brackets the first makes a tag; the second is escaped. -/
example : HasTag "[/x] \\[b]".toList ∧ ¬ HasTag "[X] \\[b] [/x".toList := by decide

def tagMarks : List Char := ['[', ']', '\\']

namespace Scan

/-- Neither a backslash nor a bracket at the end waits for what comes next. -/
structure Settled (s : Scan) : Prop where
  escaping : s.escaping = false
  bracket : s.bracket = false

variable {s : Scan} {cs : List Char}

theorem settled_step (c : Char) (hc : c ∉ tagMarks) : (s.step c).Settled := by
  rw [tagMarks, List.mem_cons, List.mem_cons, List.mem_singleton, not_or, not_or] at hc
  constructor
  · rw [← Bool.not_eq_true, escaping_step]
    exact fun h => hc.2.2 h.1
  · rw [← Bool.not_eq_true, bracket_step]
    exact fun h => hc.1 h.1

theorem Settled.step_eq (h : s.Settled) (c : Char) (hc : c ∉ tagMarks) : s.step c = s := by
  have hnext : (s.step c).Settled := settled_step c hc
  rw [tagMarks, List.mem_cons, List.mem_cons, List.mem_singleton, not_or, not_or] at hc
  apply Scan.ext
  · rw [hnext.escaping, h.escaping]
  · rw [hnext.bracket, h.bracket]
  · rw [Bool.eq_iff_iff, inside_step, h.bracket]
    simp [hc.1]
  · rw [Bool.eq_iff_iff, found_step]
    simp [hc.2.1]

theorem Settled.run_eq (h : s.Settled) (hcs : ∀ c ∈ cs, c ∉ tagMarks) : s.run cs = s := by
  induction cs with
  | nil => rfl
  | cons c cs ih =>
    have hrest := ih fun c hc => hcs c (List.mem_cons_of_mem _ hc)
    show (s.step c).run cs = s
    rw [h.step_eq c (hcs c List.mem_cons_self), hrest]

end Scan

/-- In a text that carries data the data alone decides on tags: to a scan that has settled the one
is like the other. -/
def Carries (cs data : List Char) : Prop :=
  ∀ s : Scan, s.Settled → s.run cs = s.run data ∧ (s.run data).Settled

theorem hasTag_plain_append (front cs : List Char) (h : ∀ c ∈ front, c ∉ tagMarks) :
    HasTag (front ++ cs) ↔ HasTag cs := by
  have hstart : Scan.Settled {} := ⟨rfl, rfl⟩
  rw [hasTag_iff, hasTag_iff, Scan.run_append, hstart.run_eq h]

namespace Carries

variable {cs cs' data data' : List Char}

theorem plain (h : ∀ c ∈ cs, c ∉ tagMarks) : Carries cs [] :=
  fun _ hs => ⟨hs.run_eq h, hs⟩

theorem ended (data : List Char) (c : Char) (hc : c ∉ tagMarks) :
    Carries (data ++ [c]) (data ++ [c]) := by
  intro s _
  refine ⟨rfl, ?_⟩
  rw [Scan.run_append]
  exact Scan.settled_step c hc

theorem append (h : Carries cs data) (h' : Carries cs' data') :
    Carries (cs ++ cs') (data ++ data') := by
  intro s hs
  obtain ⟨heq, hsettled⟩ := h s hs
  rw [Scan.run_append, Scan.run_append, heq]
  exact h' _ hsettled

theorem intercalate {α : Type} {gap : List Char} {items : List α} {write value : α → List Char}
    (hgap : ∀ c ∈ gap, c ∉ tagMarks) (h : ∀ a ∈ items, Carries (write a) (value a)) :
    Carries (gap.intercalate (items.map write)) (items.flatMap value) := by
  have hnil : Carries [] [] := plain fun c hc => absurd hc List.not_mem_nil
  rw [List.flatMap_def, ← nil_intercalate]
  exact rel_intercalate hnil append (plain hgap) h

theorem hasTag_iff (h : Carries cs data) : HasTag cs ↔ HasTag data := by
  rw [Text.hasTag_iff, Text.hasTag_iff, (h {} ⟨rfl, rfl⟩).1]

end Carries

end Chip8.Text
