import Chip8.Proofs.Text.Joined
import Chip8.Surface.Display
import Chip8.Surface.Picture

namespace Chip8

namespace Picture

variable (pixel : Int → Int → Bool) (width height : Nat)

def rows : List (List Bool) :=
  (List.range height).map fun (y : Nat) => (List.range width).map fun (x : Nat) => pixel x y

def ofHalfBlock? : Char → Option (Bool × Bool)
  | ' ' => some (false, false)
  | '▀' => some (true, false)
  | '▄' => some (false, true)
  | '█' => some (true, true)
  | _ => none

def ofAsciiDot? : Char → Option Bool
  | '#' => some true
  | '.' => some false
  | _ => none

def ofHalfBlocks? (text : String) : Option (List (List Bool)) :=
  ((Text.lines text).mapM fun line : String => line.toList.mapM ofHalfBlock?).map fun lines =>
    lines.flatMap fun cells => [cells.map Prod.fst, cells.map Prod.snd]

def ofAscii? (text : String) : Option (List (List Bool)) :=
  (Text.lines text).mapM fun line : String => line.toList.mapM ofAsciiDot?

theorem ofHalfBlock?_halfBlock (top bottom : Bool) :
    ofHalfBlock? (halfBlock top bottom) = some (top, bottom) := by
  cases top <;> cases bottom <;> rfl

theorem ofAsciiDot?_asciiDot (lit : Bool) : ofAsciiDot? (asciiDot lit) = some lit := by
  cases lit <;> rfl

theorem halfBlock_ne_break (top bottom : Bool) : '\n' ≠ halfBlock top bottom := by
  cases top <;> cases bottom <;> decide

theorem asciiDot_ne_break (lit : Bool) : '\n' ≠ asciiDot lit := by
  cases lit <;> decide

theorem length_rows : (rows pixel width height).length = height := by
  rw [rows, List.length_map, List.length_range]

theorem length_of_mem_rows (row : List Bool) (h : row ∈ rows pixel width height) :
    row.length = width := by
  obtain ⟨y, -, rfl⟩ := List.mem_map.mp h
  rw [List.length_map, List.length_range]

theorem take_rows (n : Nat) (h : n ≤ height) :
    (rows pixel width height).take n = rows pixel width n := by
  rw [rows, ← List.map_take, List.take_range, Nat.min_eq_left h, rows]

def drawn (char : Nat → Nat → Char) (width count : Nat) : List String :=
  (List.range count).map fun r => String.ofList ((List.range width).map (char r))

section

variable (char : Nat → Nat → Char) (count : Nat)

theorem length_drawn : (drawn char width count).length = count := by
  rw [drawn, List.length_map, List.length_range]

theorem length_of_mem_drawn (line : String) (h : line ∈ drawn char width count) :
    line.length = width := by
  obtain ⟨r, -, rfl⟩ := List.mem_map.mp h
  rw [String.length_ofList, List.length_map, List.length_range]

theorem lines_drawn (hcount : 1 ≤ count) (hbreak : ∀ r x, '\n' ≠ char r x) :
    Text.lines ("\n".intercalate (drawn char width count)) = drawn char width count := by
  apply Text.lines_intercalate
  · rw [drawn, ne_eq, List.map_eq_nil_iff, List.range_eq_nil]
    omega
  · intro line hline
    obtain ⟨r, -, rfl⟩ := List.mem_map.mp hline
    rw [String.toList_ofList]
    intro hmem
    obtain ⟨x, -, hx⟩ := List.mem_map.mp hmem
    exact hbreak r x hx.symm

theorem mapM_drawn {α : Type} (read : Char → Option α) (value : Nat → Nat → α)
    (h : ∀ r x, r < count → read (char r x) = some (value r x)) :
    ((drawn char width count).mapM fun line : String => line.toList.mapM read) =
      some ((List.range count).map fun r => (List.range width).map (value r)) := by
  apply mapM_map_of_forall
  intro r hr
  rw [String.toList_ofList]
  apply mapM_map_of_forall
  intro x _
  exact h r x (List.mem_range.mp hr)

theorem drawn_congr (char' : Nat → Nat → Char)
    (h : ∀ r x, r < count → x < width → char r x = char' r x) :
    drawn char width count = drawn char' width count := by
  apply List.map_congr_left
  intro r hr
  rw [List.map_congr_left fun x hx => h r x (List.mem_range.mp hr) (List.mem_range.mp hx)]

end

theorem asciiLines_eq_drawn :
    asciiLines pixel width height = drawn (fun y x => asciiDot (pixel x y)) width height := rfl

theorem halfBlockLines_eq_drawn :
    halfBlockLines pixel width height =
      drawn (fun r x => halfBlock (pixel x (2 * r : Nat)) (below pixel height x (2 * r))) width
        ((height + 1) / 2) := rfl

theorem lines_asciiLines (hh : 1 ≤ height) :
    Text.lines ("\n".intercalate (asciiLines pixel width height)) =
      asciiLines pixel width height := by
  rw [asciiLines_eq_drawn]
  exact lines_drawn _ _ _ hh fun _ _ => asciiDot_ne_break _

theorem lines_halfBlockLines (hh : 1 ≤ height) :
    Text.lines ("\n".intercalate (halfBlockLines pixel width height)) =
      halfBlockLines pixel width height := by
  rw [halfBlockLines_eq_drawn]
  exact lines_drawn _ _ _ (by omega) fun _ _ => halfBlock_ne_break _ _

theorem ofAscii?_asciiLines (hh : 1 ≤ height) :
    ofAscii? ("\n".intercalate (asciiLines pixel width height)) =
      some (rows pixel width height) := by
  rw [ofAscii?, lines_asciiLines pixel width height hh, asciiLines_eq_drawn, rows]
  exact mapM_drawn _ _ _ ofAsciiDot? _ fun _ _ _ => ofAsciiDot?_asciiDot _

theorem flatMap_pairs {α : Type} (row : Nat → α) (n : Nat) :
    ((List.range n).flatMap fun r => [row (2 * r), row (2 * r + 1)]) =
      (List.range (2 * n)).map row := by
  induction n with
  | zero => rfl
  | succ n ih =>
    have hdouble : 2 * (n + 1) = 2 * n + 1 + 1 := by omega
    rw [List.range_succ, List.flatMap_append, ih, hdouble, List.range_succ, List.range_succ]
    simp

def shown (x y : Int) : Bool := decide (y < height) && pixel x y

/-- On the last line there may be a row too many, which is dark. -/
theorem rows_shown :
    rows (shown pixel height) width (2 * ((height + 1) / 2)) =
      rows pixel width height ++ List.replicate (height % 2) (List.replicate width false) := by
  have hupper : rows (shown pixel height) width height = rows pixel width height := by
    apply List.map_congr_left
    intro y hy
    apply List.map_congr_left
    intro x _
    have hlt := List.mem_range.mp hy
    rw [shown, decide_eq_true (by omega), Bool.true_and]
  rcases Nat.mod_two_eq_zero_or_one height with heven | hodd
  · have hcount : 2 * ((height + 1) / 2) = height := by omega
    rw [hcount, hupper, heven, List.replicate_zero, List.append_nil]
  · have hcount : 2 * ((height + 1) / 2) = height + 1 := by omega
    have hlower : (List.range width).map (fun x : Nat => shown pixel height x height) =
        List.replicate width false := by
      rw [List.eq_replicate_iff]
      refine ⟨by rw [List.length_map, List.length_range], ?_⟩
      intro lit hlit
      obtain ⟨x, -, rfl⟩ := List.mem_map.mp hlit
      rw [shown, decide_eq_false (by omega), Bool.false_and]
    rw [hcount, ← hupper, hodd, rows, rows, List.range_succ, List.map_append, List.map_singleton,
      hlower, List.replicate_one]

theorem below_eq_shown (x y : Nat) :
    below pixel height x y = shown pixel height x (y + 1 : Nat) := by
  have hlt : decide (y + 1 < height) = decide (((y + 1 : Nat) : Int) < height) :=
    decide_eq_decide.mpr (by omega)
  rw [below, shown, hlt]

theorem mapM_halfBlockLines :
    ((halfBlockLines pixel width height).mapM fun line : String => line.toList.mapM ofHalfBlock?) =
      some ((List.range ((height + 1) / 2)).map fun r => (List.range width).map fun (x : Nat) =>
        (shown pixel height x (2 * r : Nat), shown pixel height x (2 * r + 1 : Nat))) := by
  rw [halfBlockLines_eq_drawn]
  apply mapM_drawn
  intro r x hr
  have hupper : pixel x (2 * r : Nat) = shown pixel height x (2 * r : Nat) := by
    rw [shown, decide_eq_true (by omega), Bool.true_and]
  rw [ofHalfBlock?_halfBlock, below_eq_shown, hupper]

theorem ofHalfBlocks?_halfBlockLines (hh : 1 ≤ height) :
    ofHalfBlocks? ("\n".intercalate (halfBlockLines pixel width height)) =
      some (rows pixel width height ++
        List.replicate (height % 2) (List.replicate width false)) := by
  have hpairs := flatMap_pairs (fun y : Nat => (List.range width).map fun (x : Nat) =>
    shown pixel height x y) ((height + 1) / 2)
  rw [ofHalfBlocks?, lines_halfBlockLines pixel width height hh, mapM_halfBlockLines,
    Option.map_some, List.flatMap_map, ← rows_shown, rows, ← hpairs]
  simp only [List.map_map, Function.comp_def]

def SameOn (pixel pixel' : Int → Int → Bool) (width height : Nat) : Prop :=
  ∀ x y : Int, (0 ≤ x ∧ x < width) → (0 ≤ y ∧ y < height) → pixel x y = pixel' x y

theorem rows_eq_iff (pixel' : Int → Int → Bool) :
    rows pixel width height = rows pixel' width height ↔ SameOn pixel pixel' width height := by
  rw [rows, rows, List.map_inj_left]
  constructor
  · intro h x y hx hy
    have hrow := h y.toNat (List.mem_range.mpr (by omega))
    have hcell := List.map_inj_left.mp hrow x.toNat (List.mem_range.mpr (by omega))
    rwa [Int.toNat_of_nonneg hx.1, Int.toNat_of_nonneg hy.1] at hcell
  · intro h y hy
    apply List.map_congr_left
    intro x hx
    have hx' := List.mem_range.mp hx
    have hy' := List.mem_range.mp hy
    exact h x y ⟨by omega, by omega⟩ ⟨by omega, by omega⟩

theorem asciiLines_congr (pixel' : Int → Int → Bool) (h : SameOn pixel pixel' width height) :
    asciiLines pixel width height = asciiLines pixel' width height := by
  rw [asciiLines_eq_drawn, asciiLines_eq_drawn]
  apply drawn_congr
  intro y x hy hx
  rw [h x y ⟨by omega, by omega⟩ ⟨by omega, by omega⟩]

theorem halfBlockLines_congr (pixel' : Int → Int → Bool)
    (h : SameOn pixel pixel' width height) :
    halfBlockLines pixel width height = halfBlockLines pixel' width height := by
  have hshown (x y : Nat) (hx : x < width) : shown pixel height x y = shown pixel' height x y := by
    unfold shown
    by_cases hy : (y : Int) < height
    · rw [h x y ⟨by omega, by omega⟩ ⟨by omega, hy⟩]
    · rw [decide_eq_false hy, Bool.false_and, Bool.false_and]
  rw [halfBlockLines_eq_drawn, halfBlockLines_eq_drawn]
  apply drawn_congr
  intro r x hr hx
  rw [below_eq_shown, below_eq_shown, hshown x _ hx,
    h x (2 * r : Nat) ⟨by omega, by omega⟩ ⟨by omega, by omega⟩]

/-- If the rows do not come out even, the last line has no lower pixels. -/
theorem last_halfBlockLine (hodd : height % 2 = 1) (line : String)
    (hline : (halfBlockLines pixel width height).getLast? = some line) (c : Char)
    (hc : c ∈ line.toList) : c = ' ' ∨ c = '▀' := by
  have hne : (height + 1) / 2 ≠ 0 := by omega
  rw [halfBlockLines, List.getLast?_map, List.getLast?_range, if_neg hne, Option.map_some,
    Option.some.injEq] at hline
  rw [← hline, halfBlockLine, String.toList_ofList] at hc
  obtain ⟨x, -, rfl⟩ := List.mem_map.mp hc
  have hbelow : below pixel height x (2 * ((height + 1) / 2 - 1)) = false := by
    rw [below, decide_eq_false (by omega), Bool.false_and]
  rw [hbelow]
  cases pixel x (2 * ((height + 1) / 2 - 1) : Nat) with
  | false => exact Or.inl rfl
  | true => exact Or.inr rfl

theorem eq_of_rows_eq (pixel' : Int → Int → Bool) (width' height' : Nat) (hh : 1 ≤ height)
    (h : rows pixel width height = rows pixel' width' height') :
    width = width' ∧ height = height' ∧ SameOn pixel pixel' width height := by
  have hheight := congrArg List.length h
  rw [length_rows, length_rows] at hheight
  obtain ⟨row, hrow⟩ : ∃ row, row ∈ rows pixel width height :=
    List.exists_mem_of_length_pos (by rwa [length_rows])
  have hwidth := length_of_mem_rows pixel width height row hrow
  have hwidth' := length_of_mem_rows pixel' width' height' row (h ▸ hrow)
  obtain rfl : width = width' := hwidth.symm.trans hwidth'
  subst hheight
  exact ⟨rfl, rfl, (rows_eq_iff pixel width height pixel').mp h⟩

/-- With a dark row added where they do not come out even, they tell it but for that row. -/
theorem eq_of_padded_rows_eq (pixel' : Int → Int → Bool) (width' height' : Nat) (hh : 1 ≤ height)
    (hh' : 1 ≤ height')
    (h : rows pixel width height ++ List.replicate (height % 2) (List.replicate width false) =
      rows pixel' width' height' ++
        List.replicate (height' % 2) (List.replicate width' false)) :
    width = width' ∧ (height + 1) / 2 = (height' + 1) / 2 ∧
      SameOn pixel pixel' width (min height height') := by
  have hlength := congrArg List.length h
  simp only [List.length_append, length_rows, List.length_replicate] at hlength
  have hcommon := congrArg (List.take (min height height')) h
  have hle : min height height' ≤ (rows pixel width height).length := by
    rw [length_rows]
    exact Nat.min_le_left _ _
  have hle' : min height height' ≤ (rows pixel' width' height').length := by
    rw [length_rows]
    exact Nat.min_le_right _ _
  rw [List.take_append_of_le_length hle, List.take_append_of_le_length hle',
    take_rows _ _ _ _ (Nat.min_le_left _ _), take_rows _ _ _ _ (Nat.min_le_right _ _)] at hcommon
  have hsame := eq_of_rows_eq pixel width _ pixel' width' _ (by omega) hcommon
  exact ⟨hsame.1, by omega, hsame.2.2⟩

end Picture

namespace Surface

open Picture

variable {σ τ : Type} [Surface σ] [Surface τ]

theorem halfBlocks_eq (s : σ) (width height : Nat) :
    halfBlocks s width height = "\n".intercalate (halfBlockLines (pixel s) width height) := rfl

theorem ascii_eq (s : σ) (width height : Nat) :
    ascii s width height = "\n".intercalate (asciiLines (pixel s) width height) := rfl

/-- From both pictures of a screen its rows of pixels can be read. The one has two rows on each
line; if they do not come out even, there are no lower pixels on its last. -/
structure Lossless (s : σ) (width height : Nat) : Prop where
  blockLines : (Text.lines (halfBlocks s width height)).length = (height + 1) / 2
  blockWidth : ∀ line ∈ Text.lines (halfBlocks s width height), line.length = width
  blockPixels : ofHalfBlocks? (halfBlocks s width height) =
    some (rows (pixel s) width height ++
      List.replicate (height % 2) (List.replicate width false))
  lastLine : height % 2 = 1 →
    ∀ line, (Text.lines (halfBlocks s width height)).getLast? = some line →
      ∀ c ∈ line.toList, c = ' ' ∨ c = '▀'
  dotLines : (Text.lines (ascii s width height)).length = height
  dotWidth : ∀ line ∈ Text.lines (ascii s width height), line.length = width
  dotPixels : ofAscii? (ascii s width height) = some (rows (pixel s) width height)

/-- Screens of one size are alike if and only if their pictures are, of either kind, so that each
picture determines the other. Pictures of screens of different sizes are different, but for a last
row of dark pixels that may share its line with the row above. -/
structure ToldApart (s : σ) (s' : τ) (width height : Nat) : Prop where
  blocks_iff : halfBlocks s width height = halfBlocks s' width height ↔
    SameOn (pixel s) (pixel s') width height
  dots_iff : ascii s width height = ascii s' width height ↔
    SameOn (pixel s) (pixel s') width height
  pictures_iff : halfBlocks s width height = halfBlocks s' width height ↔
    ascii s width height = ascii s' width height
  blocksSize : ∀ width' height' : Nat, 1 ≤ height' →
    halfBlocks s width height = halfBlocks s' width' height' →
    width = width' ∧ (height + 1) / 2 = (height' + 1) / 2 ∧
      SameOn (pixel s) (pixel s') width (min height height')
  dotsSize : ∀ width' height' : Nat, 1 ≤ height' →
    ascii s width height = ascii s' width' height' →
    width = width' ∧ height = height' ∧ SameOn (pixel s) (pixel s') width height

theorem lossless (s : σ) (width height : Nat) (hh : 1 ≤ height) : Lossless s width height where
  blockLines := by
    rw [halfBlocks_eq, lines_halfBlockLines _ _ _ hh, halfBlockLines_eq_drawn, length_drawn]
  blockWidth := by
    rw [halfBlocks_eq, lines_halfBlockLines _ _ _ hh]
    exact length_of_mem_drawn _ _ _
  blockPixels := ofHalfBlocks?_halfBlockLines _ _ _ hh
  lastLine hodd := by
    rw [halfBlocks_eq, lines_halfBlockLines _ _ _ hh]
    exact last_halfBlockLine _ _ _ hodd
  dotLines := by rw [ascii_eq, lines_asciiLines _ _ _ hh, asciiLines_eq_drawn, length_drawn]
  dotWidth := by
    rw [ascii_eq, lines_asciiLines _ _ _ hh]
    exact length_of_mem_drawn _ _ _
  dotPixels := ofAscii?_asciiLines _ _ _ hh

theorem toldApart (s : σ) (s' : τ) (width height : Nat) (hh : 1 ≤ height) :
    ToldApart s s' width height := by
  have hblocks (width' height' : Nat) (hh' : 1 ≤ height')
      (h : halfBlocks s width height = halfBlocks s' width' height') :
      width = width' ∧ (height + 1) / 2 = (height' + 1) / 2 ∧
        SameOn (pixel s) (pixel s') width (min height height') := by
    have hrows := congrArg ofHalfBlocks? h
    rw [(lossless s width height hh).blockPixels, (lossless s' width' height' hh').blockPixels,
      Option.some.injEq] at hrows
    exact eq_of_padded_rows_eq _ _ _ _ _ _ hh hh' hrows
  have hdots (width' height' : Nat) (hh' : 1 ≤ height')
      (h : ascii s width height = ascii s' width' height') :
      width = width' ∧ height = height' ∧ SameOn (pixel s) (pixel s') width height := by
    have hrows := congrArg ofAscii? h
    rw [(lossless s width height hh).dotPixels, (lossless s' width' height' hh').dotPixels,
      Option.some.injEq] at hrows
    exact eq_of_rows_eq _ _ _ _ _ _ hh hrows
  have hblocks_iff : halfBlocks s width height = halfBlocks s' width height ↔
      SameOn (pixel s) (pixel s') width height := by
    constructor
    · intro h
      have hsame := (hblocks width height hh h).2.2
      rwa [Nat.min_self] at hsame
    · intro h
      rw [halfBlocks_eq, halfBlocks_eq, halfBlockLines_congr _ _ _ _ h]
  have hdots_iff : ascii s width height = ascii s' width height ↔
      SameOn (pixel s) (pixel s') width height := by
    constructor
    · intro h
      exact (hdots width height hh h).2.2
    · intro h
      rw [ascii_eq, ascii_eq, asciiLines_congr _ _ _ _ h]
  exact ⟨hblocks_iff, hdots_iff, hblocks_iff.trans hdots_iff.symm, hblocks, hdots⟩

/-- Either picture shows a screen of any surface and size without loss. -/
theorem pictures_lossless (s : σ) (s' : τ) (width height : Nat) (hh : 1 ≤ height) :
    Lossless s width height ∧ ToldApart s s' width height :=
  ⟨lossless s width height hh, toldApart s s' width height hh⟩

/-- The last of three rows has dark pixels below it, though the row that would come next is the
first again, of which one is lit. -/
theorem pictures_lossless_three_rows :
    let d := ((Display.blank 2 3 (by decide) (by decide)).setPixel 0 0 true).setPixel 1 1 true
    let d' := Display.standard.setPixel 0 0 true
    1 ≤ 3 ∧ halfBlocks d 2 3 = "▀▄\n  " ∧ ascii d 2 3 = "#.\n.#\n.." ∧
      Lossless d 2 3 ∧ ToldApart d d' 2 3 := by
  intro d d'
  have hheight : 1 ≤ 3 := by decide
  have hblocks : halfBlocks d 2 3 = "▀▄\n  " := by decide
  have hdots : ascii d 2 3 = "#.\n.#\n.." := by decide
  exact ⟨hheight, hblocks, hdots, pictures_lossless d d' 2 3 hheight⟩

end Surface

end Chip8
