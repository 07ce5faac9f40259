import Chip8.Proofs.Machine.Refusal
import Chip8.Surface.Picture

namespace Chip8

def Surface.answers {σ : Type} [Surface σ] (s : σ) : Query → Bool
  | .pixel x y => pixel s x y
  | .key k => isKeyPressed s k

theorem Surface.answers_noteReads {σ : Type} [Surface σ] [Surface.Steady σ] (s : σ)
    (queries : List Query) : answers (noteReads s queries) = answers s := by
  induction queries generalizing s with
  | nil => rfl
  | cons q queries ih =>
    have hone : answers (noteRead s q) = answers s := by
      funext query
      cases query with
      | pixel x y => exact congrFun (congrFun (Surface.Steady.pixel_noteRead s q) x) y
      | key k => exact congrFun (Surface.Steady.isKeyPressed_noteRead s q) k
    exact (ih (noteRead s q)).trans hone

/-- A surface that writes down how it is used has written down the questions in their order. -/
theorem Recorder.noteReads_eq (r : Recorder) (queries : List Query) :
    Surface.noteReads r queries =
      { r with calls := (queries.map .read).reverse ++ r.calls } := by
  induction queries generalizing r with
  | nil => rfl
  | cons q queries ih =>
    have hone : Surface.noteReads r (q :: queries) =
        Surface.noteReads (r.record (.read q)) queries := rfl
    rw [hone, ih]
    simp [record]

namespace Picture

section

variable {σ α β : Type} [Surface σ]

def ask (q : Query) : StateM σ Bool := fun s => (Surface.answers s q, Surface.noteRead s q)

/-- A computation asks a surface these questions one after another, and does nothing else to it; what
it gives is made of the answers. -/
def Asks (c : StateM σ α) (queries : List Query) (result : (Query → Bool) → α) : Prop :=
  ∀ s, c s = (result (Surface.answers s), Surface.noteReads s queries)

namespace Asks

theorem ask (q : Query) : Asks (ask q : StateM σ Bool) [q] fun answers => answers q := fun _ => rfl

theorem pure (a : α) : Asks (Pure.pure a : StateM σ α) [] fun _ => a := fun _ => rfl

theorem map {c : StateM σ α} {queries : List Query} {a : (Query → Bool) → α} (h : Asks c queries a)
    (g : α → β) : Asks (g <$> c) queries fun answers => g (a answers) := by
  intro s
  change (g (c s).1, (c s).2) = _
  rw [h s]

variable [Surface.Steady σ]

theorem bind {c : StateM σ α} {f : α → StateM σ β} {first second : List Query}
    {a : (Query → Bool) → α} {b : α → (Query → Bool) → β} (hc : Asks c first a)
    (hf : ∀ x, Asks (f x) second (b x)) :
    Asks (c >>= f) (first ++ second) fun answers => b (a answers) answers := by
  intro s
  change f (c s).1 (c s).2 = _
  rw [hc s, hf, Surface.answers_noteReads]
  simp only [Surface.noteReads, List.foldl_append]

theorem mapM {ι : Type} {f : ι → StateM σ α} {queries : ι → List Query}
    {a : ι → (Query → Bool) → α} (h : ∀ i, Asks (f i) (queries i) (a i)) (is : List ι) :
    Asks (is.mapM f) (is.flatMap queries) fun answers => is.map fun i => a i answers := by
  induction is with
  | nil => exact pure []
  | cons i is ih =>
    rw [List.mapM_cons, List.flatMap_cons, ← List.append_nil (is.flatMap queries)]
    exact (h i).bind fun x => ih.bind fun xs => pure (x :: xs)

end Asks

/-- The picture that shows two rows on each line, drawn by asking for one pixel after another. Below
the last row nothing is asked for. -/
def drawHalfBlocks (width height : Nat) : StateM σ String := do
  let lines ← (List.range ((height + 1) / 2)).mapM fun r => do
    let cells ← (List.range width).mapM fun (x : Nat) => do
      let top ← ask (.pixel x (2 * r : Nat))
      let bottom ← if 2 * r + 1 < height then ask (.pixel x (2 * r + 1 : Nat)) else pure false
      return halfBlock top bottom
    return String.ofList cells
  return "\n".intercalate lines

def drawAscii (width height : Nat) : StateM σ String := do
  let lines ← (List.range height).mapM fun (y : Nat) => do
    let dots ← (List.range width).mapM fun (x : Nat) => asciiDot <$> ask (.pixel x y)
    return String.ofList dots
  return "\n".intercalate lines

def drawKeypad : StateM σ String := do
  let lines ← Keypad.layout.mapM fun row => do
    let cells ← row.mapM fun key => do
      let held ← ask (.key key.val)
      let name := Text.hex 1 key.val
      return if held then s!"[reverse]{name}[/reverse]" else name
    return " ".intercalate cells
  return "\n".intercalate lines

variable [Surface.Steady σ]

theorem asks_drawHalfBlocks (width height : Nat) :
    Asks (drawHalfBlocks width height : StateM σ String) (halfBlockReads width height) fun answers =>
      "\n".intercalate (halfBlockLines (fun x y => answers (.pixel x y)) width height) := by
  have hcell (r x : Nat) : Asks (σ := σ) (do
      let top ← ask (.pixel x (2 * r : Nat))
      let bottom ← if 2 * r + 1 < height then ask (.pixel x (2 * r + 1 : Nat)) else pure false
      return halfBlock top bottom)
      (.pixel x (2 * r : Nat) ::
        if 2 * r + 1 < height then [.pixel x (2 * r + 1 : Nat)] else [])
      fun answers => halfBlock (answers (.pixel x (2 * r : Nat)))
        (below (fun x y => answers (.pixel x y)) height x (2 * r)) := by
    by_cases hlast : 2 * r + 1 < height
    · simp only [if_pos hlast, below, decide_eq_true hlast, Bool.true_and]
      exact (Asks.ask _).bind fun top => (Asks.ask _).bind fun bottom => .pure _
    · simp only [if_neg hlast, below, decide_eq_false hlast, Bool.false_and]
      exact (Asks.ask _).bind fun top => .pure _
  have hline (r : Nat) := (Asks.mapM (hcell r) (List.range width)).map String.ofList
  exact (Asks.mapM hline _).map _

theorem asks_drawAscii (width height : Nat) :
    Asks (drawAscii width height : StateM σ String) (asciiReads width height) fun answers =>
      "\n".intercalate (asciiLines (fun x y => answers (.pixel x y)) width height) := by
  have hreads : asciiReads width height = (List.range height).flatMap fun (y : Nat) =>
      (List.range width).flatMap fun (x : Nat) => [.pixel x y] := by
    simp only [asciiReads, List.map_eq_flatMap]
  have hdot (y x : Nat) := (Asks.ask (σ := σ) (.pixel x y)).map asciiDot
  have hline (y : Nat) := (Asks.mapM (hdot y) (List.range width)).map String.ofList
  rw [hreads]
  exact (Asks.mapM hline (List.range height)).map _

theorem asks_drawKeypad :
    Asks (drawKeypad : StateM σ String) keypadReads fun answers =>
      "\n".intercalate (keypadLines fun k => answers (.key k)) := by
  have hcell (key : Fin 16) := (Asks.ask (σ := σ) (.key key.val)).map fun held =>
    if held then s!"[reverse]{Text.hex 1 key.val}[/reverse]" else Text.hex 1 key.val
  have hline (row : List (Fin 16)) := (Asks.mapM hcell row).map (" ".intercalate ·)
  exact (Asks.mapM hline Keypad.layout).map _

end

end Picture

/-- The questions that a picture asks are those that are listed for it, in their order: drawn by asking
the surface one after another, the picture is the same, and the surface has been told of them. -/
theorem Surface.pictures_ask {σ : Type} [Surface σ] [Surface.Steady σ] (s : σ) (width height : Nat) :
    Picture.drawHalfBlocks width height s =
      (halfBlocks s width height, noteReads s (Picture.halfBlockReads width height)) ∧
    Picture.drawAscii width height s =
      (ascii s width height, noteReads s (Picture.asciiReads width height)) ∧
    Picture.drawKeypad s = (keypadText s, noteReads s Picture.keypadReads) :=
  ⟨Picture.asks_drawHalfBlocks width height s, Picture.asks_drawAscii width height s,
    Picture.asks_drawKeypad s⟩

end Chip8
