import Chip8.Registers.Basic
import Chip8.Text.Basic

namespace Chip8.Registers

structure Entry where
  label : String
  width : Nat

def entry (k : Fin 20) : Entry :=
  if k.val < 16 then ⟨"V" ++ Text.hex 1 k.val, 2⟩
  else if k.val = 16 then ⟨"I ", 4⟩
  else if k.val = 17 then ⟨"PC", 4⟩
  else if k.val = 18 then ⟨"DT", 2⟩
  else ⟨"ST", 2⟩

def mark (text : String) : String := "[bold yellow]" ++ text ++ "[/bold yellow]"

/-- The text of one value, marked when an earlier snapshot shows another one. -/
def cell (now : Snapshot) (before : Option Snapshot) (k : Fin 20) : String :=
  let value := now.get k
  let text := (entry k).label ++ " 0x" ++ Text.hex (entry k).width value
  match before with
  | some old => if value = old.get k then text else mark text
  | none => text

def grid : List (List (Fin 20)) :=
  [[0, 4, 8, 12], [1, 5, 9, 13], [2, 6, 10, 14], [3, 7, 11, 15]]

def special : List (Fin 20) := [16, 17, 18, 19]

def stackLine (r : Registers) : String :=
  let depth := Text.padLeft 2 (toString r.stack.length)
  let addresses := " ".intercalate (r.stack.reverse.map fun a => Text.hex 3 a.toNat)
  let shown := if r.stack.isEmpty then "empty" else addresses
  s!"SP {depth}  [{shown}]"

def panelLines (r : Registers) (before : Option Snapshot) : List String :=
  let line (ks : List (Fin 20)) := "  ".intercalate (ks.map (cell r.snapshot before))
  grid.map line ++ ["", line special, r.stackLine]

def panel (r : Registers) (before : Option Snapshot) : String :=
  "\n".intercalate (r.panelLines before)

end Chip8.Registers
