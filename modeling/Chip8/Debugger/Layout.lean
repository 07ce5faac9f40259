import Chip8.Debugger.Session
import Chip8.Memory.Dump
import Chip8.Registers.Panel
import Chip8.Surface.Picture

namespace Chip8.Debugger

/-- A part of the screen: its fixed size, or its share of what the others leave. -/
structure Region where
  size : Option Int := none
  ratio : Nat := 1
deriving DecidableEq, Repr

structure Panel where
  title : String
  text : String
  region : Region := {}
deriving DecidableEq, Repr

/-- The screen of the debugger: a top row above the memory and the status. The top row has the
picture at its left, and the registers above the keypad at its right. -/
structure Layout where
  top : Region
  right : Region
  screen : Panel
  registers : Panel
  keypad : Panel
  memory : Panel
  status : Panel
deriving DecidableEq, Repr

def stateText {σ : Type} (m : Machine σ) : String :=
  if m.halted then "HALTED"
  else
    match m.mode with
    | .awaitingKey x => "WAIT KEY -> V" ++ Text.hex 1 x.val
    | .running => "RUNNING"

def lineCount (text : String) : Nat := text.toList.count '\n' + 1

def border : Nat := 2

def memoryRows : Nat := 8

/-- The least height of the top row, in which the registers find room above the keypad. -/
def topHeight : Nat := 17

namespace Session

def breakpointText (s : Session) : String :=
  if s.breakpoints.isEmpty then "none"
  else ", ".intercalate (s.breakpoints.map Text.address)

def stateLine (s : Session) : String :=
  let m := s.machine
  let sound := if m.registers.soundActive then "ON" else "off"
  "  |  ".intercalate
    [ s!"PC: {Text.address m.pc}", s!"Cycles: {m.cycles}", s!"State: {stateText m}",
      s!"Sound: {sound}", s!"Breakpoints: {s.breakpointText}" ]

def layoutWith (s : Session) (message : String) : Layout :=
  let d := s.machine.surface
  { top := { size := some (max (border + (d.height + 1) / 2) topHeight : Nat) }
    right := {}
    screen :=
      { title := s!"Screen {d.width}x{d.height}"
        text := Surface.halfBlocks d d.width d.height
        region := { size := some (d.width + 4 : Nat) } }
    registers :=
      { title := "Registers"
        text := s.machine.registers.panel (some s.before)
        region := { ratio := 2 } }
    keypad :=
      { title := "Keypad", text := Surface.keypadText d, region := { size := some 6 } }
    memory :=
      { title := s!"Memory @ {Text.address s.viewAddr}"
        text := s.machine.memory.dump s.viewAddr memoryRows }
    status :=
      { title := "Status"
        text := s.stateLine ++ "\n" ++ message
        region := { size := some (border + 1 + lineCount message : Nat) } } }

def layout (s : Session) : Layout := s.layoutWith s.notice.text

end Session

end Chip8.Debugger
