import Chip8.Debugger.Command
import Chip8.Debugger.Layout

namespace Chip8.Debugger

/-- What the user sees at the console. -/
inductive Event where
  | clear
  | layout (screen : Layout)
  | text (message : String)
  | prompt (message : String)
deriving DecidableEq, Repr

namespace Console

def promptText : String := "dbg> "

def redraw (s : Session) : List Event := [.clear, .layout s.layout]

/-- What is said when the user leaves: by a command, or by breaking off the input. -/
def farewell (byCommand : Bool) : Event :=
  .text (if byCommand then "Exiting debugger." else "\nExiting debugger.")

def newFrames (earlier later : Trace) : List Session := later.frames.toList.drop earlier.frames.size

/-- Reads command lines until the user leaves. A missing line is an interrupt. -/
def dialogue (host : Host) : List (Option String) → Session → Trace → List Event
  | [], _, _ => [.prompt promptText, farewell false]
  | none :: _, _, _ => [.prompt promptText, farewell false]
  | some line :: lines, s, t =>
    match s.command host t line with
    | (false, _) => [.prompt promptText, farewell true]
    | (true, r) =>
      .prompt promptText :: (newFrames t r.trace).flatMap redraw ++ redraw r.session ++
        dialogue host lines r.session r.trace

def run (host : Host) (lines : List (Option String)) (s : Session) : List Event :=
  redraw s ++ dialogue host lines s {}

end Console

end Chip8.Debugger
