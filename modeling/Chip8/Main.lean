import Chip8.CommandLine.Answer
import Chip8.Debugger.Console

namespace Chip8.Terminal

open Debugger

def readFile (path : String) : IO (Except FileError (List UInt8)) := do
  try
    return .ok (← IO.FS.readBinFile path).toList
  catch
    | .inappropriateType _ 21 _ => return .error (.isADirectory path)
    | .inappropriateType _ _ _ => return .error (.notADirectory path)
    | .invalidArgument _ 36 _ => return .error (.nameTooLong path)
    | _ => return .error (.notFound path)

def say (reply : CommandLine.Reply) : IO UInt32 := do
  IO.print reply.out
  IO.eprint reply.err
  return reply.exit.toUInt32

def breakOff : CommandLine.Break → IO UInt32
  | .reply reply => say reply
  | .empty option => say { exit := 1, err := s!"The option {option.name} is empty.\n" }

/-- A text with its marks turned into colours of the terminal. -/
def coloured (text : String) : String :=
  ((text.replace "[bold yellow]" "\x1b[1;33m").replace "[reverse]" "\x1b[7m"
    |>.replace "[/bold yellow]" "\x1b[0m").replace "[/reverse]" "\x1b[0m"

def drawPanel (p : Panel) : IO Unit := do
  IO.println s!"--- {p.title}"
  IO.println (coloured p.text)

def draw (s : Session) : IO Unit := do
  IO.print "\x1b[2J\x1b[H"
  let l := s.layout
  for p in [l.screen, l.registers, l.keypad, l.memory, l.status] do
    drawPanel p

partial def runLive (hz : Int) (limit : Option Nat) (steps : Nat) (s : Session) : IO Session := do
  let start ← IO.monoMsNow
  let f := s.frame hz limit steps
  draw f.session
  match f.sequel with
  | .ended => return f.session
  | .limitReached => return f.session.notify (.stepLimit f.steps)
  | .goesOn =>
    let interval := match frameInterval hz with
      | .ok interval => interval
      | .error _ => 0
    let time := (interval * 1000).toUInt32
    IO.sleep (time - min time (UInt32.ofNat ((← IO.monoMsNow) - start)))
    runLive hz limit f.steps f.session

def idleHost : Host where
  draws := false
  clock := fun _ => .ok 0
  interruptsFrame := fun _ => false
  interruptsPause := fun _ => false
  patience := 0

def obey (s : Session) (command : Command) : IO Session :=
  match command with
  | .run hz limit =>
    match blocked? s.machine with
    | some reason => return s.notify reason
    | none => runLive hz limit 0 { s with hz }
  | command => return (s.obey idleHost {} command).session

partial def dialogue (input : IO.FS.Stream) (s : Session) : IO Unit := do
  draw s
  IO.print Console.promptText
  (← IO.getStdout).flush
  let line ← input.getLine
  if line.isEmpty then
    IO.println "\nExiting debugger."
  else
    match Command.parse line with
    | .error notice => dialogue input (s.notify notice)
    | .ok .quit => IO.println "Exiting debugger."
    | .ok command => dialogue input (← obey s command)

end Chip8.Terminal

open Chip8 in
def main (args : List String) : IO UInt32 := do
  let random := RandomSource.ofSeed (← IO.rand 0 (1 <<< 62))
  match CommandLine.Request.ofArgs args with
  | .reply reply => Terminal.say reply
  | .run settings =>
    match CommandLine.runReply settings random (← Terminal.readFile settings.rom) with
    | .error reason => Terminal.breakOff reason
    | .ok reply => Terminal.say reply
  | .debug settings =>
    match CommandLine.openSession settings random (← Terminal.readFile settings.rom) with
    | .error reason => Terminal.breakOff reason
    | .ok session =>
      Terminal.dialogue (← IO.getStdin) session
      return 0
