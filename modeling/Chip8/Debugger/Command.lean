import Chip8.Debugger.Speed
import Chip8.Text.Lower
import Chip8.Text.Numeral

namespace Chip8.Debugger

inductive Command where
  | step
  | resume
  | run (hz : Int) (limit : Option Nat)
  | breakpoint (addr : Int)
  | view (addr : Int)
  | press (key : Fin 16)
  | release (key : Fin 16)
  | tick (count : Int)
  | help
  | quit
deriving DecidableEq, Repr

namespace Command

/-- The address in an argument, within sixteen bits. -/
def address (args : List String) (form : String) : Except Notice Int :=
  match args with
  | [] => .error (.usage form)
  | text :: _ =>
    match Text.Base.hexadecimal.integer? text with
    | some n => .ok (n % 65536)
    | none => .error (.invalid .address text)

def key (args : List String) (form : String) : Except Notice (Fin 16) :=
  match args with
  | [] => .error (.usage form)
  | text :: _ =>
    match (Text.Base.hexadecimal.integer? text).bind Registers.index? with
    | some k => .ok k
    | none => .error (.invalid .key text)

def positive (what : Argument) (tooSmall : Notice) (text : String) : Except Notice Int :=
  match Text.Base.decimal.integer? text with
  | none => .error (.invalid what text)
  | some n => if n < 1 then .error tooSmall else .ok n

def runArgs (args : List String) : Except Notice Command :=
  match args with
  | [] => .error (.usage "run <hz> [max_steps]")
  | [hz] => (positive .hz .hzTooSmall hz).map fun hz => run hz none
  | hz :: limit :: _ =>
    match positive .hz .hzTooSmall hz, positive .maxSteps .maxStepsTooSmall limit with
    | .error notice, _ => .error notice
    | .ok _, .error notice => .error notice
    | .ok hz, .ok limit => .ok (run hz (some limit.toNat))

def tickArgs (args : List String) : Except Notice Command :=
  match args with
  | [] => .ok (tick 1)
  | text :: _ =>
    match Text.Base.decimal.integer? text with
    | some n => .ok (tick n)
    | none => .error (.invalid .tickCount text)

/-- The command that a verb and its arguments make. Arguments that it does not need are ignored. -/
def ofWords (verb : String) (args : List String) : Except Notice Command :=
  if verb = "s" ∨ verb = "step" then .ok step
  else if verb = "c" ∨ verb = "continue" then .ok resume
  else if verb = "r" ∨ verb = "run" then runArgs args
  else if verb = "b" ∨ verb = "breakpoint" then (address args "b <hex_address>").map breakpoint
  else if verb = "g" ∨ verb = "goto" then (address args "g <hex_address>").map view
  else if verb = "k" ∨ verb = "key" then (key args "k <key>").map press
  else if verb = "u" ∨ verb = "release" then (key args "u <key>").map release
  else if verb = "t" ∨ verb = "tick" then tickArgs args
  else if verb = "h" ∨ verb = "help" then .ok help
  else if verb = "q" ∨ verb = "quit" then .ok quit
  else .error (.unknownCommand verb)

/-- Reads a command line. What is no command is answered by a notice; an empty line asks for help. -/
def parse (line : String) : Except Notice Command :=
  match Text.words line with
  | [] => .ok help
  | verb :: args => ofWords (Text.lower verb) args

end Command

namespace Session

/-- Adds an address to the breakpoints, in its place, or takes it away. -/
def toggleBreakpoint (s : Session) (addr : Int) : Session :=
  if s.breakpoints.contains addr then
    { s with breakpoints := s.breakpoints.erase addr, notice := .breakpointRemoved addr }
  else
    let (below, above) := s.breakpoints.span (· < addr)
    { s with breakpoints := below ++ addr :: above, notice := .breakpointSet addr }

def pressKey (s : Session) (key : Fin 16) : Session :=
  let awaited := !s.machine.running
  { s with machine := s.machine.pressKey key.val, notice := .keyPressed key awaited }

def releaseKey (s : Session) (key : Fin 16) : Session :=
  { s with machine := s.machine.releaseKey key.val, notice := .keyReleased key }

def tick (s : Session) (count : Int) : Session :=
  let machine := count.toNat.repeat Machine.tick s.machine
  { s with machine, notice := .ticked count machine.registers.dt machine.registers.st }

def resumeLimit : Int := 10000

def obey (s : Session) (host : Host) (t : Trace) : Command → SpeedRun
  | .step => ⟨s.step, t, .stopped⟩
  | .resume => ⟨s.resume resumeLimit, t, .stopped⟩
  | .run hz limit => s.runAtSpeed host hz limit t
  | .breakpoint addr => ⟨s.toggleBreakpoint addr, t, .stopped⟩
  | .view addr => ⟨{ s with viewAddr := addr, notice := .viewSet addr }, t, .stopped⟩
  | .press key => ⟨s.pressKey key, t, .stopped⟩
  | .release key => ⟨s.releaseKey key, t, .stopped⟩
  | .tick count => ⟨s.tick count, t, .stopped⟩
  | .help => ⟨s.notify .help, t, .stopped⟩
  | .quit => ⟨s, t, .stopped⟩

/-- Obeys a command line. The answer tells whether the session goes on. -/
def command (s : Session) (host : Host) (t : Trace) (line : String) : Bool × SpeedRun :=
  match Command.parse line with
  | .error notice => (true, ⟨s.notify notice, t, .stopped⟩)
  | .ok command => (command ≠ .quit, s.obey host t command)

end Session

end Chip8.Debugger
