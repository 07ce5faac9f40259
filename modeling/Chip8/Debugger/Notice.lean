import Chip8.Fault

namespace Chip8.Debugger

/-- How far a run has come: in cycles, or in steps at a clock rate. -/
inductive Tally where
  | cycles (count : Nat)
  | steps (count : Nat) (hz : Int)
deriving DecidableEq, Repr

namespace Tally

def text : Tally → String
  | cycles n => s!"{n} cycles"
  | steps n _ => s!"{n} steps"

def pace : Tally → String
  | cycles _ => ""
  | steps _ hz => s!" at {hz} Hz"

end Tally

inductive Argument where
  | address
  | key
  | hz
  | maxSteps
  | tickCount
deriving DecidableEq, Repr

def Argument.name : Argument → String
  | address => "address"
  | key => "key"
  | hz => "hz"
  | maxSteps => "max_steps"
  | tickCount => "tick count"

/-- What the debugger tells its user. -/
inductive Notice where
  | ready
  | loaded (size : Nat) (path : String)
  | halted
  | waiting (x : Fin 16)
  /-- The program waits for a key after a run. -/
  | waitingAfter (x : Fin 16) (tally : Tally)
  | zeroWord (pc : Int)
  | failed (pc : Int) (fault : Fault)
  | stepped (pc : Int) (cycles : Nat)
  | breakpointHit (pc : Int) (tally : Tally)
  | cycleLimit (limit : Int)
  | stepLimit (steps : Nat)
  | runningAt (hz : Int) (steps : Nat) (pc : Int)
  | paused (steps : Nat) (hz : Int)
  | help
  | usage (form : String)
  /-- An argument cannot be read. -/
  | invalid (what : Argument) (text : String)
  | hzTooSmall
  | maxStepsTooSmall
  | breakpointSet (addr : Int)
  | breakpointRemoved (addr : Int)
  | viewSet (addr : Int)
  | keyPressed (key : Fin 16) (resolved : Bool)
  | keyReleased (key : Fin 16)
  | ticked (count dt st : Int)
  | unknownCommand (verb : String)
deriving DecidableEq, Repr

namespace Notice

def helpText : String := "\n".intercalate
  [ "s, step                  - step one instruction",
    "c, continue              - run until breakpoint/halt/key wait",
    "r, run <hz> [max_steps]  - run at fixed speed (Ctrl+C to pause)",
    "b <addr>                 - toggle breakpoint (hex address)",
    "g <addr>                 - set memory view address (hex)",
    "k <key>                  - press keypad key (hex 0-F)",
    "u <key>                  - release keypad key (hex 0-F)",
    "t [n]                    - tick timers n times (default 1)",
    "h, help                  - show this help",
    "q, quit                  - exit debugger" ]

def waitingText (x : Fin 16) : String :=
  let name := Text.hex 1 x.val
  s!"Waiting for key into V{name} (use 'k <key>')."

def text : Notice → String
  | ready => "Ready. Type 's' to step, 'c' to continue, 'q' to quit."
  | loaded size path => s!"Loaded {size} bytes from {path}. Type 'h' for help."
  | halted => "CPU is halted."
  | waiting x => waitingText x
  | waitingAfter x tally => s!"{waitingText x} Ran {tally.text}."
  | zeroWord pc => s!"CPU halted at {Text.address pc} (zero opcode)."
  | failed pc fault => s!"Error at {Text.address pc}: {fault.message}"
  | stepped pc cycles => s!"Stepped to {Text.address pc} (cycle {cycles})"
  | breakpointHit pc tally =>
    s!"Breakpoint hit at {Text.address pc} (ran {tally.text}{tally.pace})"
  | cycleLimit limit => s!"Stopped after {limit} cycles (limit reached)."
  | stepLimit steps => s!"Stopped after {steps} steps (limit reached)."
  | runningAt hz steps pc =>
    s!"Running at {hz} Hz, step {steps}, PC {Text.address pc} (Ctrl+C to stop)"
  | paused steps hz => s!"Paused after {steps} steps at {hz} Hz."
  | help => helpText
  | usage form => s!"Usage: {form}"
  | invalid what text => s!"Invalid {what.name}: {text}"
  | hzTooSmall => "Hz must be >= 1."
  | maxStepsTooSmall => "max_steps must be >= 1."
  | breakpointSet addr => s!"Breakpoint set at {Text.address addr}"
  | breakpointRemoved addr => s!"Breakpoint removed at {Text.address addr}"
  | viewSet addr => s!"Memory view set to {Text.address addr}"
  | keyPressed key resolved =>
    let name := Text.hex 1 key.val
    if resolved then s!"Key {name} pressed (key wait resolved)" else s!"Key {name} pressed"
  | keyReleased key =>
    let name := Text.hex 1 key.val
    s!"Key {name} released"
  | ticked count dt st => s!"Ticked {count}x: DT={dt} ST={st}"
  | unknownCommand verb => s!"Unknown command: {verb}\n\n{helpText}"

end Notice

end Chip8.Debugger
