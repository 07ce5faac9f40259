import Chip8.CommandLine.Program
import Chip8.Headless

namespace Chip8.CommandLine

/-- The settings of the two subprograms. An option that was left empty has no value. -/
structure Settings where
  rom : String := ""
  maxCycles : Option Nat := some 1000000
  cyclesPerTick : Option Nat := some 10
  stopAtZero : Bool := true
  /-- The value of the seed, if the option was given at all. -/
  seed : Option (Option Int) := none

namespace Settings

def option (s : Settings) (spec : Options.Spec) (value : Option String) :
    Except Options.Refusal Settings :=
  if spec = maxCyclesSpec then
    (Options.filled Options.count spec value).map fun n => { s with maxCycles := n }
  else if spec = cyclesPerTickSpec then
    (Options.filled Options.count spec value).map fun n => { s with cyclesPerTick := n }
  else if spec = noStopSpec then .ok { s with stopAtZero := false }
  else (Options.filled Options.integer spec value).map fun n => { s with seed := some n }

/-- The limits of a run. The error is an option that was left empty. -/
def limits (s : Settings) : Except Options.Spec Headless.Limits := do
  let maxCycles ← Options.needed maxCyclesSpec s.maxCycles
  let cyclesPerTick ← Options.needed cyclesPerTickSpec s.cyclesPerTick
  return { maxCycles, cyclesPerTick, stopAtZero := s.stopAtZero }

def random (s : Settings) (unseeded : RandomSource) : Except Options.Spec RandomSource :=
  match s.seed with
  | none => .ok unseeded
  | some seed => (Options.needed seedSpec seed).map .ofSeed

def read (p : Program) (args : List String) : Options.Result Settings :=
  Options.interpret option (fun s rom => { s with rom }) (Options.steps p.grammar args) {} []

end Settings

inductive Request where
  | run (settings : Settings)
  | debug (settings : Settings)
  /-- Nothing but a reply. -/
  | reply (reply : Reply)

namespace Request

def subprograms : List (String × Program × (Settings → Request)) :=
  [("run", runProgram, run), ("debug", debugProgram, debug)]

def refuse (refusal : Options.Refusal) : Request := .reply (mainProgram.refusalReply refusal)

def invalidChoice (name : String) : Options.Refusal :=
  let choices := ", ".intercalate (subprograms.map fun s => Text.quoted s.1)
  .argument "command" s!"invalid choice: {Text.quoted name} (choose from {choices})"

/-- Reads the arguments of a subprogram. Arguments that have no place, before or after its name,
are refused by the whole program. -/
def ofCommand (name : String) (args extras : List String) : Request :=
  match subprograms.lookup name with
  | none => refuse (invalidChoice name)
  | some (program, request) =>
    match Settings.read program args with
    | .help => .reply program.helpReply
    | .refused refusal => .reply (program.refusalReply refusal)
    | .settings settings more =>
      if extras ++ more = [] then request settings else refuse (.unrecognized (extras ++ more))

def ofSteps : List Options.Step → List String → Request
  | .command name args :: _, extras => ofCommand name args extras.reverse
  | .help :: _, _ => .reply mainProgram.helpReply
  | .refuse refusal :: _, _ => refuse refusal
  | .extra arg :: rest, extras => ofSteps rest (arg :: extras)
  | .option _ _ :: rest, extras => ofSteps rest extras
  | .positional _ :: rest, extras => ofSteps rest extras
  | [], [] => .reply { mainProgram.helpReply with exit := 1 }
  | [], extras => refuse (.unrecognized extras.reverse)

def ofArgs (args : List String) : Request := ofSteps (Options.steps mainProgram.grammar args) []

end Request

end Chip8.CommandLine
