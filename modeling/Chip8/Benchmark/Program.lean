import Chip8.Benchmark.Measurement
import Chip8.CommandLine.Program
import Chip8.Headless

namespace Chip8.Benchmark

def maxCyclesSpec : Options.Spec := ⟨"--max-cycles", true⟩

def profileSpec : Options.Spec := ⟨"--cprofile", false⟩

def noMicroSpec : Options.Spec := ⟨"--no-micro", false⟩

def program : CommandLine.Program where
  name := "bench.py"
  usage := CommandLine.unlines
    ["usage: bench.py [-h] [--max-cycles MAX_CYCLES] [--cprofile] [--no-micro] [rom]"]
  description := CommandLine.unlines
    [ "Profile the CHIP-8 emulator",
      "",
      "positional arguments:",
      "  rom                   Optional ROM to run as a workload",
      "",
      "options:",
      "  -h, --help            show this help message and exit",
      "  --max-cycles MAX_CYCLES",
      "                        Cycle limit for the ROM workload",
      "  --cprofile            Run the ROM under cProfile and print hot functions",
      "  --no-micro            Skip micro-benchmarks" ]
  grammar := ⟨[maxCyclesSpec, profileSpec, noMicroSpec], .optional "rom"⟩

structure Settings where
  rom : Option String := none
  /-- The greatest number of cycles, unless the option was left empty. -/
  maxCycles : Option Int := some 1000000
  micro : Bool := true

def Settings.option (s : Settings) (spec : Options.Spec) (value : Option String) :
    Except Options.Refusal Settings :=
  if spec = maxCyclesSpec then
    (Options.filled Options.integer spec value).map fun n => { s with maxCycles := n }
  else if spec = noMicroSpec then .ok { s with micro := false }
  else .ok s

def Settings.read (args : List String) : Options.Result Settings :=
  Options.interpret option (fun s rom => { s with rom := some rom })
    (Options.steps program.grammar args) {} []

def rule : String := "".pushn '-' 65

/-- The time between two consecutive readings of a clock, the first of which is the `k`-th. -/
def lapse (clock : Nat → Except Number.Failure Float) (k : Nat) : Except Number.Failure Float := do
  let start ← clock k
  return (← clock (k + 1)) - start

/-- What the program leaves behind: the texts for its two outputs and, if it breaks off, a code. -/
structure Report where
  exit : Option Nat := none
  out : List String := []
  err : List String := []
deriving DecidableEq, Repr

inductive Break where
  | reply (reply : CommandLine.Reply)
  | unreachable (error : FileError)
  | loadRefused (refusal : Rom.Refusal)
  /-- An option that is needed was left empty. -/
  | empty (option : Options.Spec)
  | failed (why : Number.Failure)

/-- The lines of the measurements, each of which reads the clock twice. -/
def scheduleLines (clock : Nat → Except Number.Failure Float) :
    Except Number.Failure (List String) :=
  schedule.zipIdx.mapM fun ((name, subject, n), k) => do
    let r ← measure (subject.work n) (← lapse clock (2 * k))
    r.line name

def workload (path : String) (maxCycles : Int) (elapsed : Float) (m : Machine Display) :
    Except Number.Failure Report := do
  let finish := Headless.run { maxCycles := maxCycles.toNat } m
  let cycles := finish.machine.cycles
  let rate ←
    if 0 < elapsed then
      ((Number.Quantity.whole cycles).div (.real elapsed)).map Number.Quantity.real
    else pure (Number.Quantity.whole 0)
  let status := if finish.machine.halted then "halted" else "stopped"
  let time := Text.padLeft 7 (Number.fixed 3 elapsed)
  let rate := Text.padLeft 8 (← rateText rate)
  let count := Text.padLeft 10 (Number.grouped cycles)
  return {
    out := [s!"ROM workload: {path}", rule, s!"  {time}s  {rate}/s  {count} cycles  ({status})", ""]
    err := finish.faultLines "  stopped on error" }

def run (clock : Nat → Except Number.Failure Float) (files : Files) (args : List String) :
    Except Break Report :=
  match Settings.read args with
  | .help => .error (.reply program.helpReply)
  | .refused refusal => .error (.reply (program.refusalReply refusal))
  | .settings _ (arg :: args) =>
    .error (.reply (program.refusalReply (.unrecognized (arg :: args))))
  | .settings settings [] => do
    let head ←
      if settings.micro then
        let lines ← (scheduleLines clock).mapError .failed
        pure ("Micro-benchmarks (isolated hot-path components)" :: rule :: lines ++ [""])
      else pure []
    match settings.rom with
    | none => return { out := head }
    | some path =>
      if !(← (files.pathExists path).mapError .unreachable) then
        return { exit := some 1, out := head, err := [s!"ROM not found: {path}"] }
      else
        match Rom.load (loaded []) path (files.read path) with
        | .error refusal => throw (.loadRefused refusal)
        | .ok (_, m) =>
          let maxCycles ← (Options.needed maxCyclesSpec settings.maxCycles).mapError .empty
          let readings := if settings.micro then 2 * schedule.length else 0
          let elapsed ← (lapse clock readings).mapError .failed
          let report ← (workload path maxCycles elapsed m).mapError .failed
          return { report with out := head ++ report.out }

end Chip8.Benchmark
