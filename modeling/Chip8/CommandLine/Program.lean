import Chip8.Options.Steps

namespace Chip8.CommandLine

/-- What a program says at its end: an exit code, and the texts for its two outputs. -/
structure Reply where
  exit : Nat := 0
  out : String := ""
  err : String := ""
deriving DecidableEq, Repr

def unlines (lines : List String) : String := String.join (lines.map fun line => line ++ "\n")

/-- A program as its help describes it. -/
structure Program where
  name : String
  usage : String
  description : String
  grammar : Options.Grammar

namespace Program

def help (p : Program) : String := p.usage ++ "\n" ++ p.description

def helpReply (p : Program) : Reply := { out := p.help }

def refusalReply (p : Program) (refusal : Options.Refusal) : Reply :=
  { exit := 2, err := p.usage ++ s!"{p.name}: error: {refusal.message}\n" }

end Program

def maxCyclesSpec : Options.Spec := ⟨"--max-cycles", true⟩

def noStopSpec : Options.Spec := ⟨"--no-stop-at-zero", false⟩

def cyclesPerTickSpec : Options.Spec := ⟨"--cycles-per-tick", true⟩

def seedSpec : Options.Spec := ⟨"--seed", true⟩

def mainProgram : Program where
  name := "chip8-vm"
  usage := unlines ["usage: chip8-vm [-h] \x7brun,debug\x7d ..."]
  description := unlines
    [ "CHIP-8 Virtual Machine",
      "",
      "positional arguments:",
      "  \x7brun,debug\x7d",
      "    run        Run a ROM headless",
      "    debug      Run with TUI debugger",
      "",
      "options:",
      "  -h, --help   show this help message and exit" ]
  grammar := ⟨[], .command⟩

def runProgram : Program where
  name := "chip8-vm run"
  usage := unlines
    [ "usage: chip8-vm run [-h] [--max-cycles MAX_CYCLES] [--no-stop-at-zero]",
      "                    [--cycles-per-tick CYCLES_PER_TICK] [--seed SEED]",
      "                    rom" ]
  description := unlines
    [ "positional arguments:",
      "  rom                   Path to ROM file",
      "",
      "options:",
      "  -h, --help            show this help message and exit",
      "  --max-cycles MAX_CYCLES",
      "                        Stop after this many instructions (default 1000000)",
      "  --no-stop-at-zero     Treat a 0x0000 opcode as an error instead of a halt",
      "  --cycles-per-tick CYCLES_PER_TICK",
      "                        Instructions executed per 60 Hz timer tick",
      "  --seed SEED           Seed for the RND instruction" ]
  grammar := ⟨[maxCyclesSpec, noStopSpec, cyclesPerTickSpec, seedSpec], .required "rom"⟩

def debugProgram : Program where
  name := "chip8-vm debug"
  usage := unlines ["usage: chip8-vm debug [-h] [--seed SEED] rom"]
  description := unlines
    [ "positional arguments:",
      "  rom          Path to ROM file to debug",
      "",
      "options:",
      "  -h, --help   show this help message and exit",
      "  --seed SEED  Seed for the RND instruction" ]
  grammar := ⟨[seedSpec], .required "rom"⟩

end Chip8.CommandLine
