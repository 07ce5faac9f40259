import Chip8.CommandLine.Request
import Chip8.Debugger.Session
import Chip8.Headless

namespace Chip8.CommandLine

inductive Break where
  | reply (reply : Reply)
  /-- An option that the program needs was left empty. -/
  | empty (option : Options.Spec)

def machine (random : RandomSource) : Machine Display := { surface := Display.standard, random }

def loadRefused (path : String) (refusal : Rom.Refusal) : Reply :=
  { exit := 1, err := s!"Error: cannot load '{path}': {refusal.message}\n" }

/-- Runs a program that was read from a file, and reports on its screen and its registers. Without
a seed its random numbers come from `random`. -/
def runReply (settings : Settings) (random : RandomSource)
    (contents : Except FileError (List UInt8)) : Except Break Reply := do
  let random ← (settings.random random).mapError .empty
  match Rom.load (machine random) settings.rom contents with
  | .error refusal => throw (.reply (loadRefused settings.rom refusal))
  | .ok (size, m) =>
    let limits ← settings.limits.mapError .empty
    let finish := Headless.run limits m
    let d := finish.machine.surface
    return {
      exit := finish.exitCode
      out := Surface.ascii d d.width d.height ++ "\n"
      err := unlines (s!"Loaded {size} bytes from {settings.rom} at {Text.address m.pc}" ::
        finish.faultLines "Error" ++ finish.summaryLines) }

def openSession (settings : Settings) (random : RandomSource)
    (contents : Except FileError (List UInt8)) : Except Break Debugger.Session := do
  let random ← (settings.random random).mapError .empty
  match Rom.load (machine random) settings.rom contents with
  | .error refusal => throw (.reply (loadRefused settings.rom refusal))
  | .ok (size, m) =>
    return { machine := m, viewAddr := m.pc, notice := .loaded size settings.rom }

end Chip8.CommandLine
