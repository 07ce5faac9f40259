import Chip8.Debugger.Notice
import Chip8.Machine.Execute
import Chip8.Surface.Display

namespace Chip8.Debugger

/-- A machine under a debugger. -/
structure Session where
  machine : Machine Display
  /-- The addresses at which runs stop, in ascending order. -/
  breakpoints : List Int := []
  /-- The registers as they were before the last command that ran the program. -/
  before : Registers.Snapshot := Vector.replicate 20 0
  viewAddr : Int := programStart
  /-- The emulated clock rate. -/
  hz : Int := 600
  /-- The number of instructions since the timers last counted down. -/
  sinceTick : Nat := 0
  notice : Notice := .ready

def blocked? {σ : Type} (m : Machine σ) : Option Notice :=
  if m.halted then some .halted
  else
    match m.mode with
    | .awaitingKey x => some (.waiting x)
    | .running => none

/-- The number of instructions from one tick of the timers to the next. -/
def tickPeriod (hz : Int) : Nat := max 1 (hz / 60).toNat

namespace Session

def notify (s : Session) (notice : Notice) : Session := { s with notice }

def remember (s : Session) : Session := { s with before := s.machine.registers.snapshot }

def halt (s : Session) (reason : Notice) : Session :=
  { s with machine := { s.machine with halted := true }, notice := reason }

/-- Counts an instruction, and lets the timers tick when their period is over. -/
def count (s : Session) : Session :=
  if tickPeriod s.hz ≤ s.sinceTick + 1 then
    { s with machine := s.machine.tick, sinceTick := 0 }
  else { s with sinceTick := s.sinceTick + 1 }

/-- Executes one instruction unless the machine is blocked; a zero word or a fault halts it. The
answer tells whether an instruction was executed and another may follow. -/
def advance (s : Session) : Bool × Session :=
  match blocked? s.machine with
  | some _ => (false, s)
  | none =>
    match s.machine.fetch with
    | .error fault => (false, s.halt (.failed s.machine.pc fault))
    | .ok w =>
      if w = 0 then (false, s.halt (.zeroWord s.machine.pc))
      else
        match s.machine.step with
        | .error fault m => (false, { s with machine := m }.halt (.failed m.pc fault))
        | .ok _ m =>
          let s := { s with machine := m }.count
          (s.machine.running, s)

def step (s : Session) : Session :=
  match blocked? s.machine with
  | some reason => s.notify reason
  | none =>
    let s := s.remember.advance.2
    if s.machine.halted then s
    else s.notify ((blocked? s.machine).getD (.stepped s.machine.pc s.machine.cycles))

/-- What ends a run before its limit. -/
inductive Stop where
  | halted
  | waiting (x : Fin 16)
  | breakpoint
deriving DecidableEq, Repr

/-- The cause that holds after an instruction; a halt is named before a key wait, and that before
a breakpoint. -/
def stop? (s : Session) : Option Stop :=
  if s.machine.halted then some .halted
  else
    match s.machine.mode with
    | .awaitingKey x => some (.waiting x)
    | .running => if s.breakpoints.contains s.machine.pc then some .breakpoint else none

/-- A stretch of a run: how often it advanced, what stopped it if anything did, and where. -/
structure Stretch where
  ran : Nat
  stop : Option Stop
  session : Session

def stretchFrom (ran : Nat) : Nat → Session → Stretch
  | 0, s => ⟨ran, none, s⟩
  | limit + 1, s =>
    let s := s.advance.2
    match s.stop? with
    | some stop => ⟨ran + 1, some stop, s⟩
    | none => stretchFrom (ran + 1) limit s

def stretch (s : Session) (limit : Nat) : Stretch := stretchFrom 0 limit s

/-- Tells what stopped a run. A halt has told its reason before. -/
def stoppedBy (s : Session) (tally : Tally) : Stop → Session
  | .halted => s
  | .waiting x => s.notify (.waitingAfter x tally)
  | .breakpoint => s.notify (.breakpointHit s.machine.pc tally)

def resume (s : Session) (limit : Int) : Session :=
  match blocked? s.machine with
  | some reason => s.notify reason
  | none =>
    let r := s.remember.stretch limit.toNat
    match r.stop with
    | some stop => r.session.stoppedBy (.cycles r.ran) stop
    | none => r.session.notify (.cycleLimit limit)

end Session

end Chip8.Debugger
