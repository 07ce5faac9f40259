import Chip8.Debugger.Session
import Chip8.Number.Quantity

namespace Chip8.Debugger

/-- The number of instructions between two redraws, of which there are about thirty a second. -/
def stepsPerFrame (hz : Int) : Nat := max 1 (hz / 30).toNat

/-- The time that a frame takes, in seconds. A rate of zero leaves it no length. -/
def frameInterval (hz : Int) : Except Number.Failure Float :=
  Number.nearest (stepsPerFrame hz) hz

inductive Frame.Sequel where
  | goesOn
  | limitReached
  | ended
deriving DecidableEq, Repr

structure Frame where
  session : Session
  steps : Nat
  sequel : Frame.Sequel

def Session.frame (s : Session) (hz : Int) (limit : Option Nat) (steps : Nat) : Frame :=
  let budget := match limit with
    | some n => min (stepsPerFrame hz) (n - steps)
    | none => stepsPerFrame hz
  let r := s.remember.stretch budget
  let steps := steps + r.ran
  match r.stop with
  | some stop => ⟨r.session.stoppedBy (.steps steps hz) stop, steps, .ended⟩
  | none =>
    let reached := match limit with
      | some n => decide (n ≤ steps)
      | none => false
    ⟨r.session.notify (.runningAt hz steps r.session.machine.pc), steps,
      if reached then .limitReached else .goesOn⟩

/-- What a run at speed depends on besides the session. -/
structure Host where
  /-- Frames are drawn. -/
  draws : Bool
  /-- What the clock shows when it is read for the `k`-th time, from zero on, if it can tell. -/
  clock : Nat → Except Number.Failure Float
  /-- The user interrupts the drawing of a frame, counted from zero on. -/
  interruptsFrame : Nat → Bool
  /-- The user interrupts a pause, counted from zero on. -/
  interruptsPause : Nat → Bool
  /-- The number of frames after which a run without a limit is given up. -/
  patience : Nat

/-- What has happened on the host: how often the clock was read, the frames drawn and the lengths
of the pauses between them, each in their order. -/
structure Trace where
  readings : Nat := 0
  frames : Array Session := #[]
  pauses : Array Float := #[]

inductive Ending where
  /-- Something stopped the program, or it reached the limit of the run. -/
  | stopped
  /-- The user interrupted. -/
  | paused
  /-- A time cannot be computed. -/
  | failed (why : Number.Failure)
  /-- The host lost its patience. -/
  | abandoned
deriving DecidableEq, Repr

structure SpeedRun where
  session : Session
  trace : Trace
  ending : Ending

namespace Trace

def draw (t : Trace) (host : Host) (s : Session) : Trace × Bool :=
  if host.draws then
    ({ t with frames := t.frames.push s }, host.interruptsFrame t.frames.size)
  else (t, false)

def pause (t : Trace) (host : Host) (time : Float) : Trace × Bool :=
  ({ t with pauses := t.pauses.push time }, host.interruptsPause t.pauses.size)

def read (t : Trace) (host : Host) : Except Number.Failure Float × Trace :=
  (host.clock t.readings, { t with readings := t.readings + 1 })

end Trace

namespace Session

def paused (s : Session) (steps : Nat) (hz : Int) : Session := s.notify (.paused steps hz)

def close (s : Session) (host : Host) (hz : Int) (steps : Nat) (t : Trace) : SpeedRun :=
  match t.draw host s with
  | (t, true) => ⟨s.paused steps hz, t, .paused⟩
  | (t, false) => ⟨s, t, .stopped⟩

def frames (host : Host) (hz : Int) (interval : Float) (limit : Option Nat) :
    Nat → Nat → Session → Trace → SpeedRun
  | 0, _, s, t => ⟨s, t, .abandoned⟩
  | patience + 1, steps, s, t =>
    match t.read host with
    | (.error why, t) => ⟨s, t, .failed why⟩
    | (.ok start, t) =>
      let f := s.frame hz limit steps
      match f.sequel with
      | .ended => f.session.close host hz f.steps t
      | sequel =>
        match t.draw host f.session with
        | (t, true) => ⟨f.session.paused f.steps hz, t, .paused⟩
        | (t, false) =>
          if sequel = .limitReached then
            (f.session.notify (.stepLimit f.steps)).close host hz f.steps t
          else
            match t.read host with
            | (.error why, t) => ⟨f.session, t, .failed why⟩
            | (.ok now, t) =>
              let left := interval - (now - start)
              if 0 < left then
                match t.pause host left with
                | (t, true) => ⟨f.session.paused f.steps hz, t, .paused⟩
                | (t, false) => frames host hz interval limit patience f.steps f.session t
              else frames host hz interval limit patience f.steps f.session t

/-- Runs at a clock rate until something stops the program, the limit is reached or the user
interrupts. Every frame but the last has at least one step, so a limit bounds their number. -/
def runAtSpeed (s : Session) (host : Host) (hz : Int) (limit : Option Nat) (t : Trace) :
    SpeedRun :=
  match blocked? s.machine with
  | some reason => ⟨s.notify reason, t, .stopped⟩
  | none =>
    let s := { s with hz }
    match frameInterval hz with
    | .error why => ⟨s, t, .failed why⟩
    | .ok interval =>
      let patience := match limit with
        | some n => n + 1
        | none => host.patience
      frames host hz interval limit patience 0 s t

end Session

end Chip8.Debugger
