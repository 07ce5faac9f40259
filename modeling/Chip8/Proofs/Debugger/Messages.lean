import Chip8.Debugger.Notice
import Chip8.Proofs.Machine.Refusal
import Chip8.Surface.Display

namespace Chip8.Debugger

/-- The reason of a halt, told: the machine stands at a zero word, or at an instruction that is
refused for a fault. -/
inductive TellsHalt (m : Machine Display) : Notice → Prop where
  | zeroWord (h : m.fetch = .ok 0) : TellsHalt m (.zeroWord m.pc)
  | failed (fault : Fault) (h : m.fetch ≠ .ok 0) (hf : m.stepRefusal? = some fault) :
    TellsHalt m (.failed m.pc fault)

/-- The reason of a halt as the user reads it. -/
inductive ShowsHalt (m : Machine Display) : String → Prop where
  | zeroWord (h : m.fetch = .ok 0) :
    ShowsHalt m s!"CPU halted at {Text.address m.pc} (zero opcode)."
  | failed (fault : Fault) (h : m.fetch ≠ .ok 0) (hf : m.stepRefusal? = some fault) :
    ShowsHalt m s!"Error at {Text.address m.pc}: {fault.message}"

theorem TellsHalt.shows {m : Machine Display} {notice : Notice} (h : TellsHalt m notice) :
    ShowsHalt m notice.text := by
  cases h with
  | zeroWord h => exact .zeroWord h
  | failed fault h hf => exact .failed fault h hf

def Tally.count : Tally → Nat
  | cycles n => n
  | steps n _ => n

/-- The number of instructions that the last notice of a run says it has had. -/
def Notice.count? : Notice → Option Int
  | waitingAfter _ tally | breakpointHit _ tally => some tally.count
  | cycleLimit n => some n
  | stepLimit n | paused n _ => some n
  | _ => none

/-- A number of instructions as the user reads it. -/
inductive ShowsCount (n : Int) : String → Prop where
  | waiting (x : Fin 16) :
    ShowsCount n s!"Waiting for key into V{Text.hex 1 x.val} (use 'k <key>'). Ran {n} cycles."
  | waitingAt (x : Fin 16) :
    ShowsCount n s!"Waiting for key into V{Text.hex 1 x.val} (use 'k <key>'). Ran {n} steps."
  | breakpoint (pc : Int) : ShowsCount n s!"Breakpoint hit at {Text.address pc} (ran {n} cycles)"
  | breakpointAt (pc hz : Int) :
    ShowsCount n s!"Breakpoint hit at {Text.address pc} (ran {n} steps at {hz} Hz)"
  | cycleLimit : ShowsCount n s!"Stopped after {n} cycles (limit reached)."
  | stepLimit : ShowsCount n s!"Stopped after {n} steps (limit reached)."
  | paused (hz : Int) : ShowsCount n s!"Paused after {n} steps at {hz} Hz."

namespace Notice

theorem text_waitingAfter (x : Fin 16) (tally : Tally) (n : Nat) (unit told : String)
    (h : tally.text = toString n ++ unit) (hn : unit ++ "." = told) :
    (waitingAfter x tally).text =
      s!"Waiting for key into V{Text.hex 1 x.val} (use 'k <key>'). Ran {n}{told}" := by
  have hjoined : " (use 'k <key>')." ++ " Ran " = " (use 'k <key>'). Ran " := by decide +kernel
  change "Waiting for key into V" ++ Text.hex 1 x.val ++ " (use 'k <key>')." ++ " Ran " ++
    tally.text ++ "." = "Waiting for key into V" ++ Text.hex 1 x.val ++
      " (use 'k <key>'). Ran " ++ toString n ++ told
  rw [h, ← hjoined, ← hn]
  simp only [String.append_assoc]

theorem text_breakpointHit (pc : Int) (n : Nat) :
    (breakpointHit pc (.cycles n)).text =
      s!"Breakpoint hit at {Text.address pc} (ran {n} cycles)" := by
  have hjoined : " cycles" ++ "" ++ ")" = " cycles)" := by decide +kernel
  change "Breakpoint hit at " ++ Text.address pc ++ " (ran " ++ (toString n ++ " cycles") ++ "" ++ ")" =
    "Breakpoint hit at " ++ Text.address pc ++ " (ran " ++ toString n ++ " cycles)"
  rw [← hjoined]
  simp only [String.append_assoc]

theorem text_breakpointHit_at (pc : Int) (n : Nat) (hz : Int) :
    (breakpointHit pc (.steps n hz)).text =
      s!"Breakpoint hit at {Text.address pc} (ran {n} steps at {hz} Hz)" := by
  have hjoined : " steps" ++ " at " = " steps at " := by decide +kernel
  have hend : " Hz" ++ ")" = " Hz)" := by decide +kernel
  change "Breakpoint hit at " ++ Text.address pc ++ " (ran " ++ (toString n ++ " steps") ++
      (" at " ++ toString hz ++ " Hz") ++ ")" =
    "Breakpoint hit at " ++ Text.address pc ++ " (ran " ++ toString n ++ " steps at " ++
      toString hz ++ " Hz)"
  rw [← hjoined, ← hend]
  simp only [String.append_assoc]

theorem showsCount (notice : Notice) (n : Int) (h : notice.count? = some n) :
    ShowsCount n notice.text := by
  cases notice with
  | waitingAfter x tally =>
    obtain rfl := Option.some.inj h
    cases tally with
    | cycles n =>
      rw [text_waitingAfter x (.cycles n) n " cycles" " cycles." rfl (by decide +kernel)]
      exact .waiting x
    | steps n hz =>
      rw [text_waitingAfter x (.steps n hz) n " steps" " steps." rfl (by decide +kernel)]
      exact .waitingAt x
  | breakpointHit pc tally =>
    obtain rfl := Option.some.inj h
    cases tally with
    | cycles n =>
      rw [text_breakpointHit]
      exact .breakpoint pc
    | steps n hz =>
      rw [text_breakpointHit_at]
      exact .breakpointAt pc hz
  | cycleLimit limit =>
    obtain rfl := Option.some.inj h
    exact .cycleLimit
  | stepLimit steps =>
    obtain rfl := Option.some.inj h
    exact .stepLimit
  | paused steps hz =>
    obtain rfl := Option.some.inj h
    exact .paused hz
  | _ => cases h

end Notice

end Chip8.Debugger
