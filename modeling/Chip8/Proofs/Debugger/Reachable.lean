import Chip8.Proofs.Debugger.Turns
import Chip8.Proofs.Machine.Bounds

namespace Chip8.Debugger.Session

/-- A property of machines that neither an event nor a halt takes from them. -/
structure Lasting (P : Machine Display → Prop) : Prop where
  after : ∀ m event, P m → P (m.after event)
  halted : ∀ m, P m → P { m with halted := true }

namespace Lasting

variable {P : Machine Display → Prop} {s s' : Session}

theorem advance (k : Lasting P) (s : Session) (h : P s.machine) : P s.advance.2.machine := by
  have hstep := k.after s.machine .step h
  unfold Session.advance
  cases blocked? s.machine with
  | some reason => exact h
  | none =>
    cases s.machine.fetch with
    | error fault => exact k.halted _ h
    | ok w =>
      by_cases hw : w = 0
      · simp only [hw, if_true]
        exact k.halted _ h
      · simp only [hw, if_false]
        cases hs : s.machine.step with
        | error fault m =>
          rw [Machine.after, hs] at hstep
          exact k.halted _ hstep
        | ok answer m =>
          rw [Machine.after, hs] at hstep
          dsimp only [count]
          split
          · exact k.after _ .tick hstep
          · exact hstep

theorem rests (k : Lasting P) (h : s.Rests s') (hs : P s.machine) : P s'.machine := by
  obtain ⟨events, -, hm⟩ := h.machine
  rw [hm]
  exact Machine.afterAll_induction P k.after _ events hs

theorem course (k : Lasting P) {es : List Session} (h : Course s es s') (hs : P s.machine) :
    P s'.machine := by
  induction h with
  | rest h => exact k.rests h hs
  | turn h hb hc ih => exact ih (k.advance _ (k.rests h hs))

end Lasting

/-- The sessions that one may come to: opened on a machine that has gone through any events since it
was made, and then driven by commands, or by letting the program go on. -/
inductive Reachable : Session → Prop where
  | opened (width height : Nat) (hw : 0 < width) (hh : 0 < height) (random : RandomSource)
    (events : List Chip8.Event) (s : Session)
    (hm : s.machine =
      ({ surface := .blank width height hw hh, random } : Machine Display).afterAll events) :
    Reachable s
  | command {s : Session} (hs : Reachable s) (host : Host) (t : Trace) (line : String) :
    Reachable (s.command host t line).2.session
  | leg {s : Session} (hs : Reachable s) (l : Leg) : Reachable (s.leg l)

namespace Reachable

variable {s : Session}

theorem machine {P : Machine Display → Prop} (k : Lasting P)
    (hnew : ∀ width height hw hh random, P { surface := .blank width height hw hh, random })
    (h : s.Reachable) : P s.machine := by
  induction h with
  | opened width height hw hh random events s hm =>
    rw [hm]
    exact Machine.afterAll_induction P k.after _ events (hnew width height hw hh random)
  | command hs host t line ih => exact k.course (command_course _ host t line) ih
  | leg hs l ih =>
    obtain ⟨es, hc⟩ := leg_course _ l
    exact k.course hc ih

theorem inRange (h : s.Reachable) : s.machine.registers.InRange :=
  h.machine ⟨Machine.after_inRange, fun _ h => h⟩ fun _ _ _ _ _ => Registers.InRange.initial

end Reachable

end Chip8.Debugger.Session
