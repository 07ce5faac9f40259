import Chip8.Proofs.Machine.Flow

namespace Chip8

/-- The events that leave a machine to its program: nobody reaches into its registers, its memory or
its key wait, but programs are loaded, time goes on and keys go down and up. -/
def Event.handsOff : Event → Bool
  | .loadProgram _ | .step | .run _ _ | .tick | .pressKey _ | .releaseKey _ => true
  | _ => false

/-- An instruction as it was executed: between which machines, and the word that encodes it. -/
structure Executed (σ : Type) where
  before : Machine σ
  word : Word
  after : Machine σ

namespace Machine

variable {σ : Type}

/-- Nothing has been executed between two machines: the program is where it was. -/
structure Rests (m m' : Machine σ) : Prop where
  pc : m'.registers.pc = m.registers.pc
  stack : m'.registers.stack = m.registers.stack
  cycles : m'.cycles = m.cycles

theorem Rests.of_registers {m m' : Machine σ} (hr : m'.registers = m.registers)
    (hc : m'.cycles = m.cycles) : m.Rests m' :=
  ⟨by rw [hr], by rw [hr], hc⟩

theorem loadProgram_rests (m : Machine σ) (data : List UInt8) :
    m.Rests (left (m.loadProgram data)) := by
  refine .of_registers (loadProgram_registers m data) ?_
  unfold loadProgram
  split <;> rfl

variable [Surface σ]

def stepLog (m : Machine σ) : List (Executed σ) :=
  match m.step with
  | .ok true after =>
    match m.fetch with
    | .ok word => [⟨m, word, after⟩]
    | .error _ => []
  | _ => []

def runLog (stopAtZero : Bool) : Nat → Machine σ → List (Executed σ)
  | 0, _ => []
  | limit + 1, m =>
    if m.halted then []
    else
      match m.mode with
      | .awaitingKey _ => []
      | .running =>
        match m.runStep stopAtZero with
        | .ok true after => m.stepLog ++ runLog stopAtZero limit after
        | _ => []

def eventLog (m : Machine σ) : Event → List (Executed σ)
  | .step => m.stepLog
  | .run stopAtZero limit => m.runLog stopAtZero limit.toNat
  | .execute word =>
    match m.execute word with
    | .ok _ after => [⟨m, .ofInt word, after⟩]
    | .error _ _ => []
  | _ => []

def log (m : Machine σ) : List Event → List (Executed σ)
  | [] => []
  | event :: events => m.eventLog event ++ (m.after event).log events

theorem stepLog_of_ok (m m' : Machine σ) (w : Word) (hf : m.fetch = .ok w)
    (hs : m.step = .ok true m') : m.stepLog = [⟨m, w, m'⟩] := by
  simp only [stepLog, hf, hs]

theorem fetch_of_step (m m' : Machine σ) (hs : m.step = .ok true m') : ∃ w, m.fetch = .ok w := by
  cases hm : m.mode with
  | awaitingKey x => simp [step, hm] at hs
  | running =>
    obtain ⟨w, -, -, -, hw, -⟩ := step_ok m m' true hm hs
    exact ⟨w, hw⟩

theorem executed_of_mem_stepLog (m : Machine σ) (e : Executed σ) (he : e ∈ m.stepLog) :
    e.before = m ∧ left m.step = e.after ∧
      ∃ n, m.executeWord e.word = .ok () n ∧ e.after.registers = n.registers := by
  cases hs : m.step with
  | error fault m' => simp [stepLog, hs] at he
  | ok answer m' =>
    cases answer with
    | false => simp [stepLog, hs] at he
    | true =>
      obtain ⟨w, hf⟩ := fetch_of_step m m' hs
      rw [stepLog_of_ok m m' w hf hs, List.mem_singleton] at he
      subst he
      refine ⟨rfl, rfl, ?_⟩
      cases hm : m.mode with
      | awaitingKey x => simp [step, hm] at hs
      | running =>
        cases hx : m.executeWord w with
        | error fault n => simp [step, hm, hf, hx] at hs
        | ok done n =>
          simp only [step, hm, hf, hx, EStateM.Result.ok.injEq, true_and] at hs
          exact ⟨n, rfl, by rw [← hs]⟩

theorem step_error_rests (m m' : Machine σ) (fault : Fault) (h : m.step = .error fault m') :
    m.Rests m' := by
  obtain ⟨-, rfl | ⟨x, rfl⟩⟩ := step_error m m' fault h
  · exact .of_registers rfl rfl
  · exact .of_registers rfl rfl

theorem step_false_rests (m m' : Machine σ) (h : m.step = .ok false m') : m.Rests m' := by
  cases hm : m.mode with
  | awaitingKey x =>
    simp only [step, hm, EStateM.Result.ok.injEq, true_and] at h
    rw [← h]
    exact .of_registers rfl rfl
  | running =>
    obtain ⟨-, -, -, -, -, -, -, ha, -⟩ := step_ok m m' false hm h
    exact absurd ha Bool.false_ne_true

theorem pressKey_rests (m : Machine σ) (code : Int) : m.Rests (m.pressKey code) := by
  unfold pressKey
  split
  · exact ⟨rfl, rfl, rfl⟩
  · exact ⟨rfl, rfl, rfl⟩

theorem runStep_error_rests (m m' : Machine σ) (stopAtZero : Bool) (fault : Fault)
    (h : m.runStep stopAtZero = .error fault m') : m.Rests m' := by
  cases stopAtZero with
  | false => exact step_error_rests m m' fault h
  | true =>
    cases hf : m.fetch with
    | error cause =>
      simp only [runStep, hf, if_true, EStateM.Result.error.injEq] at h
      rw [← h.2]
      exact .of_registers rfl rfl
    | ok w =>
      by_cases hw : w = 0
      · simp [runStep, hf, hw] at h
      · simp only [runStep, hf, if_neg hw, if_true] at h
        exact step_error_rests m m' fault h

/-- Whatever executions keep, the machines in a log have: each has executed the word beside it. -/
theorem Kept.runLog {P : Machine σ → Prop} (k : Kept P) (stopAtZero : Bool) (limit : Nat)
    (m : Machine σ) (h : P m) (e : Executed σ) (he : e ∈ m.runLog stopAtZero limit) :
    P e.before ∧ P e.after ∧
      ∃ n, e.before.executeWord e.word = .ok () n ∧ e.after.registers = n.registers := by
  induction limit generalizing m with
  | zero => exact absurd he List.not_mem_nil
  | succ limit ih =>
    simp only [Machine.runLog] at he
    cases hh : m.halted with
    | true => simp [hh] at he
    | false =>
      cases hm : m.mode with
      | awaitingKey x => simp [hh, hm] at he
      | running =>
        have hs := k.runStep m stopAtZero h
        cases hr : m.runStep stopAtZero with
        | error fault n => simp [hh, hm, hr] at he
        | ok goesOn n =>
          rw [hr, left_ok] at hs
          cases goesOn with
          | false => simp [hh, hm, hr] at he
          | true =>
            simp only [hh, hm, hr, Bool.false_eq_true, if_false, List.mem_append] at he
            rcases he with he | he
            · obtain ⟨rfl, hleft, hx⟩ := executed_of_mem_stepLog m e he
              exact ⟨h, hleft ▸ k.step _ h, hx⟩
            · exact ih n hs he

theorem Kept.eventLog {P : Machine σ → Prop} (k : Kept P) (m : Machine σ) (event : Event)
    (h : P m) (e : Executed σ) (he : e ∈ m.eventLog event) :
    P e.before ∧ P e.after ∧
      ∃ n, e.before.executeWord e.word = .ok () n ∧ e.after.registers = n.registers := by
  cases event with
  | step =>
    obtain ⟨rfl, hleft, hx⟩ := executed_of_mem_stepLog m e he
    exact ⟨h, hleft ▸ k.step _ h, hx⟩
  | run stopAtZero limit => exact k.runLog stopAtZero limit.toNat m h e he
  | execute word =>
    have hk := k.executeWord m (.ofInt word) h
    cases hx : m.execute word with
    | error fault n => simp [Machine.eventLog, hx] at he
    | ok done n =>
      simp only [Machine.eventLog, hx, List.mem_singleton] at he
      rw [← execute, hx, left_ok] at hk
      subst he
      exact ⟨h, hk, n, hx, rfl⟩
  | _ => exact absurd he List.not_mem_nil

/-- A property of a log and the machine that it ends with: every instruction keeps it, and so does
all that lets the program rest. -/
structure Logged (P : List (Executed σ) → Machine σ → Prop) : Prop where
  step : ∀ seen m w m', m.fetch = .ok w → m.step = .ok true m' → P seen m →
    P (seen ++ [⟨m, w, m'⟩]) m'
  rest : ∀ seen m m', m.Rests m' → P seen m → P seen m'

namespace Logged

variable {P : List (Executed σ) → Machine σ → Prop}

theorem stepLog (k : Logged P) (seen : List (Executed σ)) (m : Machine σ) (h : P seen m) :
    P (seen ++ m.stepLog) (left m.step) := by
  cases hs : m.step with
  | error fault m' =>
    have hlog : m.stepLog = [] := by simp only [Machine.stepLog, hs]
    rw [hlog, List.append_nil]
    exact k.rest seen m m' (step_error_rests m m' fault hs) h
  | ok answer m' =>
    cases answer with
    | true =>
      obtain ⟨w, hf⟩ := fetch_of_step m m' hs
      rw [stepLog_of_ok m m' w hf hs]
      exact k.step seen m w m' hf hs h
    | false =>
      have hlog : m.stepLog = [] := by simp only [Machine.stepLog, hs]
      rw [hlog, List.append_nil]
      exact k.rest seen m m' (step_false_rests m m' hs) h

theorem runLog (k : Logged P) (stopAtZero : Bool) (executed limit : Nat)
    (seen : List (Executed σ)) (m : Machine σ) (h : P seen m) :
    P (seen ++ m.runLog stopAtZero limit) (left (m.runFrom stopAtZero executed limit)) := by
  induction limit generalizing executed seen m with
  | zero => simpa [Machine.runLog, runFrom] using h
  | succ limit ih =>
    simp only [Machine.runLog, runFrom]
    cases hh : m.halted with
    | true => simpa using h
    | false =>
      cases hm : m.mode with
      | awaitingKey x => simpa using h
      | running =>
        rcases runStep_cases m stopAtZero hm with
          ⟨fault, m', hr, -⟩ | ⟨-, -, hr⟩ | ⟨m', hr, hs, -⟩
        · have hk := k.rest seen m m' (runStep_error_rests m m' stopAtZero fault hr) h
          simpa [hr] using hk
        · have hk := k.rest seen m { m with halted := true } (.of_registers rfl rfl) h
          simpa [hr] using hk
        · have hk := k.stepLog seen m h
          rw [hs, left_ok] at hk
          have hi := ih (executed + 1) _ m' hk
          simpa [hr] using hi

theorem eventLog (k : Logged P) (seen : List (Executed σ)) (m : Machine σ) (event : Event)
    (he : event.handsOff) (h : P seen m) : P (seen ++ m.eventLog event) (m.after event) := by
  have hquiet (m' : Machine σ) (hr : m.Rests m') : P (seen ++ []) m' := by
    rw [List.append_nil]
    exact k.rest seen m m' hr h
  cases event with
  | step => exact k.stepLog seen m h
  | run stopAtZero limit => exact k.runLog stopAtZero 0 limit.toNat seen m h
  | loadProgram data => exact hquiet _ (loadProgram_rests m data)
  | tick => exact hquiet _ ⟨rfl, rfl, rfl⟩
  | pressKey code => exact hquiet _ (pressKey_rests m code)
  | releaseKey code => exact hquiet _ (.of_registers rfl rfl)
  | _ => exact absurd he Bool.false_ne_true

theorem log (k : Logged P) (seen : List (Executed σ)) (m : Machine σ) (events : List Event)
    (he : ∀ event ∈ events, event.handsOff) (h : P seen m) :
    P (seen ++ m.log events) (m.afterAll events) := by
  induction events generalizing seen m with
  | nil =>
    rw [Machine.log, List.append_nil]
    exact h
  | cons event events ih =>
    have hone := k.eventLog seen m event (he event List.mem_cons_self) h
    have hrest := ih _ (m.after event) (fun e hm => he e (List.mem_cons_of_mem event hm)) hone
    rw [List.append_assoc] at hrest
    exact hrest

end Logged

theorem logged_cycles (start : Nat) :
    Logged fun seen (m : Machine σ) => m.cycles = start + seen.length where
  step seen m w m' hf hs h := by
    obtain ⟨-, -, -, -, -, hc⟩ := step_flow m m' w hf hs
    rw [hc, h, List.length_append, List.length_singleton, Nat.add_assoc]
  rest seen m m' hr h := hr.cycles.trans h

/-- The log leaves nothing out: it has as many instructions as cycles have been counted. -/
theorem length_log (m : Machine σ) (events : List Event)
    (he : ∀ event ∈ events, event.handsOff) :
    (m.afterAll events).cycles = m.cycles + (m.log events).length :=
  (logged_cycles m.cycles).log [] m events he rfl

end Machine

end Chip8
