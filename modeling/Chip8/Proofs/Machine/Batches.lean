import Chip8.Proofs.Machine.Flow
import Chip8.Surface.Display

namespace Chip8.Machine

section

variable {σ : Type}

def counted (executed : Nat) : Outcome σ Nat → Outcome σ Nat
  | .ok more m => .ok (executed + more) m
  | .error fault m => .error fault m

@[simp] theorem counted_ok (executed more : Nat) (m : Machine σ) :
    counted executed (.ok more m) = .ok (executed + more) m := rfl

@[simp] theorem counted_error (executed : Nat) (fault : Fault) (m : Machine σ) :
    counted executed (.error fault m) = .error fault m := rfl

@[simp] theorem counted_zero (r : Outcome σ Nat) : counted 0 r = r := by
  cases r with
  | ok more m => rw [counted_ok, Nat.zero_add]
  | error fault m => rfl

@[simp] theorem counted_counted (p q : Nat) (r : Outcome σ Nat) :
    counted p (counted q r) = counted (p + q) r := by
  cases r with
  | ok more m => rw [counted_ok, counted_ok, counted_ok, Nat.add_assoc]
  | error fault m => rfl

theorem counted_eq_error_iff {executed : Nat} {r : Outcome σ Nat} {fault : Fault} {m : Machine σ} :
    counted executed r = .error fault m ↔ r = .error fault m := by
  cases r <;> simp

theorem counted_eq_ok_iff {executed sum : Nat} {r : Outcome σ Nat} {m : Machine σ} :
    counted executed r = .ok sum m ↔ ∃ more, r = .ok more m ∧ executed + more = sum := by
  cases r with
  | ok more n =>
    rw [counted_ok, EStateM.Result.ok.injEq]
    constructor
    · rintro ⟨hsum, rfl⟩
      exact ⟨more, rfl, hsum⟩
    · rintro ⟨more', h, hsum⟩
      cases h
      exact ⟨hsum, rfl⟩
  | error fault n => simp

@[simp] theorem left_counted (executed : Nat) (r : Outcome σ Nat) :
    left (counted executed r) = left r := by
  cases r <;> rfl

end

variable {σ : Type} [Surface σ]

theorem runFrom_of_halted (m : Machine σ) (stopAtZero : Bool) (executed limit : Nat)
    (hh : m.halted = true) : m.runFrom stopAtZero executed limit = .ok executed m := by
  cases limit with
  | zero => rfl
  | succ limit => rw [runFrom, if_pos hh]

theorem runFrom_eq_counted (m : Machine σ) (stopAtZero : Bool) (executed limit : Nat) :
    m.runFrom stopAtZero executed limit = counted executed (m.run stopAtZero limit) := by
  unfold run
  induction limit generalizing executed m with
  | zero => rfl
  | succ limit ih =>
    by_cases hh : m.halted = true
    · rw [runFrom_of_halted m _ _ _ hh, runFrom_of_halted m _ _ _ hh]
      rfl
    by_cases hm : m.mode = .running
    · simp only [runFrom, hh, hm, Bool.false_eq_true, if_false]
      obtain ⟨fault, n, hr, -⟩ | ⟨-, -, hr⟩ | ⟨n, hr, -⟩ := runStep_cases m stopAtZero hm
      · simp only [hr, counted_error]
      · simp only [hr, counted_ok, Nat.add_zero]
      · simp only [hr]
        rw [ih n (executed + 1), ih n (0 + 1), counted_counted, Nat.zero_add]
    · rw [runFrom_of_waiting m _ _ _ hm, runFrom_of_waiting m _ _ _ hm]
      rfl

theorem run_of_fails (m n : Machine σ) (stopAtZero : Bool) (fault : Fault)
    (running : m.halted = false ∧ m.mode = .running)
    (step : m.runStep stopAtZero = .error fault n) (limit : Nat) :
    m.run stopAtZero (limit + 1) = .error fault n := by
  simp [run, runFrom, running, step]

theorem run_of_goesOn (m n : Machine σ) (stopAtZero : Bool)
    (running : m.halted = false ∧ m.mode = .running)
    (step : m.runStep stopAtZero = .ok true n) (limit : Nat) :
    m.run stopAtZero (limit + 1) = counted 1 (n.run stopAtZero limit) := by
  rw [← runFrom_eq_counted]
  simp [run, runFrom, running, step]

theorem run_of_zero (m : Machine σ) (running : m.halted = false ∧ m.mode = .running)
    (fetch : m.fetch = .ok 0) (limit : Nat) :
    m.run true (limit + 1) = .ok 0 { m with halted := true } ∧
      m.run false (limit + 1) = .error (.unknownOpcode 0) m := by
  have hstep := m.step_of_zero running.2 fetch
  constructor <;> simp [run, runFrom, runStep, running, fetch, hstep]

/-- What the first round of a run comes to, and with it the run: the machine stands still, fails,
halts at a zero word, or goes on with an instruction less. -/
inductive Round (m : Machine σ) (stopAtZero : Bool) : Prop where
  | stands (stopped : m.halted = true ∨ ∃ x, m.mode = .awaitingKey x)
      (run : ∀ limit, m.run stopAtZero limit = .ok 0 m)
  | fails (running : m.halted = false ∧ m.mode = .running) (fault : Fault) (n : Machine σ)
      (step : m.runStep stopAtZero = .error fault n) (halted : n.halted = false)
      (run : ∀ limit, m.run stopAtZero (limit + 1) = .error fault n)
  | halts (running : m.halted = false ∧ m.mode = .running) (stops : stopAtZero = true)
      (fetch : m.fetch = .ok 0)
      (run : ∀ limit, m.run stopAtZero (limit + 1) = .ok 0 { m with halted := true })
  | goesOn (running : m.halted = false ∧ m.mode = .running) (n : Machine σ)
      (step : m.runStep stopAtZero = .ok true n) (halted : n.halted = false)
      (cycles : n.cycles = m.cycles + 1)
      (run : ∀ limit, m.run stopAtZero (limit + 1) = counted 1 (n.run stopAtZero limit))

theorem round (m : Machine σ) (stopAtZero : Bool) : m.Round stopAtZero := by
  cases hh : m.halted with
  | true => exact .stands (Or.inl hh) fun limit => runFrom_of_halted m _ _ _ hh
  | false =>
    cases hm : m.mode with
    | awaitingKey x =>
      refine .stands (Or.inr ⟨x, hm⟩) fun limit => runFrom_of_waiting m _ _ _ ?_
      rw [hm]
      exact Mode.noConfusion
    | running =>
      have hrunning : m.halted = false ∧ m.mode = .running := ⟨hh, hm⟩
      obtain ⟨fault, n, hr, -, hn, -⟩ | ⟨rfl, hf, -⟩ | ⟨n, hr, -, hn, hc⟩ :=
        runStep_cases m stopAtZero hm
      · exact .fails hrunning fault n hr (hn.trans hh) (m.run_of_fails n _ fault hrunning hr)
      · exact .halts hrunning rfl hf fun limit => (m.run_of_zero hrunning hf limit).1
      · exact .goesOn hrunning n hr (hn.trans hh) hc (m.run_of_goesOn n _ hrunning hr)

def thenRun (stopAtZero : Bool) (limit : Nat) : Outcome σ Nat → Outcome σ Nat
  | .ok executed m => counted executed (m.run stopAtZero limit)
  | .error fault m => .error fault m

theorem thenRun_counted (stopAtZero : Bool) (limit executed : Nat) (r : Outcome σ Nat) :
    thenRun stopAtZero limit (counted executed r) =
      counted executed (thenRun stopAtZero limit r) := by
  cases r with
  | ok more m => simp only [counted_ok, thenRun, counted_counted]
  | error fault m => rfl

/-- A run may be interrupted anywhere: before a zero word, at the word that fails, or at a wait. -/
theorem run_add (m : Machine σ) (stopAtZero : Bool) (a b : Nat) :
    m.run stopAtZero (a + b) = thenRun stopAtZero b (m.run stopAtZero a) := by
  induction a generalizing m with
  | zero =>
    rw [Nat.zero_add]
    exact (counted_zero _).symm
  | succ a ih =>
    rw [Nat.add_right_comm]
    cases m.round stopAtZero with
    | stands _ run => rw [run, run, thenRun, run, counted_zero]
    | fails _ fault n _ _ run => rw [run, run, thenRun]
    | halts _ _ _ run =>
      rw [run, run, thenRun, counted_zero]
      exact (runFrom_of_halted _ _ _ _ rfl).symm
    | goesOn _ n _ _ _ run => rw [run, run, ih, thenRun_counted]

theorem run_pieces (m : Machine σ) (stopAtZero : Bool) (limit : Nat) (limits : List Nat) :
    limits.foldl (fun r more => thenRun stopAtZero more r) (m.run stopAtZero limit) =
      m.run stopAtZero (limits.foldl (· + ·) limit) := by
  induction limits generalizing limit with
  | nil => rfl
  | cons next limits ih => rw [List.foldl_cons, List.foldl_cons, ← run_add, ih]

/-- What the answer of a run tells: how many cycles have been counted, and that the machine stopped
by itself if there are less of them than there might have been. -/
structure Tally (m : Machine σ) (limit executed : Nat) (n : Machine σ) : Prop where
  cycles : n.cycles = m.cycles + executed
  le : executed ≤ limit
  stopped : executed < limit → n.halted = true ∨ ∃ x, n.mode = .awaitingKey x

theorem run_tally (m n : Machine σ) (stopAtZero : Bool) (limit executed : Nat)
    (h : m.run stopAtZero limit = .ok executed n) : m.Tally limit executed n := by
  induction limit generalizing executed m with
  | zero =>
    obtain ⟨rfl, rfl⟩ := EStateM.Result.ok.inj h
    exact ⟨rfl, Nat.le_refl _, fun hlt => absurd hlt (Nat.lt_irrefl _)⟩
  | succ limit ih =>
    cases m.round stopAtZero with
    | stands stopped run =>
      rw [run, EStateM.Result.ok.injEq] at h
      obtain ⟨rfl, rfl⟩ := h
      exact ⟨rfl, Nat.zero_le _, fun _ => stopped⟩
    | fails _ fault n' _ _ run => simp [run] at h
    | halts _ _ _ run =>
      rw [run, EStateM.Result.ok.injEq] at h
      obtain ⟨rfl, rfl⟩ := h
      exact ⟨rfl, Nat.zero_le _, fun _ => Or.inl rfl⟩
    | goesOn _ m' _ _ hcycles run =>
      rw [run, counted_eq_ok_iff] at h
      obtain ⟨more, hmore, hsum⟩ := h
      have hrest := ih m' more hmore
      have hle := hrest.le
      refine ⟨?_, by omega, fun hlt => hrest.stopped (by omega)⟩
      rw [hrest.cycles, hcycles]
      omega

/-- A run in pieces is a run at once: the answers add up, and a piece fails where the run does. -/
structure RunsInPieces (m : Machine σ) (stopAtZero : Bool) : Prop where
  answers : ∀ a b executed k, m.run stopAtZero (a + b) = .ok executed k ↔
    ∃ p n q, m.run stopAtZero a = .ok p n ∧ n.run stopAtZero b = .ok q k ∧ p + q = executed
  fails : ∀ a b fault k, m.run stopAtZero (a + b) = .error fault k ↔
    m.run stopAtZero a = .error fault k ∨
      ∃ p n, m.run stopAtZero a = .ok p n ∧ n.run stopAtZero b = .error fault k
  pieces : ∀ limits : List Nat,
    limits.foldl (fun r limit => thenRun stopAtZero limit r) (.ok 0 m) =
      m.run stopAtZero (limits.foldl (· + ·) 0)
  tally : ∀ limit executed n, m.run stopAtZero limit = .ok executed n →
    m.Tally limit executed n

/-- Where a run is interrupted shows neither in the machine nor in what has been counted, and what
has been counted is what was executed. -/
theorem running_in_pieces (m : Machine σ) (stopAtZero : Bool) : m.RunsInPieces stopAtZero where
  answers a b executed k := by
    rw [run_add]
    cases ha : m.run stopAtZero a with
    | error cause n => simp [thenRun]
    | ok p n =>
      rw [thenRun, counted_eq_ok_iff]
      constructor
      · rintro ⟨q, hq, hsum⟩
        exact ⟨p, n, q, rfl, hq, hsum⟩
      · rintro ⟨p', n', q, h, hq, hsum⟩
        cases h
        exact ⟨q, hq, hsum⟩
  fails a b fault k := by
    rw [run_add]
    cases ha : m.run stopAtZero a with
    | error cause n => simp [thenRun]
    | ok p n =>
      rw [thenRun, counted_eq_error_iff]
      constructor
      · exact fun h => Or.inr ⟨p, n, rfl, h⟩
      · rintro (h | ⟨p', n', h, h'⟩)
        · cases h
        · cases h
          exact h'
  pieces limits := m.run_pieces stopAtZero 0 limits
  tally limit executed n h := m.run_tally n stopAtZero limit executed h

def oneInstruction : Machine Display where
  surface := .standard
  random := .zeros
  memory := .holding [0x6F, 0x02] (by decide)

def pastInstruction : Machine Display :=
  { (oneInstruction.mapRegisters fun r => r.set Registers.flag 2).setPc 0x202 with cycles := 1 }

theorem fetch_pastInstruction : pastInstruction.fetch = .ok 0 :=
  fetch_of_bytes _ 0 0 (by decide) (by decide +kernel)

theorem fetch_oneInstruction : oneInstruction.fetch = .ok 0x6F02 :=
  fetch_of_bytes _ 0x6F 0x02 (by decide) (by decide +kernel)

theorem run_oneInstruction (stopAtZero : Bool) :
    oneInstruction.run stopAtZero 1 = .ok 1 pastInstruction := by
  have hdecode : (0x6F02 : Word).decode? = some (.loadByte Registers.flag 2) := by decide
  have hstep : oneInstruction.step = .ok true pastInstruction := by
    simp only [step, fetch_oneInstruction, executeWord, hdecode, perform]
    rfl
  have hround := oneInstruction.runStep_of_ne_zero stopAtZero rfl (by simp [fetch_oneInstruction])
  rw [hstep] at hround
  simp only [run, runFrom, hround]
  rfl

/-- A zero word right behind the first of two pieces: it is not counted, and it fails in the second
piece where it does not halt. -/
theorem running_in_pieces_before_zero :
    (oneInstruction.RunsInPieces true ∧ oneInstruction.run true 4 =
      .ok 1 { pastInstruction with halted := true }) ∧
    oneInstruction.RunsInPieces false ∧
      oneInstruction.run false 4 = .error (.unknownOpcode 0) pastInstruction := by
  have hzero := pastInstruction.run_of_zero ⟨rfl, rfl⟩ fetch_pastInstruction 2
  have h : oneInstruction.RunsInPieces true := running_in_pieces oneInstruction true
  have h' : oneInstruction.RunsInPieces false := running_in_pieces oneInstruction false
  exact ⟨⟨h, (h.answers 1 3 1 _).mpr ⟨1, _, 0, run_oneInstruction true, hzero.1, rfl⟩⟩,
    h', (h'.fails 1 3 _ _).mpr (Or.inr ⟨1, _, run_oneInstruction false, hzero.2⟩)⟩

end Chip8.Machine
