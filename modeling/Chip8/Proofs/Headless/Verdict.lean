import Chip8.Proofs.Headless.Lockstep
import Chip8.Proofs.Headless.Stages

namespace Chip8.Headless

open Machine

namespace Stage

variable {σ : Type} [Surface σ]

/-- What is true of every stage that a run comes to: the cycles and what is left of the batch stay
within the limit, only a zero word has halted the machine, and only a machine below the limit has
failed. -/
def Sound (limits : Limits) : Stage σ → Prop
  | between m => m.cycles ≤ limits.maxCycles ∧
    (m.halted = true → m.mode = .running ∧ limits.stopAtZero = true ∧ m.fetch = .ok 0)
  | within left m => m.halted = false ∧ m.cycles + left ≤ limits.maxCycles
  | failed fault m => m.halted = false ∧ m.mode = .running ∧ m.cycles < limits.maxCycles ∧
    ∃ before : Machine σ, before.runStep limits.stopAtZero = .error fault m

theorem Sound.cycles_le {limits : Limits} {s : Stage σ} (h : s.Sound limits) :
    s.machine.cycles ≤ limits.maxCycles := by
  cases s with
  | between m => exact h.1
  | within left m => exact Nat.le_of_add_right_le h.2
  | failed fault m => exact Nat.le_of_lt h.2.2.1

theorem Sound.zero_of_halted {limits : Limits} {s : Stage σ} (h : s.Sound limits)
    (hhalted : s.finish.machine.halted = true) :
    limits.stopAtZero = true ∧ s.finish.machine.fetch = .ok 0 := by
  cases s with
  | between m => exact (h.2 hhalted).2
  | within left m => exact absurd (h.1.symm.trans hhalted) Bool.false_ne_true
  | failed fault m => exact absurd (h.1.symm.trans hhalted) Bool.false_ne_true

theorem Sound.step_of_fault {limits : Limits} {s : Stage σ} (h : s.Sound limits) (fault : Fault)
    (hfault : s.finish.fault = some fault) :
    ∃ before : Machine σ,
      before.runStep limits.stopAtZero = .error fault s.finish.machine := by
  cases s with
  | between m => cases hfault
  | within left m => cases hfault
  | failed cause m =>
    cases hfault
    exact h.2.2.2

theorem Sound.between_tick {limits : Limits} (m : Machine σ) (hh : m.halted = false)
    (hc : m.cycles ≤ limits.maxCycles) : (between m.tick).Sound limits :=
  ⟨hc, fun hhalted => absurd (hh.symm.trans hhalted) Bool.false_ne_true⟩

theorem Sound.ofStep {limits : Limits} (left : Nat) (m : Machine σ) (hh : m.halted = false)
    (hm : m.mode = .running) (hc : m.cycles + (left + 1) ≤ limits.maxCycles) :
    (ofStep left (m.runStep limits.stopAtZero)).Sound limits := by
  obtain ⟨fault, m', hr, hm', hh', hc'⟩ | ⟨hz, hf, hr⟩ | ⟨m', hr, -, hh', hc'⟩ :=
    runStep_cases m limits.stopAtZero hm
  · rw [hr]
    exact ⟨hh'.trans hh, hm', by omega, m, hr⟩
  · rw [hr]
    exact ⟨Nat.le_of_add_right_le hc, fun _ => ⟨hm, hz, hf⟩⟩
  · rw [hr]
    exact ⟨hh'.trans hh, by omega⟩

theorem Sound.next {limits : Limits} {s t : Stage σ} (h : s.Sound limits)
    (hnext : s.next? limits = some t) : t.Sound limits := by
  cases s with
  | between m =>
    rcases stopped_or_running limits m with hstop | ⟨hh, hm, hc⟩
    · rw [next?_of_stopped limits m hstop] at hnext
      cases hnext
    · rw [next?_of_running limits m hh hm hc] at hnext
      cases hnext
      exact ⟨hh, by omega⟩
  | within left m =>
    obtain ⟨hh, hc⟩ := h
    have hover := Sound.between_tick m hh (Nat.le_of_add_right_le hc)
    by_cases hm : m.mode = .running
    · cases left with
      | zero =>
        cases hnext
        exact hover
      | succ left =>
        rw [next?_within limits left m hh hm] at hnext
        cases hnext
        exact Sound.ofStep left m hh hm hc
    · rw [next?_within_of_stopped limits left m (Or.inr hm)] at hnext
      cases hnext
      exact hover
  | failed fault m => cases hnext

theorem Sound.leads {limits : Limits} {s t : Stage σ} (h : s.Sound limits)
    (hl : Leads limits s t) : t.Sound limits := by
  induction hl with
  | refl => exact h
  | step hnext _ ih => exact ih (h.next hnext)

end Stage

def reasons : List Reason := (List.finRange 16).map .waiting ++ [.halted, .failed, .limitReached]

theorem Reason.mem_reasons (r : Reason) : r ∈ reasons := by
  cases r <;> simp [reasons]

theorem Reason.text_inj (r r' : Reason) : r.text = r'.text ↔ r = r' := by
  have hall : ∀ r ∈ reasons, ∀ r' ∈ reasons, r.text = r'.text → r = r' := by decide +kernel
  exact ⟨hall r r.mem_reasons r' r'.mem_reasons, congrArg text⟩

/-- What a reason says about the end of a run. -/
def Reason.Applies {σ : Type} (limits : Limits) (f : Finish σ) : Reason → Prop
  | waiting x => f.machine.mode = .awaitingKey x
  | halted => f.machine.halted = true
  | failed => f.fault ≠ none
  | limitReached => f.machine.mode = .running ∧ f.machine.halted = false ∧
    f.machine.cycles = limits.maxCycles

/-- Why a run has ended, in the words that the user reads. -/
inductive Verdict {σ : Type} (limits : Limits) (f : Finish σ) : String → Prop where
  | waiting (x : Fin 16) (h : f.machine.mode = .awaitingKey x) :
    Verdict limits f s!"waiting for key into V{Text.hex 1 x.val}"
  | halted (h : f.machine.halted = true) : Verdict limits f "halted"
  | failed (h : f.fault ≠ none) : Verdict limits f "failed"
  | limitReached (hm : f.machine.mode = .running) (hh : f.machine.halted = false)
    (hc : f.machine.cycles = limits.maxCycles) : Verdict limits f "cycle limit reached"

theorem verdict_iff {σ : Type} (limits : Limits) (f : Finish σ) (text : String) :
    Verdict limits f text ↔ ∃ r : Reason, r.Applies limits f ∧ r.text = text := by
  constructor
  · rintro (⟨x, h⟩ | h | h | ⟨hm, hh, hc⟩)
    · exact ⟨.waiting x, h, rfl⟩
    · exact ⟨.halted, h, rfl⟩
    · exact ⟨.failed, h, rfl⟩
    · exact ⟨.limitReached, ⟨hm, hh, hc⟩, rfl⟩
  · rintro ⟨r, h, rfl⟩
    cases r with
    | waiting x => exact .waiting x h
    | halted => exact .halted h
    | failed => exact .failed h
    | limitReached => exact .limitReached h.1 h.2.1 h.2.2

/-- A machine that has not failed is waiting, halted or at the limit, and no two of them. -/
theorem Reason.applies_iff_of_stopped {σ : Type} [Surface σ] (limits : Limits) (m : Machine σ)
    (h : (Stage.between m).Sound limits)
    (hstop : m.halted = true ∨ m.mode ≠ .running ∨ limits.maxCycles ≤ m.cycles) (r : Reason) :
    r.Applies limits ⟨m, none⟩ ↔ r = Finish.reason ⟨m, none⟩ := by
  obtain ⟨hle, hzero⟩ := h
  cases hm : m.mode with
  | awaitingKey x =>
    -- Only a machine that runs can come to a zero word.
    have hh : m.halted = false := by
      apply Bool.eq_false_iff.mpr
      intro hh
      rw [(hzero hh).1] at hm
      cases hm
    have hreason : Finish.reason ⟨m, none⟩ = .waiting x := by
      simp only [Finish.reason, hm]
    rw [hreason]
    cases r <;> simp [Applies, hm, hh, eq_comm]
  | running =>
    cases hh : m.halted with
    | true =>
      have hreason : Finish.reason ⟨m, none⟩ = .halted := by
        simp [Finish.reason, hm, hh]
      rw [hreason]
      cases r <;> simp [Applies, hm, hh]
    | false =>
      have hc : m.cycles = limits.maxCycles := by
        rcases hstop with hh' | hm' | hc
        · exact absurd (hh.symm.trans hh') Bool.false_ne_true
        · exact absurd hm hm'
        · exact Nat.le_antisymm hle hc
      have hreason : Finish.reason ⟨m, none⟩ = .limitReached := by
        simp [Finish.reason, hm, hh]
      rw [hreason]
      cases r <;> simp [Applies, hm, hh, hc]

theorem Reason.applies_iff_of_failed {σ : Type} [Surface σ] (limits : Limits) (fault : Fault)
    (m : Machine σ) (h : (Stage.failed fault m).Sound limits) (r : Reason) :
    r.Applies limits ⟨m, some fault⟩ ↔ r = Finish.reason ⟨m, some fault⟩ := by
  obtain ⟨hh, hm, hc, -⟩ := h
  have hne : m.cycles ≠ limits.maxCycles := Nat.ne_of_lt hc
  have hreason : Finish.reason ⟨m, some fault⟩ = .failed := by
    simp [Finish.reason, hh, hm]
  rw [hreason]
  cases r <;> simp [Applies, hm, hh, hne]

/-- Where no loop goes on, the reason that is given is the only one that applies. -/
theorem Stage.Sound.applies_iff {σ : Type} [Surface σ] {limits : Limits} {s : Stage σ}
    (h : s.Sound limits) (hend : s.next? limits = none) (r : Reason) :
    r.Applies limits s.finish ↔ r = s.finish.reason := by
  cases s with
  | between m =>
    rcases stopped_or_running limits m with hstop | ⟨hh, hm, hc⟩
    · exact r.applies_iff_of_stopped limits m h hstop
    · rw [next?_of_running limits m hh hm hc] at hend
      cases hend
  | within left m =>
    -- In a batch there is always something left to do, be it a tick.
    cases left with
    | zero => cases hend
    | succ left =>
      simp only [next?] at hend
      split at hend <;> cases hend
  | failed fault m => exact r.applies_iff_of_failed limits fault m h

/-- A run comes to its end within its limit, and the reason that is given for it is true. -/
structure EndsTruthfully {σ : Type} [Surface σ] (limits : Limits) (m : Machine σ) : Prop where
  ends : ∃ s, Stage.Leads limits (.between m) s ∧ s.next? limits = none ∧
    s.finish = run limits m
  cycles_le : ∀ s, Stage.Leads limits (.between m) s → s.machine.cycles ≤ limits.maxCycles
  reason : ∀ r : Reason, r.Applies limits (run limits m) ↔ r.text = (run limits m).reason.text
  verdict : ∀ text, Verdict limits (run limits m) text ↔ text = (run limits m).reason.text
  halted : (run limits m).machine.halted = true →
    limits.stopAtZero = true ∧ (run limits m).machine.fetch = .ok 0
  failed : ∀ fault, (run limits m).fault = some fault → ∃ before : Machine σ,
    before.runStep limits.stopAtZero = .error fault (run limits m).machine

theorem endsTruthfully_of_fresh {σ : Type} [Surface σ] (limits : Limits)
    (hk : 0 < limits.cyclesPerTick) (m : Machine σ) (hh : m.halted = false) (hc : m.cycles = 0) :
    EndsTruthfully limits m := by
  have hsound : (Stage.between m).Sound limits :=
    ⟨by omega, fun h => absurd (hh.symm.trans h) Bool.false_ne_true⟩
  obtain ⟨s, hleads, hend, hfinish⟩ :=
    Stage.leads_batches limits hk (limits.maxCycles - m.cycles) m (Or.inr (Nat.le_refl _))
  change s.finish = run limits m at hfinish
  have hs := hsound.leads hleads
  refine ⟨⟨s, hleads, hend, hfinish⟩, ?_, ?_, ?_, ?_, ?_⟩
  · intro t ht
    exact (hsound.leads ht).cycles_le
  · intro r
    rw [← hfinish, Reason.text_inj]
    exact hs.applies_iff hend r
  · intro text
    rw [← hfinish, verdict_iff]
    simp only [hs.applies_iff hend, exists_eq_left, eq_comm]
  · rw [← hfinish]
    exact hs.zero_of_halted
  · rw [← hfinish]
    exact hs.step_of_fault

theorem EndsTruthfully.exitCode_eq {σ : Type} [Surface σ] {limits : Limits} {m : Machine σ}
    (h : EndsTruthfully limits m) :
    (run limits m).exitCode = if (run limits m).reason = .failed then 1 else 0 := by
  have hfailed : (run limits m).fault ≠ none ↔ Reason.failed.text = (run limits m).reason.text :=
    h.reason .failed
  rw [Reason.text_inj, eq_comm, ← Option.isSome_iff_ne_none] at hfailed
  simp only [Finish.exitCode, hfailed]

def settings (path : String) (limits : Limits) (seed : Option Int) : CommandLine.Settings where
  rom := path
  maxCycles := some limits.maxCycles
  cyclesPerTick := some limits.cyclesPerTick
  stopAtZero := limits.stopAtZero
  seed := seed.map some

def fresh (seed : Option Int) (unseeded : RandomSource) : Machine Display :=
  CommandLine.machine (seed.elim unseeded .ofSeed)

/-- The lines that tell of a run of a program of so many bytes, from the address where it starts: the
fault that ended it if one did, how far it came and why it ended, and four of its registers. -/
def report {σ : Type} (path : String) (size : Nat) (start : Int) (f : Finish σ) : List String :=
  let loaded := s!"Loaded {size} bytes from {path} at {Text.address start}"
  let stopped := s!"Stopped after {f.machine.cycles} cycles ({f.reason.text})."
  let v0 := Text.hex 2 (f.machine.registers.get ⟨0, by decide⟩).toNat
  let vf := Text.hex 2 (f.machine.registers.get ⟨15, by decide⟩).toNat
  let i := Text.address f.machine.registers.i
  let pc := Text.address f.machine.registers.pc
  let registers := s!"  V0 = 0x{v0}  VF = 0x{vf}  I = {i}  PC = {pc}"
  match f.fault with
  | some fault => [loaded, s!"Error at {pc}: {fault.message}", stopped, registers]
  | none => [loaded, stopped, registers]

theorem faultLines_summaryLines {σ : Type} (path : String) (size : Nat) (start : Int)
    (f : Finish σ) :
    s!"Loaded {size} bytes from {path} at {Text.address start}" ::
      f.faultLines "Error" ++ f.summaryLines = report path size start f := by
  unfold Finish.faultLines report
  cases f.fault with
  | none => rfl
  | some fault => rfl

theorem runReply_of_load (path : String) (limits : Limits) (seed : Option Int)
    (unseeded : RandomSource) (contents : Except FileError (List UInt8)) (size : Nat)
    (m : Machine Display) (hload : Rom.load (fresh seed unseeded) path contents = .ok (size, m)) :
    CommandLine.runReply (settings path limits seed) unseeded contents = .ok
      { exit := (run limits m).exitCode
        out := Surface.ascii (run limits m).machine.surface (run limits m).machine.surface.width
          (run limits m).machine.surface.height ++ "\n"
        err := CommandLine.unlines (report path size m.pc (run limits m)) } := by
  have hrandom : (settings path limits seed).random unseeded =
      .ok (seed.elim unseeded .ofSeed) := by
    cases seed <;> rfl
  have hlimits : (settings path limits seed).limits = .ok limits := rfl
  have hrom : (settings path limits seed).rom = path := rfl
  have hmap {α : Type} (a : α) : (Except.ok a).mapError CommandLine.Break.empty = .ok a := rfl
  unfold fresh at hload
  simp only [CommandLine.runReply, hrandom, hlimits, hrom, hmap, bind, Except.bind, hload]
  rw [faultLines_summaryLines]
  rfl

/-- A program of a size that fits comes to an end whatever it does, and the reply tells the truth
about it: the reason in its report is the only one that applies, and the exit code is 1 if the program
has failed. Nothing else is said, but for the picture of the screen. -/
theorem runReply_endsTruthfully (path : String) (rom : List UInt8) (hpos : 1 ≤ rom.length)
    (hsize : rom.length ≤ Rom.maxSize) (limits : Limits) (hk : 1 ≤ limits.cyclesPerTick)
    (seed : Option Int) (unseeded : RandomSource) :
    ∃ m reply,
      Rom.load (fresh seed unseeded) path (.ok rom) = .ok (rom.length, m) ∧
      CommandLine.runReply (settings path limits seed) unseeded (.ok rom) = .ok reply ∧
      EndsTruthfully limits m ∧
      reply.exit = (if (run limits m).reason = .failed then 1 else 0) ∧
      reply.err = CommandLine.unlines (report path rom.length m.pc (run limits m)) ∧
      reply.out = Surface.ascii (run limits m).machine.surface
        (run limits m).machine.surface.width (run limits m).machine.surface.height ++ "\n" := by
  have hload := Rom.load_of_fits (fresh seed unseeded) path rom hpos hsize
  have hends := endsTruthfully_of_fresh limits hk
    { fresh seed unseeded with memory := (fresh seed unseeded).memory.write programStart rom }
    rfl rfl
  have hreply := runReply_of_load path limits seed unseeded (.ok rom) rom.length _ hload
  exact ⟨_, _, hload, hreply, hends, hends.exitCode_eq, rfl, rfl⟩

/-- A single zero word that is executed like any other, in a batch of one instruction. -/
theorem runReply_endsTruthfully_zero_word :
    (1 ≤ [0x00, (0x00 : UInt8)].length ∧ [0x00, (0x00 : UInt8)].length ≤ Rom.maxSize ∧ 1 ≤ 1) ∧
    let limits : Limits := { maxCycles := 1, cyclesPerTick := 1, stopAtZero := false }
    ∃ m reply,
      Rom.load (fresh (some (-5)) .zeros) "zero" (.ok [0x00, 0x00]) = .ok (2, m) ∧
      CommandLine.runReply (settings "zero" limits (some (-5))) .zeros (.ok [0x00, 0x00]) =
        .ok reply ∧
      EndsTruthfully limits m ∧
      reply.exit = (if (run limits m).reason = .failed then 1 else 0) ∧
      reply.err = CommandLine.unlines (report "zero" 2 m.pc (run limits m)) ∧
      reply.out = Surface.ascii (run limits m).machine.surface
        (run limits m).machine.surface.width (run limits m).machine.surface.height ++ "\n" :=
  ⟨⟨by decide, by decide, by decide⟩,
    runReply_endsTruthfully "zero" [0x00, 0x00] (by decide) (by decide) _ (by decide) _ _⟩

end Chip8.Headless
