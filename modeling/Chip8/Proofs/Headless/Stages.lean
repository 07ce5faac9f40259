import Chip8.Proofs.Headless.Paced
import Chip8.Proofs.Machine.Batches

namespace Chip8

namespace Machine

variable {σ : Type} [Surface σ]

/-- A batch of at least one instruction that does not fail makes progress: it halts, or the cycles
grow. -/
theorem progress_of_run (m m' : Machine σ) (stopAtZero : Bool) (limit answer : Nat)
    (hh : m.halted = false) (hm : m.mode = .running)
    (h : m.run stopAtZero (limit + 1) = .ok answer m') :
    m'.halted = true ∨ m.cycles < m'.cycles := by
  cases m.round stopAtZero with
  | stands stopped _ =>
    obtain ⟨x, hx⟩ := stopped.resolve_left (Bool.eq_false_iff.mp hh)
    rw [hm] at hx
    cases hx
  | fails _ fault n _ _ run => simp [run] at h
  | halts _ _ _ run =>
    rw [run, EStateM.Result.ok.injEq] at h
    left
    rw [← h.2]
  | goesOn _ n _ _ hcycles run =>
    rw [run, counted_eq_ok_iff] at h
    obtain ⟨more, hmore, -⟩ := h
    have htally := (n.run_tally m' stopAtZero limit more hmore).cycles
    right
    omega

end Machine

namespace Headless

/-- Where a headless run stands. -/
inductive Stage (σ : Type) where
  /-- No batch has begun, or one is over. -/
  | between (m : Machine σ)
  /-- A batch has begun, of which so many instructions are left. -/
  | within (left : Nat) (m : Machine σ)
  | failed (fault : Fault) (m : Machine σ)

namespace Stage

variable {σ : Type}

def finish : Stage σ → Finish σ
  | between m | within _ m => ⟨m, none⟩
  | failed fault m => ⟨m, some fault⟩

def machine (s : Stage σ) : Machine σ := s.finish.machine

def ofBatch : Outcome σ Nat → Stage σ
  | .ok _ m => between m.tick
  | .error fault m => failed fault m

def ofStep (left : Nat) : Outcome σ Bool → Stage σ
  | .ok true m => within left m
  | .ok false m => between m.tick
  | .error fault m => failed fault m

theorem stopped_or_running (limits : Limits) (m : Machine σ) :
    (m.halted = true ∨ m.mode ≠ .running ∨ limits.maxCycles ≤ m.cycles) ∨
      m.halted = false ∧ m.mode = .running ∧ m.cycles < limits.maxCycles := by
  by_cases hstop : m.halted = true ∨ m.mode ≠ .running ∨ limits.maxCycles ≤ m.cycles
  · exact Or.inl hstop
  · exact Or.inr (by simpa using hstop)

variable [Surface σ]

/-- One round of either loop of a run, as long as there is one: nothing here bounds their number. -/
def next? (limits : Limits) : Stage σ → Option (Stage σ)
  | between m =>
    if m.halted ∨ !m.running ∨ limits.maxCycles ≤ m.cycles then none
    else some (within (min limits.cyclesPerTick (limits.maxCycles - m.cycles)) m)
  | within 0 m => some (between m.tick)
  | within (left + 1) m =>
    if m.halted ∨ !m.running then some (between m.tick)
    else some (ofStep left (m.runStep limits.stopAtZero))
  | failed _ _ => none

inductive Leads (limits : Limits) : Stage σ → Stage σ → Prop where
  | refl (s : Stage σ) : Leads limits s s
  | step {s t u : Stage σ} (h : s.next? limits = some t) (rest : Leads limits t u) :
    Leads limits s u

theorem Leads.trans {limits : Limits} {s t u : Stage σ} (h : Leads limits s t)
    (h' : Leads limits t u) : Leads limits s u := by
  induction h with
  | refl => exact h'
  | step hnext _ ih => exact .step hnext (ih h')

theorem next?_of_stopped (limits : Limits) (m : Machine σ)
    (h : m.halted = true ∨ m.mode ≠ .running ∨ limits.maxCycles ≤ m.cycles) :
    (between m).next? limits = none := by
  rw [next?, if_pos]
  simpa [Machine.running] using h

theorem next?_of_running (limits : Limits) (m : Machine σ) (hh : m.halted = false)
    (hm : m.mode = .running) (hc : m.cycles < limits.maxCycles) :
    (between m).next? limits =
      some (within (min limits.cyclesPerTick (limits.maxCycles - m.cycles)) m) := by
  rw [next?, if_neg]
  simp [Machine.running, hh, hm, hc]

theorem next?_within (limits : Limits) (left : Nat) (m : Machine σ) (hh : m.halted = false)
    (hm : m.mode = .running) :
    (within (left + 1) m).next? limits = some (ofStep left (m.runStep limits.stopAtZero)) := by
  simp [next?, Machine.running, hh, hm]

theorem next?_within_of_stopped (limits : Limits) (left : Nat) (m : Machine σ)
    (h : m.halted = true ∨ m.mode ≠ .running) :
    (within left m).next? limits = some (between m.tick) := by
  cases left with
  | zero => rfl
  | succ left =>
    rw [next?, if_pos]
    simpa [Machine.running] using h

theorem leads_ofBatch (limits : Limits) (executed left : Nat) (m : Machine σ) :
    Leads limits (within left m) (ofBatch (m.runFrom limits.stopAtZero executed left)) := by
  induction left generalizing executed m with
  | zero => exact .step rfl (.refl _)
  | succ left ih =>
    by_cases hh : m.halted = true
    · rw [Machine.runFrom, if_pos hh]
      exact .step (next?_within_of_stopped limits _ m (Or.inl hh)) (.refl _)
    by_cases hm : m.mode = .running
    · have hnext := next?_within limits left m (Bool.eq_false_iff.mpr hh) hm
      simp only [Machine.runFrom, hh, hm, Bool.false_eq_true, if_false]
      cases hr : m.runStep limits.stopAtZero with
      | error fault m' =>
        rw [hr] at hnext
        exact .step hnext (.refl _)
      | ok goesOn m' =>
        rw [hr] at hnext
        cases goesOn with
        | false => exact .step hnext (.refl _)
        | true => exact .step hnext (ih (executed + 1) m')
    · rw [Machine.runFrom_of_waiting m _ executed _ hm]
      exact .step (next?_within_of_stopped limits _ m (Or.inr hm)) (.refl _)

/-- Both loops come to an end, and there the run is what `batches` says it is: the cycles that are
left bound the number of batches, unless the machine halts first. -/
theorem leads_batches (limits : Limits) (hk : 0 < limits.cyclesPerTick) (fuel : Nat)
    (m : Machine σ) (hfuel : m.halted = true ∨ limits.maxCycles - m.cycles ≤ fuel) :
    ∃ s, Leads limits (between m) s ∧ s.next? limits = none ∧
      s.finish = batches limits fuel m := by
  induction fuel generalizing m with
  | zero =>
    have hstop : m.halted = true ∨ m.mode ≠ .running ∨ limits.maxCycles ≤ m.cycles :=
      hfuel.imp_right fun h => Or.inr (by omega)
    exact ⟨_, .refl _, next?_of_stopped limits m hstop, rfl⟩
  | succ fuel ih =>
    rcases stopped_or_running limits m with hstop | ⟨hh, hm, hc⟩
    · refine ⟨_, .refl _, next?_of_stopped limits m hstop, ?_⟩
      rw [batches_of_stopped limits (fuel + 1) m hstop]
      rfl
    · have hleft : limits.maxCycles - m.cycles ≤ fuel + 1 :=
        hfuel.resolve_left (Bool.eq_false_iff.mp hh)
      obtain ⟨budget, hbudget⟩ :
          ∃ budget, min limits.cyclesPerTick (limits.maxCycles - m.cycles) = budget + 1 :=
        ⟨_, (Nat.succ_pred_eq_of_pos (by omega)).symm⟩
      have hnext := next?_of_running limits m hh hm hc
      rw [hbudget] at hnext
      have hbatch := Leads.step hnext (leads_ofBatch limits 0 (budget + 1) m)
      rw [batches_of_running limits fuel m hh hm hc, hbudget, Machine.run]
      cases hr : m.runFrom limits.stopAtZero 0 (budget + 1) with
      | error fault n =>
        rw [hr] at hbatch
        exact ⟨failed fault n, hbatch, rfl, rfl⟩
      | ok answer n =>
        rw [hr] at hbatch
        -- A batch that has not halted the machine leaves fewer cycles, so the fuel lasts.
        have hprogress := m.progress_of_run n limits.stopAtZero budget answer hh hm hr
        obtain ⟨s, hs, hend⟩ := ih n.tick
          (hprogress.imp_right fun h => by simp only [Machine.tick]; omega)
        exact ⟨s, hbatch.trans hs, hend⟩

end Stage

end Headless

end Chip8
