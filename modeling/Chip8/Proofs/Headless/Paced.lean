import Chip8.Headless
import Chip8.Proofs.Machine.Step

namespace Chip8.Headless

variable {σ : Type} [Surface σ]

/-- A run without batches: after `since` instructions since the last tick it executes at most `left`
more, one at a time. -/
def paced (limits : Limits) : Nat → Nat → Machine σ → Finish σ
  | 0, since, m => ⟨if since = 0 then m else m.tick, none⟩
  | left + 1, since, m =>
    match m.runStep limits.stopAtZero with
    | .error fault m => ⟨m, some fault⟩
    | .ok false m => ⟨m.tick, none⟩
    | .ok true m =>
      if m.mode ≠ .running then ⟨m.tick, none⟩
      else if since + 1 = limits.cyclesPerTick then paced limits left 0 m.tick
      else paced limits left (since + 1) m

def afterBatch (limits : Limits) (left : Nat) : Outcome σ Nat → Finish σ
  | .error fault m => ⟨m, some fault⟩
  | .ok _ m => batches limits left m.tick

theorem batches_of_stopped (limits : Limits) (left : Nat) (m : Machine σ)
    (h : m.halted = true ∨ m.mode ≠ .running ∨ limits.maxCycles ≤ m.cycles) :
    batches limits left m = ⟨m, none⟩ := by
  cases left with
  | zero => rfl
  | succ left =>
    rw [batches, if_pos]
    simpa [Machine.running] using h

theorem batches_of_running (limits : Limits) (left : Nat) (m : Machine σ)
    (hh : m.halted = false) (hm : m.mode = .running) (hc : m.cycles < limits.maxCycles) :
    batches limits (left + 1) m = afterBatch limits left
      (m.run limits.stopAtZero (min limits.cyclesPerTick (limits.maxCycles - m.cycles))) := by
  rw [batches, if_neg]
  · cases h : m.run limits.stopAtZero (min limits.cyclesPerTick (limits.maxCycles - m.cycles)) <;>
      simp [afterBatch, h]
  · simp [Machine.running, hh, hm, hc]

theorem afterBatch_eq_paced (limits : Limits) (left since executed fuel : Nat) (m : Machine σ)
    (hh : m.halted = false) (hm : m.mode = .running)
    (hleft : m.cycles + left = limits.maxCycles) (hsince : since < limits.cyclesPerTick)
    (hfirst : since = 0 → 0 < left) (hfuel : left ≤ fuel + 1) :
    afterBatch limits fuel
      (m.runFrom limits.stopAtZero executed (min (limits.cyclesPerTick - since) left)) =
      paced limits left since m := by
  -- The rest of a batch is `cyclesPerTick - since` instructions, unless the limit cuts it shorter.
  induction left generalizing since executed fuel m with
  | zero =>
    have hne : since ≠ 0 := by omega
    rw [Nat.min_zero, Machine.runFrom, afterBatch, batches_of_stopped, paced, if_neg hne]
    exact Or.inr (Or.inr (by simp only [Machine.tick]; omega))
  | succ left ih =>
    have hbudget : min (limits.cyclesPerTick - since) (left + 1) =
        min (limits.cyclesPerTick - (since + 1)) left + 1 := by omega
    rw [hbudget]
    simp only [Machine.runFrom, hh, hm, paced, Bool.false_eq_true, if_false]
    obtain ⟨fault, m', hr, -⟩ | ⟨-, -, hr⟩ | ⟨m', hr, -, hh', hc'⟩ :=
      Machine.runStep_cases m limits.stopAtZero hm
    · simp [hr, afterBatch]
    · simp only [hr, afterBatch]
      exact batches_of_stopped _ _ _ (Or.inl rfl)
    · simp only [hr]
      by_cases hm' : m'.mode = .running
      · simp only [hm', ne_eq, not_true_eq_false, if_false]
        by_cases hlast : since + 1 = limits.cyclesPerTick
        · -- The batch is over, and the next one starts after the tick, if there is one.
          rw [if_pos hlast, hlast, Nat.sub_self, Nat.zero_min, Machine.runFrom, afterBatch]
          cases left with
          | zero =>
            exact batches_of_stopped _ _ _ (Or.inr (Or.inr (by simp only [Machine.tick]; omega)))
          | succ left =>
            obtain ⟨fuel, rfl⟩ : ∃ n, fuel = n + 1 := ⟨fuel - 1, by omega⟩
            rw [batches_of_running limits fuel m'.tick (by rw [← hh, ← hh']; rfl) hm'
              (by simp only [Machine.tick]; omega)]
            have hrest : limits.maxCycles - m'.tick.cycles = left + 1 := by
              simp only [Machine.tick]
              omega
            rw [hrest, Machine.run]
            exact ih 0 0 fuel m'.tick (by rw [← hh, ← hh']; rfl) hm'
              (by simp only [Machine.tick]; omega) (by omega) (by omega) (by omega)
        · rw [if_neg hlast]
          exact ih (since + 1) (executed + 1) fuel m' (by rw [hh', hh]) hm' (by omega) (by omega)
            (by omega) (by omega)
      · rw [Machine.runFrom_of_waiting m' _ _ _ hm', afterBatch, if_pos hm']
        exact batches_of_stopped _ _ _ (Or.inr (Or.inl hm'))

/-- Dividing a run into batches changes nothing but the number of its ticks. -/
theorem run_eq_paced (limits : Limits) (m : Machine σ) (hh : m.halted = false)
    (hm : m.mode = .running) (hk : 0 < limits.cyclesPerTick) :
    run limits m = paced limits (limits.maxCycles - m.cycles) 0 m := by
  unfold run
  cases hleft : limits.maxCycles - m.cycles with
  | zero => rfl
  | succ left =>
    rw [batches_of_running limits left m hh hm (by omega), hleft, Machine.run]
    exact afterBatch_eq_paced limits (left + 1) 0 0 left m hh hm (by omega) hk (by omega)
      (Nat.le_refl _)

end Chip8.Headless
