import Chip8.Proofs.Memory.Writes
import Chip8.Rom

namespace Chip8.Rom

variable {σ : Type}

def left (m : Machine σ) (path : String) (contents : Except FileError (List UInt8)) : Machine σ :=
  match load m path contents with
  | .ok (_, loaded) => loaded
  | .error _ => m

theorem check_of_fits (path : String) (data : List UInt8)
    (h : 1 ≤ data.length ∧ data.length ≤ 3584) : check path (.ok data) = .ok data := by
  have hne : data ≠ [] := List.length_pos_iff.mp h.1
  have hsize : ¬ maxSize < data.length := Nat.not_lt.mpr h.2
  simp only [check, if_neg hne, if_neg hsize]

theorem load_of_fits (m : Machine σ) (path : String) (rom : List UInt8) (hpos : 1 ≤ rom.length)
    (hsize : rom.length ≤ maxSize) :
    load m path (.ok rom) =
      .ok (rom.length, { m with memory := m.memory.write programStart rom }) := by
  have hcheck := check_of_fits path rom ⟨hpos, hsize⟩
  have hholds := (Memory.loadProgram_holds_iff rom).mpr hsize
  simp only [load, hcheck, Machine.loadProgram, Memory.loadProgram, Memory.load,
    if_pos hholds, Int.toNat_natCast]

def sizeRefusal (path : String) (data : List UInt8) : Refusal :=
  if data = [] then .empty path else .tooLarge data.length

theorem check_of_not_fits (path : String) (data : List UInt8)
    (h : ¬ (1 ≤ data.length ∧ data.length ≤ 3584)) :
    check path (.ok data) = .error (sizeRefusal path data) := by
  unfold sizeRefusal
  by_cases hempty : data = []
  · simp only [check, if_pos hempty]
  · have hpos := List.length_pos_iff.mpr hempty
    have hsize : maxSize < data.length := by
      show 3584 < data.length
      omega
    simp only [check, if_neg hempty, if_pos hsize]

theorem sizeRefusal_message (path : String) (data : List UInt8) :
    (sizeRefusal path data).message =
      if data = [] then s!"ROM is empty: {path}"
      else s!"ROM too large: {data.length} bytes (max 3584)" := by
  unfold sizeRefusal
  split
  · rfl
  · have hlimit : " bytes (max " ++ toString maxSize ++ ")" = " bytes (max 3584)" := by decide
    calc "ROM too large: " ++ toString data.length ++ " bytes (max " ++ toString maxSize ++ ")"
      _ = "ROM too large: " ++ toString data.length ++
          (" bytes (max " ++ toString maxSize ++ ")") := by simp only [String.append_assoc]
      _ = "ROM too large: " ++ toString data.length ++ " bytes (max 3584)" := by rw [hlimit]

theorem sizeRefusal_ne_outside (path : String) (data : List UInt8) (fault : Fault) :
    sizeRefusal path data ≠ .outside fault := by
  unfold sizeRefusal
  split <;> exact Refusal.noConfusion

theorem load_of_check_error (m : Machine σ) (path : String)
    (contents : Except FileError (List UInt8)) (refusal : Refusal)
    (h : check path contents = .error refusal) : load m path contents = .error refusal := by
  simp only [load, h]

/-- An image that has passed the check always finds room in memory. -/
theorem load_ne_outside (m : Machine σ) (path : String) (contents : Except FileError (List UInt8))
    (fault : Fault) : load m path contents ≠ .error (.outside fault) := by
  cases contents with
  | error e =>
    intro h
    cases h
  | ok data =>
    intro h
    by_cases hfits : 1 ≤ data.length ∧ data.length ≤ 3584
    · rw [load_of_fits m path data hfits.1 hfits.2] at h
      cases h
    · rw [load_of_check_error m path _ _ (check_of_not_fits path data hfits)] at h
      exact sizeRefusal_ne_outside path data fault (Except.error.inj h)

/-- A fresh machine has been given a program, and is as it was in all else. -/
structure Loaded (fresh : Machine σ) (data : List UInt8) (m : Machine σ) : Prop where
  program : ∀ (k : Nat) b, data[k]? = some b → m.memory.peek (0x200 + k) = .ok b
  others : ∀ addr : Int, 0 ≤ addr ∧ addr < 4096 → addr < 0x200 ∨ 0x200 + data.length ≤ addr →
    m.memory.peek addr = .ok (Memory.initialByte addr)
  rest : m = { fresh with memory := m.memory }

theorem loaded_write (fresh : Machine σ) (data : List UInt8) (hfresh : fresh.memory = .initial)
    (hsize : data.length ≤ 3584) :
    Loaded fresh data { fresh with memory := fresh.memory.write programStart data } where
  program k b hb := by
    have hk := (List.getElem?_eq_some_iff.mp hb).1
    have hin : Memory.InRange (0x200 + k) := ⟨by omega, by omega⟩
    exact Memory.peek_write_of_inside _ 0x200 k data b (by decide) hb hin
  others addr haddr hout := by
    rw [← Memory.peek_initial addr haddr, hfresh]
    exact Memory.peek_write_of_outside _ 0x200 addr data (by decide) hout
  rest := rfl

/-- The size of an image decides whether it is loaded, and about the size the check and the bounds
of memory agree. -/
structure SizeDecides (fresh : Machine σ) (path : String) (data : List UInt8) : Prop where
  accepted_iff : (∃ image, check path (.ok data) = .ok image) ↔
    1 ≤ data.length ∧ data.length ≤ 3584
  inMemory_iff : data ≠ [] → ((∃ image, check path (.ok data) = .ok image) ↔
    ∃ memory, fresh.memory.loadProgram data = .ok memory)
  accepted : ∀ image, check path (.ok data) = .ok image →
    image = data ∧ ∃ m, load fresh path (.ok data) = .ok (data.length, m) ∧ Loaded fresh data m
  rejected : ∀ refusal, check path (.ok data) = .error refusal →
    load fresh path (.ok data) = .error refusal ∧ left fresh path (.ok data) = fresh ∧
      refusal.message = if data = [] then s!"ROM is empty: {path}"
        else s!"ROM too large: {data.length} bytes (max 3584)"

theorem accepted_iff (path : String) (data : List UInt8) :
    (∃ image, check path (.ok data) = .ok image) ↔ 1 ≤ data.length ∧ data.length ≤ 3584 := by
  constructor
  · rintro ⟨image, hcheck⟩
    by_cases h : 1 ≤ data.length ∧ data.length ≤ 3584
    · exact h
    · rw [check_of_not_fits path data h] at hcheck
      cases hcheck
  · intro h
    exact ⟨data, check_of_fits path data h⟩

/-- Images of 1 to 3584 bytes are loaded into a fresh machine, and all others are refused by the
check. Memory never refuses what has been read from a file. -/
theorem size_check_is_bound_of_memory (surface : σ) (random : RandomSource) (path : String)
    (data : List UInt8) :
    SizeDecides { surface, random } path data ∧
      ∀ (m : Machine σ) contents fault, load m path contents ≠ .error (.outside fault) := by
  refine ⟨⟨accepted_iff path data, ?_, ?_, ?_⟩, fun m contents => load_ne_outside m path contents⟩
  · intro hne
    have hpos := List.length_pos_iff.mpr hne
    rw [accepted_iff, (Memory.checksBounds _).loadProgram data |>.ok_iff]
    omega
  · intro image hcheck
    have hfits := (accepted_iff path data).mp ⟨image, hcheck⟩
    rw [check_of_fits path data hfits] at hcheck
    have hload := load_of_fits ({ surface, random } : Machine σ) path data hfits.1 hfits.2
    exact ⟨(Except.ok.inj hcheck).symm, _, hload, loaded_write _ data rfl hfits.2⟩
  · intro refusal hcheck
    have hload := load_of_check_error ({ surface, random } : Machine σ) path _ refusal hcheck
    have hfits : ¬ (1 ≤ data.length ∧ data.length ≤ 3584) := by
      intro hfits
      rw [check_of_fits path data hfits] at hcheck
      cases hcheck
    rw [check_of_not_fits path data hfits] at hcheck
    refine ⟨hload, by simp only [left, hload], ?_⟩
    rw [← Except.error.inj hcheck, sizeRefusal_message]

end Chip8.Rom
