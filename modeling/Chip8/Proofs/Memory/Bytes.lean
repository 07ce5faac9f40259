import Chip8.Memory.Basic

namespace Chip8.Memory

theorem byte_of_lt (memory : Memory) (k : Nat) (h : k < 4096) :
    memory.byte k = memory.bytes[k] := by
  simp only [byte, dif_pos h]
  rfl

theorem byte_setIfInBounds_self (memory : Memory) (k : Nat) (b : UInt8) (h : k < 4096) :
    Memory.byte ⟨memory.bytes.setIfInBounds k b⟩ k = b := by
  rw [byte_of_lt _ k h, Vector.getElem_setIfInBounds_self]

theorem byte_setIfInBounds (memory : Memory) (start k : Nat) (b : UInt8) (h : start ≠ k) :
    Memory.byte ⟨memory.bytes.setIfInBounds start b⟩ k = memory.byte k := by
  by_cases hk : k < 4096
  · rw [byte_of_lt _ k hk, byte_of_lt _ k hk, Vector.getElem_setIfInBounds, if_neg h]
  · simp only [byte, dif_neg hk]

theorem byte_write_of_outside (memory : Memory) (start k : Nat) (bytes : List UInt8)
    (h : k < start ∨ start + bytes.length ≤ k) :
    (memory.write start bytes).byte k = memory.byte k := by
  induction bytes generalizing memory start with
  | nil => rfl
  | cons b bytes ih =>
    rw [List.length_cons] at h
    rw [write, ih _ (start + 1) (by omega)]
    exact byte_setIfInBounds memory start k b (by omega)

theorem byte_write_of_inside (memory : Memory) (start j : Nat) (bytes : List UInt8) (b : UInt8)
    (hb : bytes[j]? = some b) (h : start + j < 4096) :
    (memory.write start bytes).byte (start + j) = b := by
  induction bytes generalizing memory start j with
  | nil => simp at hb
  | cons first bytes ih =>
    cases j with
    | zero =>
      rw [List.getElem?_cons_zero, Option.some.injEq] at hb
      rw [write, byte_write_of_outside _ (start + 1) _ bytes (Or.inl (by omega)), hb]
      exact byte_setIfInBounds_self memory start b h
    | succ j =>
      rw [List.getElem?_cons_succ] at hb
      have hplace : start + (j + 1) = start + 1 + j := by omega
      rw [write, hplace]
      exact ih _ (start + 1) j hb (by omega)

theorem byte_write (memory : Memory) (start k : Nat) (bytes : List UInt8) (hk : k < 4096) :
    (memory.write start bytes).byte k =
      if start ≤ k then (bytes[k - start]?).getD (memory.byte k) else memory.byte k := by
  split
  · rename_i hle
    have hplace : start + (k - start) = k := by omega
    cases hb : bytes[k - start]? with
    | none =>
      have hlength := List.getElem?_eq_none_iff.mp hb
      rw [Option.getD_none]
      exact byte_write_of_outside memory start k bytes (Or.inr (by omega))
    | some b =>
      have hwritten := byte_write_of_inside memory start (k - start) bytes b hb (by omega)
      rwa [hplace] at hwritten
  · exact byte_write_of_outside memory start k bytes (Or.inl (by omega))

theorem peek_of_inRange (memory : Memory) (addr : Int) (h : InRange addr) :
    memory.peek addr = .ok (memory.byte addr.toNat) := if_pos h

theorem peek_of_not_inRange (memory : Memory) (addr : Int) (h : ¬ InRange addr) :
    memory.peek addr = .error (.outOfRange addr 1) := if_neg h

theorem peek_write_of_inside (memory : Memory) (start : Int) (j : Nat) (bytes : List UInt8)
    (b : UInt8) (hs : 0 ≤ start) (hb : bytes[j]? = some b) (h : InRange (start + j)) :
    (memory.write start.toNat bytes).peek (start + j) = .ok b := by
  have hplace : (start + j).toNat = start.toNat + j := by omega
  have hlt : start.toNat + j < 4096 := by
    have := h.2
    omega
  rw [peek_of_inRange _ _ h, hplace, byte_write_of_inside memory _ j bytes b hb hlt]

theorem peek_write_of_outside (memory : Memory) (start addr : Int) (bytes : List UInt8)
    (hs : 0 ≤ start) (h : addr < start ∨ start + bytes.length ≤ addr) :
    (memory.write start.toNat bytes).peek addr = memory.peek addr := by
  by_cases hin : InRange addr
  · have := hin.1
    rw [peek_of_inRange _ _ hin, peek_of_inRange _ _ hin, byte_write_of_outside]
    omega
  · rw [peek_of_not_inRange _ _ hin, peek_of_not_inRange _ _ hin]

theorem eq_of_peek (memory memory' : Memory)
    (h : ∀ addr, memory.peek addr = memory'.peek addr) : memory = memory' := by
  have hbytes : memory.bytes = memory'.bytes := by
    apply Vector.ext
    intro k hk
    have hin : InRange k := ⟨by omega, by omega⟩
    have hpeek := h k
    rw [peek_of_inRange memory k hin, peek_of_inRange memory' k hin, Except.ok.injEq,
      Int.toNat_natCast, byte_of_lt memory k hk, byte_of_lt memory' k hk] at hpeek
    exact hpeek
  cases memory
  cases memory'
  exact congrArg Memory.mk hbytes

theorem toNat_ofInt_byte (b : UInt8) : UInt8.ofInt b.toNat = b := by
  have hlt := b.toNat_lt
  have hmod : ((b.toNat : Int) % 2 ^ 8).toNat = b.toNat := by omega
  change UInt8.ofNat ((b.toNat : Int) % 2 ^ 8).toNat = b
  rw [hmod, UInt8.ofNat_toNat]

theorem poke_of_inRange (memory : Memory) (addr : Int) (b : UInt8) (h : InRange addr) :
    memory.poke addr b.toNat = .ok (memory.write addr.toNat [b]) := by
  rw [poke, if_pos h, toNat_ofInt_byte]

theorem poke_of_not_inRange (memory : Memory) (addr value : Int) (h : ¬ InRange addr) :
    memory.poke addr value = .error (.outOfRange addr 1) := if_neg h

end Chip8.Memory
