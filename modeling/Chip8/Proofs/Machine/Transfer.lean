import Chip8.Proofs.Machine.Footprint

namespace Chip8

namespace Memory

/-- Stores bytes from an address on, each by itself, until one is refused. The answer is the memory
and how many bytes were stored. -/
def pokeWhile (memory : Memory) (addr : Int) : List UInt8 → Memory × Nat
  | [] => (memory, 0)
  | b :: bytes =>
    match memory.poke addr b.toNat with
    | .error _ => (memory, 0)
    | .ok stored =>
      let (last, count) := stored.pokeWhile (addr + 1) bytes
      (last, count + 1)

def peekWhile (memory : Memory) (addr : Int) : Nat → List UInt8
  | 0 => []
  | n + 1 =>
    match memory.peek addr with
    | .error _ => []
    | .ok b => b :: memory.peekWhile (addr + 1) n

/-- Of `n` addresses in a row the first `count` lie in memory, and with them it ends. -/
structure Extent (addr : Int) (n count : Nat) : Prop where
  le : count ≤ n
  inside : ∀ j < count, InRange (addr + j)
  ends : count = n ∨ ¬ InRange (addr + count)

namespace Extent

variable {addr : Int} {n count : Nat}

theorem first (h : Extent addr n (count + 1)) : InRange addr := by
  have hfirst := h.inside 0 (Nat.succ_pos count)
  rwa [Int.natCast_zero, Int.add_zero] at hfirst

theorem not_inRange (h : Extent addr (n + 1) 0) : ¬ InRange addr := by
  have hends := h.ends.resolve_left (Nat.succ_ne_zero n).symm
  rwa [Int.natCast_zero, Int.add_zero] at hends

theorem tail (h : Extent addr (n + 1) (count + 1)) : Extent (addr + 1) n count where
  le := Nat.le_of_succ_le_succ h.le
  inside j hj := by
    have hplace : addr + 1 + (j : Int) = addr + (j + 1 : Nat) := by omega
    rw [hplace]
    exact h.inside (j + 1) (Nat.succ_lt_succ hj)
  ends := by
    have hplace : addr + 1 + (count : Int) = addr + (count + 1 : Nat) := by omega
    rw [hplace]
    exact h.ends.imp_left Nat.succ.inj

end Extent

theorem pokeWhile_eq (memory : Memory) (addr : Int) (bytes : List UInt8) (count : Nat)
    (h : Extent addr bytes.length count) :
    memory.pokeWhile addr bytes = (memory.write addr.toNat (bytes.take count), count) := by
  induction bytes generalizing memory addr count with
  | nil =>
    obtain rfl : count = 0 := Nat.le_zero.mp h.le
    rfl
  | cons b bytes ih =>
    cases count with
    | zero =>
      have hout := poke_of_not_inRange memory addr b.toNat h.not_inRange
      simp only [pokeWhile, hout, List.take_zero, write]
    | succ count =>
      have hnext : (addr + 1).toNat = addr.toNat + 1 := by
        have := h.first.1
        omega
      have hrest := ih (memory.write addr.toNat [b]) (addr + 1) count h.tail
      rw [hnext] at hrest
      simp only [pokeWhile, poke_of_inRange memory addr b h.first, hrest, List.take_succ_cons]
      rfl

theorem peekWhile_eq (memory : Memory) (addr : Int) (n count : Nat) (h : Extent addr n count) :
    memory.peekWhile addr n =
      (List.range count).map fun j => memory.byte (addr.toNat + j) := by
  induction n generalizing addr count with
  | zero =>
    obtain rfl : count = 0 := Nat.le_zero.mp h.le
    rfl
  | succ n ih =>
    cases count with
    | zero =>
      have hout := peek_of_not_inRange memory addr h.not_inRange
      simp only [peekWhile, hout, List.range_zero, List.map_nil]
    | succ count =>
      have hnext : (addr + 1).toNat = addr.toNat + 1 := by
        have := h.first.1
        omega
      have hrest := ih (addr + 1) count h.tail
      simp only [peekWhile, peek_of_inRange memory addr h.first, hrest, hnext,
        List.range_succ_eq_map, List.map_cons, List.map_map, Nat.add_zero, Function.comp_def,
        Nat.succ_eq_add_one, Nat.add_assoc, Nat.add_comm 1]

/-- A transfer reaches as many registers as there are bytes in memory from I on. -/
theorem extent_transferCount (i : Int) (x : Fin 16) :
    Extent i (x.val + 1) (transferCount i x) := by
  unfold transferCount
  split
  · refine ⟨Nat.min_le_left _ _, ?_, ?_⟩
    · intro j hj
      unfold InRange
      omega
    · unfold InRange
      omega
  · refine ⟨Nat.zero_le _, ?_, ?_⟩
    · intro j hj
      exact absurd hj (Nat.not_lt_zero j)
    · unfold InRange
      omega

theorem transferCount_of_nonneg (i : Int) (x : Fin 16) (h : 0 ≤ i) :
    transferCount i x = min (x.val + 1) (4096 - i).toNat := if_pos h

theorem add_transferCount_mod (i : Int) (x : Fin 16) (h : 0 ≤ i ∧ i ≤ 0xFFFF) :
    (i + transferCount i x) % 65536 = i + transferCount i x := by
  rw [transferCount_of_nonneg i x h.1]
  omega

end Memory

namespace Registers

theorem getElem?_v (r : Registers) (j : Fin 16) : r.v.toList[j.val]? = some (r.get j) := by
  rw [Vector.getElem?_toList, Vector.getElem?_eq_getElem j.isLt]
  rfl

theorem getElem?_take_v (r : Registers) (count : Nat) (j : Fin 16) (h : j.val < count) :
    (r.v.toList.take count)[j.val]? = some (r.get j) := by
  rw [List.getElem?_take_of_lt h, getElem?_v]

theorem take_loadFrom (r : Registers) (memory : Memory) (count : Nat) (h : count ≤ 16) :
    (r.loadFrom memory count).v.toList.take count =
      (List.range count).map fun j => memory.byte (r.i.toNat + j) := by
  apply List.ext_getElem?
  intro j
  by_cases hj : j < count
  · have hj16 : j < 16 := by omega
    have hget := (r.loadFrom memory count).getElem?_take_v count ⟨j, hj16⟩ hj
    rw [get_loadFrom, if_pos hj] at hget
    rw [hget, List.getElem?_map, List.getElem?_range hj]
    rfl
  · rw [List.getElem?_eq_none (by simp; omega), List.getElem?_eq_none (by simp; omega)]

end Registers

namespace Machine

section

variable {σ : Type}

/-- Of V0 to VX the first `k` have been stored from I on, as they are if each is stored by itself
until one is refused. I has gone past them, and but for PC all else is as it was. -/
structure Saved (x : Fin 16) (k : Nat) (m m' : Machine σ) : Prop where
  stored : ∀ j : Fin 16, j.val < k →
    m'.memory.peek (m.registers.i + j.val) = .ok (m.registers.get j)
  others : ∀ addr, addr < m.registers.i ∨ m.registers.i + k ≤ addr →
    m'.memory.peek addr = m.memory.peek addr
  oneByOne : m.memory.pokeWhile m.registers.i (m.registers.v.toList.take (x.val + 1)) =
    (m'.memory, k)
  rest : m' = { m with
    memory := m'.memory
    registers := { m.registers with
      i := m.registers.i + k, pc := (m.registers.pc + 2) % 65536 } }

/-- Of V0 to VX the first `k` have been loaded from I on, as they are if each is read by itself
until one is refused. I has gone past them, and but for PC all else is as it was. -/
structure Loaded (x : Fin 16) (k : Nat) (m m' : Machine σ) : Prop where
  loaded : ∀ j : Fin 16, j.val < k →
    m.memory.peek (m.registers.i + j.val) = .ok (m'.registers.get j)
  others : ∀ j : Fin 16, k ≤ j.val → m'.registers.get j = m.registers.get j
  oneByOne : m.memory.peekWhile m.registers.i (x.val + 1) = m'.registers.v.toList.take k
  rest : m' = { m with
    registers := { m.registers with
      v := m'.registers.v, i := m.registers.i + k, pc := (m.registers.pc + 2) % 65536 } }

theorem saved_saveRegisters (m : Machine σ) (x : Fin 16)
    (hi : 0 ≤ m.registers.i ∧ m.registers.i ≤ 0xFFFF) :
    m.Saved x (Memory.transferCount m.registers.i x)
      ((m.saveRegisters x).setPc (m.registers.pc + 2)) := by
  have hextent := Memory.extent_transferCount m.registers.i x
  have hmod := Memory.add_transferCount_mod m.registers.i x hi
  generalize hk : Memory.transferCount m.registers.i x = k at hextent hmod ⊢
  have hmemory : ((m.saveRegisters x).setPc (m.registers.pc + 2)).memory =
      m.memory.write m.registers.i.toNat (m.registers.v.toList.take k) := by
    simp only [saveRegisters, setPc, hk]
  have hlength : (m.registers.v.toList.take (x.val + 1)).length = x.val + 1 := by
    simp only [List.length_take, Vector.length_toList]
    omega
  refine ⟨?_, ?_, ?_, ?_⟩
  · intro j hj
    have hbyte := m.registers.getElem?_take_v k j hj
    rw [hmemory]
    exact Memory.peek_write_of_inside _ _ _ _ _ hi.1 hbyte (hextent.inside j hj)
  · intro addr haddr
    rw [hmemory]
    apply Memory.peek_write_of_outside _ _ _ _ hi.1
    rw [List.length_take]
    omega
  · have hle := hextent.le
    rw [← hlength] at hextent
    rw [Memory.pokeWhile_eq _ _ _ k hextent, hmemory, List.take_take, Nat.min_eq_left hle]
  · simp only [saveRegisters, setPc, Registers.addI, hk, hmod]

theorem loaded_loadRegisters (m : Machine σ) (x : Fin 16)
    (hi : 0 ≤ m.registers.i ∧ m.registers.i ≤ 0xFFFF) :
    m.Loaded x (Memory.transferCount m.registers.i x)
      ((m.loadRegisters x).setPc (m.registers.pc + 2)) := by
  have hextent := Memory.extent_transferCount m.registers.i x
  have hmod := Memory.add_transferCount_mod m.registers.i x hi
  generalize hk : Memory.transferCount m.registers.i x = k at hextent hmod ⊢
  have hv : ((m.loadRegisters x).setPc (m.registers.pc + 2)).registers.v =
      (m.registers.loadFrom m.memory k).v := by
    simp only [loadRegisters, setPc, Registers.addI, hk]
  have hget (j : Fin 16) : ((m.loadRegisters x).setPc (m.registers.pc + 2)).registers.get j =
      if j.val < k then m.memory.byte (m.registers.i.toNat + j.val) else m.registers.get j := by
    rw [← Registers.get_loadFrom, Registers.get, hv]
    rfl
  refine ⟨?_, ?_, ?_, ?_⟩
  · intro j hj
    have hplace : (m.registers.i + j.val).toNat = m.registers.i.toNat + j.val := by omega
    rw [hget, if_pos hj, Memory.peek_of_inRange _ _ (hextent.inside j hj), hplace]
  · intro j hj
    rw [hget, if_neg (Nat.not_lt.mpr hj)]
  · have hle := hextent.le
    rw [Memory.peekWhile_eq _ _ _ k hextent, hv, Registers.take_loadFrom _ _ k (by omega)]
  · simp only [loadRegisters, setPc, Registers.addI, Registers.loadFrom, hk, hmod]

theorem Saved.reload {x : Fin 16} {k : Nat} {m m' n n' : Machine σ} (h : m.Saved x k m')
    (h' : n.Loaded x k n') (hmemory : n.memory = m'.memory) (hi : n.registers.i = m.registers.i)
    (j : Fin 16) (hj : j.val < k) : n'.registers.get j = m.registers.get j := by
  have hloaded := h'.loaded j hj
  rw [hmemory, hi, h.stored j hj, Except.ok.injEq] at hloaded
  exact hloaded.symm

theorem Loaded.resave {x : Fin 16} {k : Nat} {m m' n n' : Machine σ} (h : m.Loaded x k m')
    (h' : n.Saved x k n') (hk : k ≤ 16) (hmemory : n.memory = m'.memory)
    (hv : n.registers.v = m'.registers.v) (hi : n.registers.i = m.registers.i) :
    n'.memory = m.memory := by
  have hkept : m'.memory = m.memory := by rw [h.rest]
  apply Memory.eq_of_peek
  intro addr
  by_cases hinside : m.registers.i ≤ addr ∧ addr < m.registers.i + k
  · obtain ⟨j, rfl⟩ : ∃ j : Fin 16, addr = m.registers.i + j.val :=
      ⟨⟨(addr - m.registers.i).toNat, by omega⟩, by dsimp only; omega⟩
    have hj : j.val < k := by omega
    have hstored := h'.stored j hj
    rw [hi] at hstored
    rw [hstored, h.loaded j hj, Registers.get, hv]
    rfl
  · rw [h'.others addr (by omega), hmemory, hkept]

end

variable {σ : Type} [Surface σ]

theorem execute_save (m : Machine σ) (w : Word) (hw : w.fits "FX55") :
    m.execute w.toNat = .ok () ((m.saveRegisters w.x).setPc (m.registers.pc + 2)) :=
  m.execute_of_fits _ w ("FX55", fun w => .saveRegisters w.x) (by simp [instructionSet]) hw _ rfl

theorem execute_load (m : Machine σ) (w : Word) (hw : w.fits "FX65") :
    m.execute w.toNat = .ok () ((m.loadRegisters w.x).setPc (m.registers.pc + 2)) :=
  m.execute_of_fits _ w ("FX65", fun w => .loadRegisters w.x) (by simp [instructionSet]) hw _ rfl

/-- The two words transfer V0 to VX at I, of which `k` registers find room in memory, and each
undoes the other. -/
structure TransfersFit (m : Machine σ) (x : Fin 16) (k : Nat) (save load : Word) : Prop where
  saved : ∃ m', m.execute save.toNat = .ok () m' ∧ m.Saved x k m'
  loaded : ∃ m', m.execute load.toNat = .ok () m' ∧ m.Loaded x k m'
  reloaded : ∀ m' n : Machine σ, m.execute save.toNat = .ok () m' → n.memory = m'.memory →
    n.registers.i = m.registers.i →
    ∃ n', n.execute load.toNat = .ok () n' ∧
      ∀ j : Fin 16, j.val < k → n'.registers.get j = m.registers.get j
  resaved : ∀ m' n : Machine σ, m.execute load.toNat = .ok () m' → n.memory = m'.memory →
    n.registers.v = m'.registers.v → n.registers.i = m.registers.i →
    ∃ n', n.execute save.toNat = .ok () n' ∧ n'.memory = m.memory

/-- The words FX55 and FX65 never fail: they move as many bytes as there are registers up to VX, or
as few as there are up to the end of memory. -/
theorem block_transfers_fit (m : Machine σ) (hi : 0 ≤ m.registers.i ∧ m.registers.i ≤ 0xFFFF)
    (x : Fin 16) (save load : Word) (hsave : save.fits "FX55" ∧ save.x = x)
    (hload : load.fits "FX65" ∧ load.x = x) :
    m.TransfersFit x (min (x.val + 1) (4096 - m.registers.i).toNat) save load := by
  rw [← Memory.transferCount_of_nonneg m.registers.i x hi.1]
  have hexecsave (n : Machine σ) := hsave.2 ▸ n.execute_save save hsave.1
  have hexecload (n : Machine σ) := hload.2 ▸ n.execute_load load hload.1
  have hsaved := m.saved_saveRegisters x hi
  have hloaded := m.loaded_loadRegisters x hi
  have hle := (Memory.extent_transferCount m.registers.i x).le
  refine ⟨⟨_, hexecsave m, hsaved⟩, ⟨_, hexecload m, hloaded⟩, ?_, ?_⟩
  · intro m' n hm' hmemory hin
    rw [hexecsave, EStateM.Result.ok.injEq] at hm'
    rw [← hm'.2] at hmemory
    have hload' := n.loaded_loadRegisters x (by rwa [hin])
    rw [hin] at hload'
    exact ⟨_, hexecload n, hsaved.reload hload' hmemory hin⟩
  · intro m' n hm' hmemory hv hin
    rw [hexecload, EStateM.Result.ok.injEq] at hm'
    rw [← hm'.2] at hmemory hv
    have hsave' := n.saved_saveRegisters x (by rwa [hin])
    rw [hin] at hsave'
    exact ⟨_, hexecsave n, hloaded.resave hsave' (by omega) hmemory hv hin⟩

def edgeOfMemory : Machine Display where
  surface := .standard
  random := .zeros
  registers := { v := .ofFn fun k => UInt8.ofNat (k.val + 1), i := 0xFFE }

/-- V0 and V1 are stored, and are found again by a machine whose registers are all zero. -/
theorem block_transfers_fit_at_edge :
    let m := edgeOfMemory
    ((0 ≤ m.registers.i ∧ m.registers.i ≤ 0xFFFF) ∧
      ((0xFF55 : Word).fits "FX55" ∧ (0xFF55 : Word).x = Registers.flag) ∧
      (0xFF65 : Word).fits "FX65" ∧ (0xFF65 : Word).x = Registers.flag) ∧
    m.TransfersFit Registers.flag 2 0xFF55 0xFF65 ∧
    ∃ m' n', m.execute 0xFF55 = .ok () m' ∧ m'.registers.i = 0x1000 ∧
      m'.memory.peek 0xFFE = .ok 1 ∧ m'.memory.peek 0xFFF = .ok 2 ∧
      ({ m' with registers := { i := 0xFFE } } : Machine Display).execute 0xFF65 = .ok () n' ∧
      n'.registers.get Registers.first = 1 := by
  intro m
  have hi : 0 ≤ m.registers.i ∧ m.registers.i ≤ 0xFFFF := by decide
  have hsave : (0xFF55 : Word).fits "FX55" ∧ (0xFF55 : Word).x = Registers.flag := by decide
  have hload : (0xFF65 : Word).fits "FX65" ∧ (0xFF65 : Word).x = Registers.flag := by decide
  have h : m.TransfersFit Registers.flag 2 0xFF55 0xFF65 :=
    block_transfers_fit m hi Registers.flag 0xFF55 0xFF65 hsave hload
  obtain ⟨m', hm', hsaved⟩ := h.saved
  obtain ⟨n', hn', hreloaded⟩ := h.reloaded m' { m' with registers := { i := 0xFFE } } hm' rfl rfl
  have hnext : m'.registers.i = 0x1000 := by rw [hsaved.rest]; rfl
  exact ⟨⟨hi, hsave, hload⟩, h, m', n', hm', hnext, hsaved.stored Registers.first (by decide),
    hsaved.stored ⟨1, by decide⟩ (by decide), hn', hreloaded Registers.first (by decide)⟩

end Machine

end Chip8
