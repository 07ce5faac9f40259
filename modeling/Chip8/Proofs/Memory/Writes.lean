import Chip8.Memory.View
import Chip8.Proofs.Lists
import Chip8.Proofs.Memory.Bytes

namespace Chip8.Memory

/-- A call that writes to memory. The window of a store may have been opened at any time before. -/
inductive Call where
  | poke (addr value : Int)
  | load (addr : Int) (data : List UInt8)
  | loadProgram (data : List UInt8)
  | store (view : View) (index value : Int)

/-- The place in a window that an index stands for. Below zero it counts from the end. -/
def View.place (view : View) (index : Int) : Int :=
  if index < 0 then index + view.length else index

theorem View.place_within_iff (view : View) (index : Int) :
    0 ≤ view.place index ∧ view.place index < view.length ↔
      -view.length ≤ index ∧ index < view.length := by
  have hlength := view.holds.2.1
  unfold place
  split <;> omega

namespace Call

def target : Call → Int × List Int
  | .poke addr value => (addr, [value])
  | .load addr data => (addr, data.map fun b => (b.toNat : Int))
  | .loadProgram data => (0x200, data.map fun b => (b.toNat : Int))
  | .store view index value => (view.addr + view.place index, [value])

/-- What a call needs to be carried out: a place in memory for all that it writes, or a window that
may be written to, an index within it, and a byte. -/
def Fits : Call → Prop
  | .poke addr _ => 0 ≤ addr ∧ addr < 4096
  | .load addr data => 0 ≤ addr ∧ addr + data.length ≤ 4096
  | .loadProgram data => data.length ≤ 3584
  | .store view index value =>
    view.writable ∧ (-view.length ≤ index ∧ index < view.length) ∧ 0 ≤ value ∧ value < 256

instance : DecidablePred Fits
  | .poke addr _ => inferInstanceAs (Decidable (0 ≤ addr ∧ addr < 4096))
  | .load addr data => inferInstanceAs (Decidable (0 ≤ addr ∧ addr + data.length ≤ 4096))
  | .loadProgram data => inferInstanceAs (Decidable (data.length ≤ 3584))
  | .store view index value =>
    inferInstanceAs (Decidable
      (view.writable ∧ (-view.length ≤ index ∧ index < view.length) ∧ 0 ≤ value ∧ value < 256))

/-- The number that a call writes at an address, if what it writes covers the address. -/
def number? (addr : Int) (call : Call) : Option Int :=
  if call.target.1 ≤ addr then call.target.2[(addr - call.target.1).toNat]? else none

def lastNumber? (calls : List Call) (addr : Int) : Option Int :=
  ((calls.filter fun call => call.Fits).filterMap (number? addr)).getLast?

end Call

def written? (m : Memory) : Call → Option Memory
  | .poke addr value => (m.poke addr value).toOption
  | .load addr data => (m.load addr data).toOption
  | .loadProgram data => (m.loadProgram data).toOption
  | .store view index value => (view.store m index value).toOption

def after (m : Memory) (call : Call) : Memory := (m.written? call).getD m

def afterAll (m : Memory) (calls : List Call) : Memory := calls.foldl after m

theorem map_ofInt_toNat (data : List UInt8) :
    (data.map fun b => (b.toNat : Int)).map UInt8.ofInt = data := by
  rw [List.map_map]
  calc data.map (UInt8.ofInt ∘ fun b => (b.toNat : Int))
    _ = data.map id := List.map_congr_left fun b _ => toNat_ofInt_byte b
    _ = data := List.map_id data

theorem loadProgram_holds_iff (data : List UInt8) :
    Holds programStart data.length ↔ data.length ≤ 3584 := by
  unfold Holds programStart
  omega

theorem View.store_at_place (view : View) (m : Memory) (index value : Int) :
    view.store m index value =
      if !view.writable then .error .readOnly
      else if view.place index < 0 ∨ view.length ≤ view.place index then .error .index
      else if value < 0 ∨ 256 ≤ value then .error .value
      else .ok (m.write (view.addr + view.place index).toNat [UInt8.ofInt value]) := rfl

theorem View.store_of_fits (view : View) (m : Memory) (index value : Int)
    (h : (Call.store view index value).Fits) :
    view.store m index value =
      .ok (m.write (view.addr + view.place index).toNat [UInt8.ofInt value]) := by
  obtain ⟨hw, hindex, hvalue⟩ := h
  have hplace := (view.place_within_iff index).mpr hindex
  rw [store_at_place, hw, if_neg (by decide), if_neg (by omega), if_neg (by omega)]

theorem View.store_of_not_fits (view : View) (m : Memory) (index value : Int)
    (h : ¬ (Call.store view index value).Fits) :
    ∃ refusal, view.store m index value = .error refusal := by
  rw [store_at_place]
  by_cases hw : view.writable = true
  · by_cases hplace : 0 ≤ view.place index ∧ view.place index < view.length
    · have hindex := (view.place_within_iff index).mp hplace
      have hvalue : value < 0 ∨ 256 ≤ value := by
        have : ¬ (0 ≤ value ∧ value < 256) := fun hvalue => h ⟨hw, hindex, hvalue⟩
        omega
      rw [hw, if_neg (by decide), if_neg (by omega), if_pos hvalue]
      exact ⟨_, rfl⟩
    · rw [hw, if_neg (by decide), if_pos (by omega)]
      exact ⟨_, rfl⟩
  · rw [if_pos (by simpa using hw)]
    exact ⟨_, rfl⟩

/-- Every call that is carried out writes its numbers from its address on, and no other writes. -/
theorem written?_eq (m : Memory) (call : Call) :
    m.written? call =
      if call.Fits then some (m.write call.target.1.toNat (call.target.2.map UInt8.ofInt))
      else none := by
  by_cases h : call.Fits
  · rw [if_pos h]
    cases call with
    | poke addr value => exact congrArg Except.toOption (if_pos h)
    | load addr data =>
      have hholds : Holds addr data.length := ⟨h.1, by omega, h.2⟩
      rw [Call.target, map_ofInt_toNat]
      exact congrArg Except.toOption (if_pos hholds)
    | loadProgram data =>
      rw [Call.target, map_ofInt_toNat]
      exact congrArg Except.toOption (if_pos ((loadProgram_holds_iff data).mpr h))
    | store view index value =>
      exact congrArg Except.toOption (view.store_of_fits m index value h)
  · rw [if_neg h]
    cases call with
    | poke addr value => exact congrArg Except.toOption (if_neg h)
    | load addr data =>
      have hholds : ¬ Holds addr data.length := fun hholds => h ⟨hholds.1, hholds.2.2⟩
      exact congrArg Except.toOption (if_neg hholds)
    | loadProgram data =>
      exact congrArg Except.toOption (if_neg (mt (loadProgram_holds_iff data).mp h))
    | store view index value =>
      obtain ⟨refusal, hrefusal⟩ := view.store_of_not_fits m index value h
      exact congrArg Except.toOption hrefusal

theorem after_eq (m : Memory) (call : Call) :
    m.after call =
      if call.Fits then m.write call.target.1.toNat (call.target.2.map UInt8.ofInt) else m := by
  rw [after, written?_eq]
  split <;> rfl

theorem Call.target_nonneg (call : Call) (h : call.Fits) : 0 ≤ call.target.1 := by
  cases call with
  | poke addr value => exact h.1
  | load addr data => exact h.1
  | loadProgram data => exact Int.natCast_nonneg 0x200
  | store view index value =>
    have hplace := (view.place_within_iff index).mpr h.2.1
    exact Int.add_nonneg view.holds.1 hplace.1

theorem byte_after (m : Memory) (call : Call) (addr : Int) (haddr : InRange addr) :
    (m.after call).byte addr.toNat =
      ((if call.Fits then call.number? addr else none).map UInt8.ofInt).getD
        (m.byte addr.toNat) := by
  have hlt : addr.toNat < 4096 := by
    have := haddr.2
    omega
  rw [after_eq]
  by_cases h : call.Fits
  · have hstart := call.target_nonneg h
    have hcovers : call.target.1.toNat ≤ addr.toNat ↔ call.target.1 ≤ addr := by
      have := haddr.1
      omega
    have hindex : addr.toNat - call.target.1.toNat = (addr - call.target.1).toNat := by omega
    rw [if_pos h, if_pos h, byte_write _ _ _ _ hlt, List.getElem?_map, hindex, Call.number?]
    simp only [hcovers]
    split <;> rfl
  · rw [if_neg h, if_neg h]
    rfl

theorem byte_afterAll (m : Memory) (calls : List Call) (addr : Int) (haddr : InRange addr) :
    (m.afterAll calls).byte addr.toNat =
      ((Call.lastNumber? calls addr).map UInt8.ofInt).getD (m.byte addr.toNat) := by
  have hlast := foldl_last_given after (fun m : Memory => m.byte addr.toNat)
    (fun call => (if call.Fits then call.number? addr else none).map UInt8.ofInt) (fun _ => True)
    (fun _ _ _ => trivial) (fun m call _ => m.byte_after call addr haddr) m trivial calls
  rw [Call.lastNumber?, List.filterMap_filter, ← List.getLast?_map, List.map_filterMap]
  simp only [decide_eq_true_eq]
  exact hlast

def initialByte (addr : Int) : UInt8 :=
  if addr < 80 then font.toList.getD addr.toNat 0 else 0

theorem byte_initial (addr : Int) (haddr : InRange addr) :
    initial.byte addr.toNat = initialByte addr := by
  have hlt : addr.toNat < 4096 := by
    have := haddr.2
    omega
  rw [byte_of_lt _ _ hlt, initial, Vector.getElem_ofFn, initialByte]
  by_cases h : addr < 80
  · have hk : addr.toNat < 80 := by omega
    have hfont : font[addr.toNat]? = some (font.get ⟨addr.toNat, hk⟩) :=
      Vector.getElem?_eq_getElem hk
    rw [if_pos h, dif_pos hk, List.getD_eq_getElem?_getD, Vector.getElem?_toList, hfont,
      Option.getD_some]
  · have hk : ¬ addr.toNat < 80 := by omega
    rw [if_neg h, dif_neg hk]

theorem peek_initial (addr : Int) (haddr : InRange addr) :
    initial.peek addr = .ok (initialByte addr) := by
  rw [peek_of_inRange _ _ haddr, byte_initial addr haddr]

theorem ofInt_toNat (n : Int) : ((UInt8.ofInt n).toNat : Int) = n % 256 := by
  have hnonneg := Int.emod_nonneg n (b := 256) (by decide)
  have hlt := Int.emod_lt_of_pos n (b := 256) (by decide)
  show ((UInt8.ofNat (n % 256).toNat).toNat : Int) = n % 256
  rw [UInt8.toNat_ofNat']
  omega

/-- An access goes through if and only if it is inside, and is refused for a fault otherwise. -/
structure Checked {α : Type} (inside : Prop) (fault : Fault) (access : Except Fault α) : Prop where
  ok_iff : (∃ a, access = .ok a) ↔ inside
  refused : ¬ inside → access = .error fault

theorem checked_of_cases {α : Type} {inside : Prop} {fault : Fault} {access : Except Fault α}
    (hok : inside → ∃ a, access = .ok a) (hrefused : ¬ inside → access = .error fault) :
    Checked inside fault access := by
  refine ⟨⟨?_, hok⟩, hrefused⟩
  rintro ⟨a, ha⟩
  by_cases hin : inside
  · exact hin
  · rw [hrefused hin] at ha
    cases ha

/-- Every access to a memory is checked against its bounds, and a call that is refused changes no
byte. -/
structure ChecksBounds (m : Memory) : Prop where
  size : m.size = 4096 ∧ m.bytes.toList.length = 4096
  peek : ∀ addr, Checked (0 ≤ addr ∧ addr < 4096) (.outOfRange addr 1) (m.peek addr)
  poke : ∀ addr value, Checked (0 ≤ addr ∧ addr < 4096) (.outOfRange addr 1) (m.poke addr value)
  block : ∀ addr length, Checked (0 ≤ addr ∧ 0 ≤ length ∧ addr + length ≤ 4096)
    (.outOfRange addr length) (m.block addr length)
  window : ∀ addr length writable, Checked (0 ≤ addr ∧ 0 ≤ length ∧ addr + length ≤ 4096)
    (.outOfRange addr length) (View.open? addr length writable)
  load : ∀ (addr : Int) (data : List UInt8), Checked (0 ≤ addr ∧ addr + data.length ≤ 4096)
    (.outOfRange addr data.length) (m.load addr data)
  loadProgram : ∀ data, Checked (data.length ≤ 3584) (.outOfRange 0x200 data.length)
    (m.loadProgram data)
  carriedOut_iff : ∀ call, (m.written? call).isSome ↔ call.Fits
  refused : ∀ call, ¬ call.Fits → m.after call = m

theorem checksBounds (m : Memory) : m.ChecksBounds where
  size := ⟨rfl, m.bytes.length_toList⟩
  peek addr := checked_of_cases (fun h => ⟨_, if_pos h⟩) fun h => if_neg h
  poke addr value := checked_of_cases (fun h => ⟨_, if_pos h⟩) fun h => if_neg h
  block addr length := checked_of_cases (fun h => ⟨_, if_pos h⟩) fun h => if_neg h
  window addr length writable := checked_of_cases (fun h => ⟨_, dif_pos h⟩) fun h => dif_neg h
  load addr data := by
    have hholds : Holds addr data.length ↔ 0 ≤ addr ∧ addr + data.length ≤ 4096 := by
      unfold Holds
      omega
    exact checked_of_cases (fun h => ⟨_, if_pos (hholds.mpr h)⟩) fun h =>
      if_neg (mt hholds.mp h)
  loadProgram data :=
    checked_of_cases (fun h => ⟨_, if_pos ((loadProgram_holds_iff data).mpr h)⟩) fun h =>
      if_neg (mt (loadProgram_holds_iff data).mp h)
  carriedOut_iff call := by
    rw [written?_eq]
    by_cases h : call.Fits <;> simp [h]
  refused call h := by rw [after_eq, if_neg h]

/-- A memory that some calls have left holds at each address the low eight bits of what was written
there last, or what a fresh memory holds there. Blocks and windows show what is read byte by byte.
-/
structure HoldsLastWrites (calls : List Call) (m : Memory) : Prop where
  written : ∀ addr n, 0 ≤ addr ∧ addr < 4096 → Call.lastNumber? calls addr = some n →
    ∃ b, m.peek addr = .ok b ∧ (b.toNat : Int) = n % 256
  untouched : ∀ addr, 0 ≤ addr ∧ addr < 4096 → Call.lastNumber? calls addr = none →
    m.peek addr = .ok (initialByte addr)
  block : ∀ addr length, 0 ≤ addr ∧ 0 ≤ length ∧ addr + length ≤ 4096 →
    ∃ bytes, m.block addr length = .ok bytes ∧
      bytes.map .ok = (List.range length.toNat).map fun (k : Nat) => m.peek (addr + k)
  window : ∀ addr length writable view, View.open? addr length writable = .ok view →
    (view.bytes m).map .ok = (List.range length.toNat).map fun (k : Nat) => m.peek (addr + k)

theorem View.of_open? {addr length : Int} {writable : Bool} {view : View}
    (h : View.open? addr length writable = .ok view) :
    ∃ hholds : Holds addr length, view = ⟨addr, length, writable, hholds⟩ := by
  unfold View.open? at h
  split at h
  · rename_i hholds
    exact ⟨hholds, (Except.ok.inj h).symm⟩
  · cases h

theorem map_peek_of_holds (m : Memory) (addr length : Int) (h : Holds addr length) :
    ((List.range length.toNat).map fun k => m.byte (addr.toNat + k)).map Except.ok =
      (List.range length.toNat).map fun (k : Nat) => m.peek (addr + k) := by
  obtain ⟨haddr, hlength, hend⟩ := h
  rw [List.map_map]
  apply List.map_congr_left
  intro k hk
  have hlt := List.mem_range.mp hk
  have hin : InRange (addr + k) := ⟨by omega, by omega⟩
  have hplace : (addr + k).toNat = addr.toNat + k := by omega
  rw [peek_of_inRange m _ hin, hplace]
  rfl

/-- Memory is an array of 4096 bytes whose accesses are checked, and whatever is done to it, each
byte is what was written last. -/
theorem checked_array_of_last_writes (calls : List Call) :
    (initial.afterAll calls).ChecksBounds ∧
      HoldsLastWrites calls (initial.afterAll calls) := by
  refine ⟨checksBounds _, ?_⟩
  have hbyte (addr : Int) (haddr : 0 ≤ addr ∧ addr < 4096) :
      (initial.afterAll calls).peek addr =
        .ok (((Call.lastNumber? calls addr).map UInt8.ofInt).getD (initialByte addr)) := by
    rw [peek_of_inRange _ _ haddr, byte_afterAll _ _ _ haddr, byte_initial addr haddr]
  refine ⟨?_, ?_, ?_, ?_⟩
  · intro addr n haddr hlast
    have hpeek := hbyte addr haddr
    rw [hlast, Option.map_some, Option.getD_some] at hpeek
    exact ⟨_, hpeek, ofInt_toNat n⟩
  · intro addr haddr hlast
    have hpeek := hbyte addr haddr
    rwa [hlast, Option.map_none, Option.getD_none] at hpeek
  · intro addr length h
    exact ⟨_, if_pos h, map_peek_of_holds _ addr length h⟩
  · intro addr length writable view hopen
    obtain ⟨h, rfl⟩ := View.of_open? hopen
    exact map_peek_of_holds _ addr length h

/-- A write that is refused does not count, and of those that overlap the last does. -/
example : Call.lastNumber? [.poke 0x300 0x1FF, .load 0x2FF [1, 2, 3], .load 0xFFF [4, 5]] 0x300 =
    some 2 := by decide

end Chip8.Memory
