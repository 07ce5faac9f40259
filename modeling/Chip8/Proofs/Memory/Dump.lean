import Chip8.Memory.Dump
import Chip8.Proofs.Memory.Bytes
import Chip8.Proofs.Text.Hexadecimal
import Chip8.Proofs.Text.Joined
import Mathlib.Order.Bounds.Defs

namespace Chip8.Memory

def dumpedLines (text : String) : List String := if text = "" then [] else Text.lines text

def lineLabel (line : String) : String := String.ofList (line.toList.takeWhile (· != ':'))

def lineBody (line : String) : List Char := (line.toList.dropWhile (· != ':')).drop 2

def hexPlace (c : Nat) : Nat := 3 * c + c / 8

def textPlace : Nat := 51

def hexColumn (line : String) (c : Nat) : String :=
  String.ofList (((lineBody line).drop (hexPlace c)).take 2)

def textColumn (line : String) (c : Nat) : Option Char := (lineBody line)[textPlace + c]?

def ofHexColumn? (cell : String) : Option (Option UInt8) :=
  if cell = "??" then some none
  else (Text.Base.hexadecimal.integer? cell).map fun n => some (UInt8.ofInt n)

/-- Reads an address off a line, and the sixteen bytes from it on. -/
def ofDumpRow? (line : String) : Option (Int × List (Option UInt8)) :=
  (Text.Base.hexadecimal.integer? (String.ofList ((lineLabel line).toList.drop 2))).bind
    fun addr => ((List.range 16).mapM fun c => ofHexColumn? (hexColumn line c)).map
      fun bytes => (addr, bytes)

/-- Reads a whole dump. -/
def ofDump? (text : String) : Option (List (Int × List (Option UInt8))) :=
  (dumpedLines text).mapM ofDumpRow?

variable (m : Memory)

theorem hexCell_of_ok (addr : Int) (b : UInt8) (h : m.peek addr = .ok b) :
    m.hexCell addr = Text.hex 2 b.toNat := by
  rw [hexCell, h]

theorem hexCell_of_not_inRange (addr : Int) (h : ¬ InRange addr) : m.hexCell addr = "??" := by
  rw [hexCell, peek_of_not_inRange m addr h]

theorem length_hexCell (addr : Int) : (m.hexCell addr).toList.length = 2 := by
  by_cases h : InRange addr
  · rw [hexCell_of_ok m addr _ (peek_of_inRange m addr h), String.length_toList]
    exact Text.length_hex_two _ (m.byte addr.toNat).toNat_lt
  · rw [hexCell_of_not_inRange m addr h]
    rfl

theorem textCell_of_printable (addr : Int) (b : UInt8) (h : m.peek addr = .ok b)
    (hb : 0x20 ≤ b.toNat ∧ b.toNat ≤ 0x7E) : m.textCell addr = Char.ofNat b.toNat := by
  simp only [textCell, h, if_pos hb]

theorem textCell_of_not_printable (addr : Int)
    (h : ∀ b, m.peek addr = .ok b → ¬ (0x20 ≤ b.toNat ∧ b.toNat ≤ 0x7E)) :
    m.textCell addr = '.' := by
  unfold textCell
  cases hpeek : m.peek addr with
  | error fault => rfl
  | ok b => exact if_neg (h b hpeek)

def hexHalf (addr : Int) (first : Nat) : List Char :=
  [' '].intercalate ((List.range 8).map fun k => (m.hexCell (addr + (first + k : Nat))).toList)

theorem length_hexHalf (addr : Int) (first : Nat) : (m.hexHalf addr first).length = 23 := by
  rw [hexHalf, length_intercalate _ _ 2]
  · rfl
  · intro cell hcell
    obtain ⟨k, -, rfl⟩ := List.mem_map.mp hcell
    exact m.length_hexCell _

theorem cell_hexHalf (addr : Int) (first k : Nat) (hk : k < 8) (rest : List Char) :
    ((m.hexHalf addr first ++ rest).drop (3 * k)).take 2 =
      (m.hexCell (addr + (first + k : Nat))).toList := by
  rw [Nat.mul_comm]
  apply take_drop_intercalate [' '] _ 2
  · intro cell hcell
    obtain ⟨j, -, rfl⟩ := List.mem_map.mp hcell
    exact m.length_hexCell _
  · rw [List.getElem?_map, List.getElem?_range hk, Option.map_some]

def rowText (addr : Int) : List Char := (List.range 16).map fun k => m.textCell (addr + (k : Nat))

theorem toList_dumpRow (addr : Int) :
    (m.dumpRow addr).toList = ('0' :: 'x' :: (Text.hex 4 addr).toList) ++ (':' :: ' ' ::
      (m.hexHalf addr 0 ++ ([' ', ' '] ++ (m.hexHalf addr 8 ++
        ([' ', ' ', '|'] ++ (m.rowText addr ++ ['|'])))))) := by
  let cells (first : Nat) := " ".intercalate
    ((List.range 8).map fun k => m.hexCell (addr + (first + k : Nat)))
  have hcells (first : Nat) : (cells first).toList = m.hexHalf addr first := by
    rw [String.toList_intercalate, List.map_map]
    rfl
  calc (m.dumpRow addr).toList
    _ = ("0x" ++ Text.hex 4 addr ++ ": " ++ cells 0 ++ "  " ++ cells 8 ++ "  |" ++
          String.ofList (m.rowText addr) ++ "|").toList := rfl
    _ = _ := by
      simp only [String.toList_append, hcells, String.toList_ofList, List.append_assoc]
      rfl

theorem colon_not_mem_label (addr : Int) :
    ∀ c ∈ '0' :: 'x' :: (Text.hex 4 addr).toList, (c != ':') = true := by
  intro c hc
  rw [bne_iff_ne]
  rintro rfl
  rcases List.mem_cons.mp hc with hc | hc
  · exact absurd hc (by decide)
  · rcases List.mem_cons.mp hc with hc | hc
    · exact absurd hc (by decide)
    · exact Text.not_mem_hex 4 addr ':' (by decide) hc

theorem lineLabel_dumpRow (addr : Int) : lineLabel (m.dumpRow addr) = "0x" ++ Text.hex 4 addr := by
  rw [lineLabel, toList_dumpRow, List.takeWhile_append_of_pos (colon_not_mem_label addr)]
  rw [← String.toList_inj, String.toList_ofList, String.toList_append]
  simp

theorem lineBody_dumpRow (addr : Int) :
    lineBody (m.dumpRow addr) = m.hexHalf addr 0 ++ ([' ', ' '] ++ (m.hexHalf addr 8 ++
      ([' ', ' ', '|'] ++ (m.rowText addr ++ ['|'])))) := by
  rw [lineBody, toList_dumpRow, List.dropWhile_append_of_pos (colon_not_mem_label addr)]
  rfl

theorem length_lineBody_dumpRow (addr : Int) : (lineBody (m.dumpRow addr)).length = 68 := by
  rw [lineBody_dumpRow]
  simp [length_hexHalf, rowText]

theorem hexColumn_dumpRow (addr : Int) (c : Nat) (hc : c < 16) :
    hexColumn (m.dumpRow addr) c = m.hexCell (addr + c) := by
  rw [hexColumn, lineBody_dumpRow, hexPlace, ← String.toList_inj, String.toList_ofList]
  rcases Nat.lt_or_ge c 8 with hleft | hright
  · have hplace : 3 * c + c / 8 = 3 * c := by omega
    rw [hplace, m.cell_hexHalf addr 0 c hleft, Nat.zero_add]
  · -- The left half and the gap take 25 characters.
    obtain ⟨k, rfl⟩ := Nat.exists_eq_add_of_le hright
    have hplace : 3 * (8 + k) + (8 + k) / 8 = 23 + (2 + 3 * k) := by omega
    have hgap : [' ', ' '].length = 2 := rfl
    rw [hplace, ← List.drop_drop, List.drop_left' (m.length_hexHalf addr 0), ← List.drop_drop,
      List.drop_left' hgap]
    exact m.cell_hexHalf addr 8 k (by omega) _

theorem textColumn_dumpRow (addr : Int) (c : Nat) (hc : c < 16) :
    textColumn (m.dumpRow addr) c = some (m.textCell (addr + c)) := by
  have hfront : (m.hexHalf addr 0 ++ ([' ', ' '] ++ (m.hexHalf addr 8 ++ [' ', ' ', '|']))).length =
      textPlace := by
    simp [length_hexHalf, textPlace]
  have hbody : lineBody (m.dumpRow addr) =
      (m.hexHalf addr 0 ++ ([' ', ' '] ++ (m.hexHalf addr 8 ++ [' ', ' ', '|']))) ++
        (m.rowText addr ++ ['|']) := by
    rw [lineBody_dumpRow]
    simp only [List.append_assoc]
  have hlength : c < (m.rowText addr).length := by
    rwa [rowText, List.length_map, List.length_range]
  rw [textColumn, hbody, List.getElem?_append_right (by omega), hfront, Nat.add_sub_cancel_left,
    List.getElem?_append_left hlength, rowText, List.getElem?_map, List.getElem?_range hc,
    Option.map_some]

/-- A line of a dump shows the sixteen bytes from an address on: behind the address come two digits
for each of them, or question marks where memory has no byte, and then their characters, with a
point for those that cannot be printed. -/
structure ShowsRow (addr : Int) (line : String) : Prop where
  label : lineLabel line = "0x" ++ Text.hex 4 addr
  length : (lineBody line).length = 68
  digits : ∀ c : Nat, c < 16 → ∀ b, m.peek (addr + c) = .ok b →
    hexColumn line c = String.ofList [Text.hexDigit (b.toNat / 16), Text.hexDigit (b.toNat % 16)]
  beyond : ∀ c : Nat, c < 16 → ¬ InRange (addr + c) → hexColumn line c = "??"
  printable : ∀ c : Nat, c < 16 → ∀ b, m.peek (addr + c) = .ok b →
    0x20 ≤ b.toNat ∧ b.toNat ≤ 0x7E → textColumn line c = some (Char.ofNat b.toNat)
  point : ∀ c : Nat, c < 16 →
    (∀ b, m.peek (addr + c) = .ok b → ¬ (0x20 ≤ b.toNat ∧ b.toNat ≤ 0x7E)) →
    textColumn line c = some '.'

theorem showsRow_dumpRow (addr : Int) : m.ShowsRow addr (m.dumpRow addr) where
  label := m.lineLabel_dumpRow addr
  length := m.length_lineBody_dumpRow addr
  digits c hc b hb := by
    rw [hexColumn_dumpRow m addr c hc, hexCell_of_ok m _ b hb, Text.hex_two_eq _ b.toNat_lt]
  beyond c hc hout := by rw [hexColumn_dumpRow m addr c hc, hexCell_of_not_inRange m _ hout]
  printable c hc b hb hprint := by
    rw [textColumn_dumpRow m addr c hc, textCell_of_printable m _ b hb hprint]
  point c hc h := by rw [textColumn_dumpRow m addr c hc, textCell_of_not_printable m _ h]

theorem ofHexColumn?_hexCell (addr : Int) :
    ofHexColumn? (m.hexCell addr) = some (m.peek addr).toOption := by
  by_cases h : InRange addr
  · have hpeek := peek_of_inRange m addr h
    have hdigits : Text.hex 2 (m.byte addr.toNat).toNat ≠ "??" := by
      intro heq
      apply Text.not_mem_hex 2 (m.byte addr.toNat).toNat '?' (by decide)
      rw [heq]
      decide
    rw [hexCell_of_ok m addr _ hpeek, hpeek, ofHexColumn?, if_neg hdigits, Text.integer?_hex,
      Option.map_some, toNat_ofInt_byte]
    rfl
  · rw [hexCell_of_not_inRange m addr h, peek_of_not_inRange m addr h]
    rfl

def rowBytes (addr : Int) : List (Option UInt8) :=
  (List.range 16).map fun c => (m.peek (addr + (c : Nat))).toOption

theorem ofDumpRow?_dumpRow (addr : Int) :
    ofDumpRow? (m.dumpRow addr) = some (addr, m.rowBytes addr) := by
  have hlabel : (lineLabel (m.dumpRow addr)).toList.drop 2 = (Text.hex 4 addr).toList := by
    rw [lineLabel_dumpRow, String.toList_append]
    rfl
  have hbytes : ((List.range 16).mapM fun c => ofHexColumn? (hexColumn (m.dumpRow addr) c)) =
      some (m.rowBytes addr) := by
    have hread := mapM_map_of_forall id (fun c => ofHexColumn? (hexColumn (m.dumpRow addr) c))
      (fun c : Nat => (m.peek (addr + c)).toOption) (List.range 16) ?_
    · rwa [List.map_id] at hread
    · intro c hc
      rw [id, hexColumn_dumpRow m addr c (List.mem_range.mp hc), ofHexColumn?_hexCell]
  rw [ofDumpRow?, hlabel, String.ofList_toList, Text.integer?_hex, Option.bind_some, hbytes,
    Option.map_some]

def markChars : List Char := [' ', '?'] ++ Text.hexChars

theorem mem_hexHalf (addr : Int) (first : Nat) (c : Char) (h : c ∈ m.hexHalf addr first) :
    c ∈ markChars := by
  rcases mem_intercalate _ _ c h with h | ⟨cell, hcell, hc⟩
  · rw [List.mem_singleton.mp h]
    decide
  · obtain ⟨k, -, rfl⟩ := List.mem_map.mp hcell
    by_cases hin : InRange (addr + (first + k : Nat))
    · rw [hexCell_of_ok m _ _ (peek_of_inRange m _ hin)] at hc
      exact List.mem_append_right _ (Text.mem_hex _ _ c hc)
    · rw [hexCell_of_not_inRange m _ hin] at hc
      have hmarks : "??".toList = List.replicate 2 '?' := rfl
      rw [hmarks] at hc
      rw [List.eq_of_mem_replicate hc]
      decide

theorem textCell_ne_break (addr : Int) : m.textCell addr ≠ '\n' := by
  by_cases h : ∃ b, m.peek addr = .ok b ∧ 0x20 ≤ b.toNat ∧ b.toNat ≤ 0x7E
  · obtain ⟨b, hpeek, hb⟩ := h
    have hprintable : ∀ n < 0x7F, 0x20 ≤ n → Char.ofNat n ≠ '\n' := by decide
    rw [textCell_of_printable m addr b hpeek hb]
    exact hprintable b.toNat (by omega) hb.1
  · rw [textCell_of_not_printable m addr fun b hpeek hb => h ⟨b, hpeek, hb⟩]
    decide

theorem break_not_mem_dumpRow (addr : Int) : '\n' ∉ (m.dumpRow addr).toList := by
  have hlabel : '\n' ∉ '0' :: 'x' :: (Text.hex 4 addr).toList := by
    have := Text.not_mem_hex 4 addr '\n' (by decide)
    simp [this]
  have hhalf (first : Nat) : '\n' ∉ m.hexHalf addr first := fun h =>
    absurd (m.mem_hexHalf addr first _ h) (by decide)
  have htext : '\n' ∉ m.rowText addr := by
    intro h
    obtain ⟨k, -, hk⟩ := List.mem_map.mp h
    exact m.textCell_ne_break _ hk
  rw [toList_dumpRow, List.mem_append, not_or]
  refine ⟨hlabel, ?_⟩
  simp [hhalf, htext]

theorem dumpedLines_dump (start : Int) (rows : Nat) :
    dumpedLines (m.dump start rows) = m.dumpLines start rows := by
  cases rows with
  | zero => rfl
  | succ rows =>
    have hfirst : m.dumpRow (rowStart start + 16 * (0 : Nat)) ∈ m.dumpLines start (rows + 1) :=
      List.mem_map_of_mem (List.mem_range.mpr (Nat.succ_pos rows))
    have hlines : Text.lines (m.dump start (rows + 1)) = m.dumpLines start (rows + 1) := by
      apply Text.lines_intercalate
      · exact List.ne_nil_of_mem hfirst
      · intro line hline
        obtain ⟨r, -, rfl⟩ := List.mem_map.mp hline
        exact m.break_not_mem_dumpRow _
    have hne : m.dump start (rows + 1) ≠ "" := by
      intro hempty
      rw [← hlines, hempty] at hfirst
      have hrow := congrArg String.toList (List.mem_singleton.mp hfirst)
      rw [toList_dumpRow] at hrow
      exact List.cons_ne_nil _ _ hrow
    rw [dumpedLines, if_neg hne, hlines]

theorem rowStart_isGreatest (start : Int) :
    IsGreatest {k | 16 ∣ k ∧ k ≤ start} (rowStart start) := by
  unfold rowStart
  refine ⟨⟨by omega, by omega⟩, ?_⟩
  rintro k ⟨hdvd, hle⟩
  omega

def shownRows (start : Int) (rows : Nat) : List (Int × List (Option UInt8)) :=
  (List.range rows).map fun r =>
    (rowStart start + 16 * (r : Nat), m.rowBytes (rowStart start + 16 * (r : Nat)))

theorem ofDump?_dump (start : Int) (rows : Nat) :
    ofDump? (m.dump start rows) = some (m.shownRows start rows) := by
  rw [ofDump?, dumpedLines_dump]
  apply mapM_map_of_forall
  intro r _
  exact m.ofDumpRow?_dumpRow _

/-- A dump shows as many rows of memory as it was asked for, from the row of its start on. -/
structure DumpShows (start : Int) (rows : Nat) : Prop where
  begins : IsGreatest {k | 16 ∣ k ∧ k ≤ start} (rowStart start)
  length : (dumpedLines (m.dump start rows)).length = rows
  shows : ∀ r line, (dumpedLines (m.dump start rows))[r]? = some line →
    m.ShowsRow (rowStart start + 16 * (r : Nat)) line
  read : ofDump? (m.dump start rows) = some (m.shownRows start rows)

theorem dumpShows (start : Int) (rows : Nat) : m.DumpShows start rows where
  begins := rowStart_isGreatest start
  length := by rw [dumpedLines_dump, dumpLines, List.length_map, List.length_range]
  shows r line h := by
    have hlt := (List.getElem?_eq_some_iff.mp h).1
    rw [dumpedLines_dump, dumpLines, List.length_map, List.length_range] at hlt
    rw [dumpedLines_dump, dumpLines, List.getElem?_map, List.getElem?_range hlt, Option.map_some,
      Option.some.injEq] at h
    rw [← h]
    exact m.showsRow_dumpRow _
  read := m.ofDump?_dump start rows

/-- The addresses that a dump covers, some of which may lie outside memory. -/
def Covered (start : Int) (rows : Nat) (addr : Int) : Prop :=
  rowStart start ≤ addr ∧ addr < rowStart start + 16 * rows

variable (m' : Memory)

theorem dumpRow_congr (addr : Int)
    (h : ∀ c : Nat, c < 16 → m.peek (addr + c) = m'.peek (addr + c)) :
    m.dumpRow addr = m'.dumpRow addr := by
  have hhex (c : Nat) (hc : c < 16) : m.hexCell (addr + c) = m'.hexCell (addr + c) := by
    rw [hexCell, hexCell, h c hc]
  have hhalf (first : Nat) (hfirst : first ≤ 8) : m.hexHalf addr first = m'.hexHalf addr first := by
    rw [hexHalf, hexHalf]
    congr 1
    apply List.map_congr_left
    intro k hk
    have := List.mem_range.mp hk
    rw [hhex (first + k) (by omega)]
  have htext : m.rowText addr = m'.rowText addr := by
    apply List.map_congr_left
    intro c hc
    rw [textCell, textCell, h c (List.mem_range.mp hc)]
  rw [← String.toList_inj, toList_dumpRow, toList_dumpRow, hhalf 0 (by decide), hhalf 8 (by decide),
    htext]

theorem peek_eq_of_toOption (addr : Int) (h : (m.peek addr).toOption = (m'.peek addr).toOption) :
    m.peek addr = m'.peek addr := by
  by_cases hin : InRange addr
  · rw [peek_of_inRange m addr hin, peek_of_inRange m' addr hin] at h ⊢
    exact congrArg Except.ok (Option.some.inj h)
  · rw [peek_of_not_inRange m addr hin, peek_of_not_inRange m' addr hin]

/-- A dump tells what the bytes are that it covers, and nothing else about the memory. -/
theorem dump_eq_iff (start : Int) (rows : Nat) :
    m.dump start rows = m'.dump start rows ↔
      ∀ addr, Covered start rows addr → m.peek addr = m'.peek addr := by
  constructor
  · intro h addr hcovered
    have hread := congrArg ofDump? h
    rw [ofDump?_dump, ofDump?_dump, Option.some.injEq] at hread
    -- The address is in column `c` of row `r`.
    let r := ((addr - rowStart start) / 16).toNat
    let c := ((addr - rowStart start) % 16).toNat
    have hr : r < rows := by
      unfold Covered at hcovered
      omega
    have hc : c < 16 := by omega
    have hplace : rowStart start + 16 * (r : Nat) + (c : Nat) = addr := by
      unfold Covered at hcovered
      omega
    have hrow := List.map_inj_left.mp hread r (List.mem_range.mpr hr)
    have hbytes := List.map_inj_left.mp (Prod.mk.inj hrow).2 c (List.mem_range.mpr hc)
    rw [hplace] at hbytes
    exact peek_eq_of_toOption m m' addr hbytes
  · intro h
    have hlines : m.dumpLines start rows = m'.dumpLines start rows := by
      apply List.map_congr_left
      intro r hr
      have := List.mem_range.mp hr
      apply dumpRow_congr
      intro c hc
      apply h
      unfold Covered
      omega
    rw [dump, dump, hlines]

/-- A dump is faithful, wherever it begins and however long it is. -/
theorem dump_faithful (start : Int) (rows : Nat) :
    m.DumpShows start rows ∧ (m.dump start rows = m'.dump start rows ↔
      ∀ addr, Covered start rows addr → m.peek addr = m'.peek addr) :=
  ⟨m.dumpShows start rows, m.dump_eq_iff m' start rows⟩

end Chip8.Memory
