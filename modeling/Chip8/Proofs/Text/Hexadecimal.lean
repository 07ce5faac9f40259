import Chip8.Proofs.Text.Joined
import Chip8.Proofs.Text.Spelling
import Chip8.Text.Basic

namespace Chip8.Text

def hexChars : List Char := '-' :: (List.range 16).map hexDigit

theorem mem_hexDigits (n : Nat) (c : Char) (h : c ∈ hexDigits n) : ∃ d < 16, c = hexDigit d := by
  fun_induction hexDigits n with
  | case1 n hn => exact ⟨n, hn, List.mem_singleton.mp h⟩
  | case2 n hn ih =>
    rcases List.mem_append.mp h with h | h
    · exact ih h
    · exact ⟨n % 16, Nat.mod_lt n (by decide), List.mem_singleton.mp h⟩

theorem mem_hex (width : Nat) (n : Int) (c : Char) (h : c ∈ (hex width n).toList) :
    c ∈ hexChars := by
  have hdigit (d : Nat) (hd : d < 16) : hexDigit d ∈ hexChars :=
    List.mem_cons_of_mem _ (List.mem_map_of_mem (List.mem_range.mpr hd))
  rw [hex, String.toList_ofList, zeroFill, List.mem_append, List.mem_append] at h
  rcases h with (h | h) | h
  · have hsign : c = '-' := by
      split at h
      · exact List.mem_singleton.mp h
      · exact absurd h List.not_mem_nil
    rw [hsign]
    exact List.mem_cons_self
  · rw [List.eq_of_mem_replicate h]
    exact hdigit 0 (by decide)
  · obtain ⟨d, hd, rfl⟩ := mem_hexDigits _ c h
    exact hdigit d hd

theorem not_mem_hex (width : Nat) (n : Int) (c : Char) (h : c ∉ hexChars) :
    c ∉ (hex width n).toList := fun hc => h (mem_hex width n c hc)

theorem lacks_hex {cs : List Char} (h : ∀ c ∈ cs, c ∉ hexChars) (width : Nat) (n : Int) :
    Lacks cs (hex width n) := fun c hc => not_mem_hex width n c (h c hc)

theorem hex_two_eq (n : Nat) (h : n < 256) :
    hex 2 n = String.ofList [hexDigit (n / 16), hexDigit (n % 16)] := by
  have hnat : (n : Int).natAbs = n := Int.natAbs_natCast n
  have hsign : decide ((n : Int) < 0) = false := decide_eq_false (by omega)
  rw [hex, hsign, hnat, zeroFill]
  rcases Nat.lt_or_ge n 16 with hsmall | hlarge
  · rw [hexDigits_of_lt hsmall, Nat.div_eq_of_lt hsmall, Nat.mod_eq_of_lt hsmall]
    rfl
  · rw [hexDigits_of_le hlarge, hexDigits_of_lt (by omega)]
    rfl

theorem length_hex_two (n : Nat) (h : n < 256) : (hex 2 n).length = 2 := by
  rw [hex_two_eq n h, String.length_ofList]
  rfl

theorem exists_writtenDigits (n : Nat) :
    ∃ ds : List WrittenDigit, ds ≠ [] ∧ (∀ d ∈ ds, d.parted = false) ∧
      hexDigits n = ds.map WrittenDigit.char ∧ WrittenDigit.magnitude ds = n := by
  have hchar (d : Nat) (hd : d < 16) :
      hexDigit d = WrittenDigit.char { value := ⟨d, hd⟩, capital := true } := rfl
  fun_induction hexDigits n with
  | case1 n hn =>
    refine ⟨[{ value := ⟨n, hn⟩, capital := true }], List.cons_ne_nil _ _, ?_, ?_, ?_⟩
    · intro d hd
      rw [List.mem_singleton.mp hd]
    · rw [hchar n hn]
      rfl
    · simp [WrittenDigit.magnitude]
  | case2 n hn ih =>
    obtain ⟨ds, hne, hparted, hchars, hvalue⟩ := ih
    have hlast : n % 16 < 16 := Nat.mod_lt n (by decide)
    refine ⟨ds ++ [{ value := ⟨n % 16, hlast⟩, capital := true }], by simp, ?_, ?_, ?_⟩
    · intro d hd
      rcases List.mem_append.mp hd with hd | hd
      · exact hparted d hd
      · rw [List.mem_singleton.mp hd]
    · rw [hchars, List.map_append, hchar _ hlast]
      rfl
    · rw [WrittenDigit.magnitude] at hvalue
      rw [WrittenDigit.magnitude, List.foldl_append, hvalue]
      show n / 16 * 16 + n % 16 = n
      omega

theorem magnitude_zeros (count : Nat) (ds : List WrittenDigit) :
    WrittenDigit.magnitude (List.replicate count { value := 0 } ++ ds) =
      WrittenDigit.magnitude ds := by
  induction count with
  | zero => rfl
  | succ count ih =>
    rw [List.replicate_succ, List.cons_append]
    exact ih

theorem flatMap_chars (ds : List WrittenDigit) (h : ∀ d ∈ ds, d.parted = false) :
    ds.flatMap WrittenDigit.chars = ds.map WrittenDigit.char := by
  induction ds with
  | nil => rfl
  | cons d ds ih =>
    have hfirst : d.chars = [d.char] := if_neg (by rw [h d List.mem_cons_self]; decide)
    rw [List.flatMap_cons, hfirst, ih fun d hd => h d (List.mem_cons_of_mem _ hd)]
    rfl

theorem exists_filledDigits (count n : Nat) :
    ∃ first later, first.parted = false ∧
      List.replicate count '0' ++ hexDigits n = (first :: later).flatMap WrittenDigit.chars ∧
      WrittenDigit.magnitude (first :: later) = n := by
  obtain ⟨ds, hne, hparted, hchars, hvalue⟩ := exists_writtenDigits n
  let zeros : List WrittenDigit := List.replicate count { value := 0 }
  have hall : ∀ d ∈ zeros ++ ds, d.parted = false := by
    intro d hd
    rcases List.mem_append.mp hd with hd | hd
    · rw [List.eq_of_mem_replicate hd]
    · exact hparted d hd
  obtain ⟨first, later, hcons⟩ : ∃ first later, zeros ++ ds = first :: later :=
    List.exists_cons_of_ne_nil (List.append_ne_nil_of_right_ne_nil zeros hne)
  refine ⟨first, later, ?_, ?_, ?_⟩
  · apply hall
    rw [hcons]
    exact List.mem_cons_self
  · have hzeros : zeros.map WrittenDigit.char = List.replicate count '0' := List.map_replicate
    rw [← hcons, flatMap_chars _ hall, List.map_append, hzeros, hchars]
  · rw [← hcons, magnitude_zeros, hvalue]

/-- A number filled up with zeros is one of the ways to write it. -/
theorem exists_spelling (width : Nat) (n : Int) :
    ∃ sp : Spelling, sp.text = hex width n ∧ sp.value = n := by
  let sign : List Char := if decide (n < 0) then ['-'] else []
  have hmem : sign ∈ [[], ['+'], ['-']] := by
    by_cases hn : n < 0 <;> simp [sign, hn]
  obtain ⟨first, later, hfirst, hchars, hvalue⟩ :=
    exists_filledDigits (width - (sign.length + (hexDigits n.natAbs).length)) n.natAbs
  refine ⟨⟨sign, [], first, later, hmem, by decide, by simp [hfirst]⟩, ?_, ?_⟩
  · show String.ofList (sign ++ (first :: later).flatMap WrittenDigit.chars) = hex width n
    rw [← hchars, ← List.append_assoc]
    rfl
  · show (if sign = ['-'] then -((WrittenDigit.magnitude (first :: later) : Nat) : Int)
      else (WrittenDigit.magnitude (first :: later) : Nat)) = n
    rw [hvalue]
    by_cases hn : n < 0
    · have hsign : sign = ['-'] := if_pos (decide_eq_true hn)
      rw [if_pos hsign]
      omega
    · have hsign : sign = [] := if_neg (by simp [hn])
      rw [hsign, if_neg (by decide)]
      omega

/-- A numeral is read as the number that it was written for. -/
theorem integer?_hex (width : Nat) (n : Int) :
    Base.hexadecimal.integer? (hex width n) = some n := by
  obtain ⟨sp, htext, hvalue⟩ := exists_spelling width n
  rw [← htext, sp.integer?_text, hvalue]

end Chip8.Text
