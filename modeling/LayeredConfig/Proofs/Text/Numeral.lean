import LayeredConfig.Text.Numeral
import Mathlib.Data.List.Basic
import Mathlib.Data.List.Induction
import Mathlib.Data.Nat.Digits.Defs
import Mathlib.Data.Set.List

/-! Decimal numerals. Digits are read one after the other with arithmetic that may overflow on the
way, and this fails exactly when the number that they write is out of bounds. -/
namespace LayeredConfig.Text

/-- Decimal digits, at least one, the most significant first. -/
structure Digits where
  list : List (Fin 10)
  ne_nil : list ≠ []

namespace Digits

def chars (d : Digits) : List Char := d.list.map fun x => x.val.digitChar

def value (d : Digits) : Nat := Nat.ofDigits 10 (d.list.map Fin.val).reverse

end Digits

variable {s : List Char} {c : Char}

private theorem isDecimal_digitChar : ∀ x : Fin 10, isDecimal x.val.digitChar = true := by decide

private theorem digitValue_digitChar : ∀ x : Fin 10, digitValue x.val.digitChar = x := by decide

private theorem exists_digitChar (h : isDecimal c = true) : ∃ x : Fin 10, x.val.digitChar = c := by
  obtain ⟨low, high⟩ : 48 ≤ c.toNat ∧ c.toNat ≤ 57 := by
    simpa [isDecimal, Char.le_def, UInt32.le_iff_toNat_le] using h
  refine ⟨⟨c.toNat - 48, by omega⟩, Char.toNat_inj.mp ?_⟩
  dsimp only
  rw [Nat.toNat_digitChar_of_lt_ten (by omega), Nat.add_sub_cancel' low]

/-- The characters of digits are those from 0 to 9, in any number but none. -/
theorem exists_digits_iff :
    (∃ d : Digits, d.chars = s) ↔ s ≠ [] ∧ s.all isDecimal = true := by
  constructor
  · rintro ⟨d, rfl⟩
    refine ⟨mt List.map_eq_nil_iff.mp d.ne_nil, List.all_eq_true.mpr fun c hc => ?_⟩
    obtain ⟨x, -, rfl⟩ := List.mem_map.mp hc
    exact isDecimal_digitChar x
  · rintro ⟨some, decimal⟩
    have digits : s ∈ Set.range (List.map fun x : Fin 10 => x.val.digitChar) := by
      rw [Set.range_list_map]
      exact fun c hc => exists_digitChar (List.all_eq_true.mp decimal c hc)
    obtain ⟨l, rfl⟩ := digits
    exact ⟨⟨l, fun none => some (none ▸ rfl)⟩, rfl⟩

private theorem ofDigits_map_digitChar (l : List (Fin 10)) :
    ofDigits 10 (l.map fun x => x.val.digitChar) = Nat.ofDigits 10 (l.map Fin.val).reverse := by
  induction l using List.reverseRecOn with
  | nil => rfl
  | append_singleton l x ih =>
    rw [List.map_append, List.map_append, ofDigits_append, ih, List.map_singleton,
      List.map_singleton, List.reverse_concat, Nat.ofDigits_cons, List.foldl_cons, List.foldl_nil,
      digitValue_digitChar, Nat.add_comm]

private theorem ofDigits_chars (d : Digits) :
    ofDigits 10 d.chars = d.value := ofDigits_map_digitChar d.list

/-- A number is written in digits that have its value. -/
theorem exists_digits_toDigits (n : Nat) :
    ∃ d : Digits, d.chars = Nat.toDigits 10 n ∧ d.value = n := by
  have decimal : ∀ c ∈ Nat.toDigits 10 n, isDecimal c = true := fun c hc =>
    Nat.isDigit_of_mem_toDigits (by decide) (by decide) hc
  obtain ⟨d, hd⟩ := exists_digits_iff.mpr
    ⟨Nat.toDigits_ne_nil, List.all_eq_true.mpr decimal⟩
  have digit (c : Char) (h : isDecimal c = true) : digitValue c = c.toNat - '0'.toNat :=
    if_pos (by simpa [isDecimal] using h)
  refine ⟨d, hd, ?_⟩
  rw [← ofDigits_chars, hd]
  calc ofDigits 10 (Nat.toDigits 10 n)
      = Nat.ofDigitChars 10 (Nat.toDigits 10 n) 0 :=
        List.foldl_ext _ _ _ fun m c hc => congrArg (10 * m + ·) (digit c (decimal c hc))
    _ = n := Nat.ofDigitChars_ten_toDigits

/-- A number behind a minus, or without one. -/
def signed (negative : Bool) (n : Nat) : Int := if negative then -n else n

private theorem signed_zero (negative : Bool) : signed negative 0 = 0 := by cases negative <;> rfl

namespace Bounds

variable {b : Bounds} {negative : Bool} {m n : Nat}

/-- Closer to zero a number is in bounds as well. -/
theorem Holds.of_le (h : b.Holds (signed negative n)) (le : m ≤ n) :
    b.Holds (signed negative m) := by
  obtain ⟨low, high⟩ := h
  have nonneg : 0 ≤ (m : Int) := Int.natCast_nonneg m
  have closer : (m : Int) ≤ n := Int.ofNat_le.mpr le
  cases negative with
  | false =>
    constructor
    · exact b.least_le.trans nonneg
    · exact closer.trans high
  | true =>
    constructor
    · exact low.trans (Int.neg_le_neg closer)
    · exact (Int.neg_nonpos_of_nonneg nonneg).trans b.le_greatest

/-- To check each of the two calculations is to check the outcome. -/
theorem shift?_signed (b : Bounds) (negative : Bool) (n : Nat) (c : Char) :
    b.shift? negative (signed negative n) c =
      b.checked (signed negative (10 * n + digitValue c)) := by
  have tens : 10 * signed negative n = signed negative (10 * n) := by
    cases negative <;> simp [signed]
  have sum : (if negative then signed negative (10 * n) - digitValue c
      else signed negative (10 * n) + digitValue c) = signed negative (10 * n + digitValue c) := by
    cases negative
    · simp [signed]
    · simp [signed]; omega
  rw [shift?, tens]
  by_cases held : b.Holds (signed negative (10 * n))
  · rw [checked, if_pos held, Option.bind_some, sum]
  · have beyond : ¬b.Holds (signed negative (10 * n + digitValue c)) := fun h =>
      held (h.of_le (Nat.le_add_right _ _))
    rw [checked, if_neg held, checked, if_neg beyond, Option.bind_none]

private theorem le_foldl_digits (s : List Char) (n : Nat) :
    n ≤ s.foldl (fun n c => 10 * n + digitValue c) n := by
  induction s generalizing n with
  | nil => exact Nat.le_refl n
  | cons c r ih =>
    have next := ih (10 * n + digitValue c)
    rw [List.foldl_cons]
    omega

/-- To check each step is to check the outcome, as more digits only lead further away from zero. -/
theorem foldlM_shift? (held : b.Holds (signed negative n)) (s : List Char) :
    s.foldlM (b.shift? negative) (signed negative n) =
      b.checked (signed negative (s.foldl (fun n c => 10 * n + digitValue c) n)) := by
  induction s generalizing n with
  | nil => exact (if_pos held).symm
  | cons c r ih =>
    rw [List.foldlM_cons, shift?_signed, List.foldl_cons]
    by_cases next : b.Holds (signed negative (10 * n + digitValue c))
    · rw [checked, if_pos next]
      exact ih next
    · have beyond := mt (fun h => Holds.of_le h (le_foldl_digits r (10 * n + digitValue c))) next
      rw [checked, if_neg next, checked, if_neg beyond]
      rfl

/-- Reading digits fails exactly when the number that they write is out of bounds. -/
theorem ofDigits?_chars (b : Bounds) (negative : Bool) (d : Digits) :
    b.ofDigits? negative d.chars = b.checked (signed negative d.value) := by
  have zero : b.Holds (signed negative 0) := by
    rw [signed_zero]
    exact ⟨b.least_le, b.le_greatest⟩
  have read := foldlM_shift? zero d.chars
  rw [signed_zero] at read
  rw [ofDigits?, read, ← ofDigits_chars]
  rfl

end Bounds

end LayeredConfig.Text
