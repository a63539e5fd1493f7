import LayeredConfig.Coercion
import LayeredConfig.Proofs.Text.Numeral

/-! Whole numbers. A text is read as the number that it writes, if it writes one of 64 bits, and as
no other; in particular each such number is read back from its own text. -/
namespace LayeredConfig.Coercion
open Text

/-- Decimal digits behind a minus, or without one. -/
structure Numeral where
  negative : Bool
  digits : Digits

namespace Numeral

def chars (m : Numeral) : List Char := if m.negative then '-' :: m.digits.chars else m.digits.chars

def value (m : Numeral) : Int := signed m.negative m.digits.value

private theorem chars_ne_nil (m : Numeral) : m.chars ≠ [] := by
  rw [chars]
  split
  · exact List.cons_ne_nil _ _
  · exact (exists_digits_iff.mp ⟨m.digits, rfl⟩).1

end Numeral

variable {s : List Char} {raw : String} {n : Int}

private theorem readInt?_minus (r : List Char) : readInt? ('-' :: r) =
    if r ≠ [] ∧ r.all isDecimal = true then Bounds.word.ofDigits? true r else none := rfl

private theorem readInt?_of_no_minus (h : ∀ r, s ≠ '-' :: r) : readInt? s =
    if s ≠ [] ∧ s.all isDecimal = true then Bounds.word.ofDigits? false s else none := by
  rw [readInt?]
  exact h

private theorem readInt?_chars (m : Numeral) : readInt? m.chars = Bounds.word.checked m.value := by
  obtain ⟨negative, d⟩ := m
  have written : d.chars ≠ [] ∧ d.chars.all isDecimal = true := exists_digits_iff.mp ⟨d, rfl⟩
  cases negative with
  | true =>
    change readInt? ('-' :: d.chars) = _
    rw [readInt?_minus, if_pos written]
    exact Bounds.word.ofDigits?_chars true d
  | false =>
    have unsigned (r : List Char) : d.chars ≠ '-' :: r := by
      intro minus
      have first := List.all_eq_true.mp written.2 '-' (minus ▸ List.mem_cons_self)
      cases first
    change readInt? d.chars = _
    rw [readInt?_of_no_minus unsigned, if_pos written]
    exact Bounds.word.ofDigits?_chars false d

private theorem exists_numeral_of_readInt? (h : readInt? s = some n) :
    ∃ m : Numeral, m.chars = s := by
  by_cases minus : ∃ r, s = '-' :: r
  · obtain ⟨r, rfl⟩ := minus
    rw [readInt?_minus] at h
    split at h
    · next written =>
      obtain ⟨d, rfl⟩ := exists_digits_iff.mpr written
      exact ⟨⟨true, d⟩, rfl⟩
    · cases h
  · rw [readInt?_of_no_minus (not_exists.mp minus)] at h
    split at h
    · next written =>
      obtain ⟨d, rfl⟩ := exists_digits_iff.mpr written
      exact ⟨⟨false, d⟩, rfl⟩
    · cases h

private theorem integer_of_chars (key : String) {m : Numeral} (h : m.chars = raw.toList) :
    integer key raw = if Bounds.word.Holds m.value then .ok (.integer m.value)
      else .error (.bad key (.notInteger raw)) := by
  have some : raw ≠ "" := by
    rintro rfl
    exact m.chars_ne_nil h
  rw [integer, if_neg some, ← h, readInt?_chars, Bounds.checked]
  by_cases held : Bounds.word.Holds m.value
  · rw [if_pos held, if_pos held]
  · rw [if_neg held, if_neg held]

private theorem integer_of_not_chars (key : String) (some : raw ≠ "")
    (h : ∀ m : Numeral, m.chars ≠ raw.toList) :
    integer key raw = .error (.bad key (.notInteger raw)) := by
  have unread : readInt? raw.toList = none := by
    refine Option.eq_none_iff_forall_ne_some.mpr fun n read => ?_
    obtain ⟨m, hm⟩ := exists_numeral_of_readInt? read
    exact h m hm
  rw [integer, if_neg some, unread]

private theorem integer_eq_ok_iff {key : String} {v : Value} :
    integer key raw = .ok v ↔ (raw = "" ∧ v = .absent) ∨
      ∃ m : Numeral, m.chars = raw.toList ∧ Bounds.word.Holds m.value ∧ v = .integer m.value := by
  constructor
  · intro read
    by_cases none : raw = ""
    · rw [integer, if_pos none] at read
      exact .inl ⟨none, (Except.ok.inj read).symm⟩
    · by_cases numeral : ∃ m : Numeral, m.chars = raw.toList
      · obtain ⟨m, hm⟩ := numeral
        rw [integer_of_chars key hm] at read
        split at read
        · next held => exact .inr ⟨m, hm, held, (Except.ok.inj read).symm⟩
        · cases read
      · rw [integer_of_not_chars key none (not_exists.mp numeral)] at read
        cases read
  · rintro (⟨rfl, rfl⟩ | ⟨m, hm, held, rfl⟩)
    · rfl
    · rw [integer_of_chars key hm, if_pos held]

/-- There is one way to refuse a text. -/
theorem eq_of_integer_eq_error {key : String} {f : Failure} (h : integer key raw = .error f) :
    f = .bad key (.notInteger raw) := by
  rw [integer] at h
  split at h
  · cases h
  · split at h
    · cases h
    · exact (Except.error.inj h).symm

private theorem integer_eq_error_iff {key : String} {f : Failure} :
    integer key raw = .error f ↔ raw ≠ "" ∧
      (∀ m : Numeral, m.chars = raw.toList → ¬Bounds.word.Holds m.value) ∧
      f = .bad key (.notInteger raw) := by
  constructor
  · intro refused
    refine ⟨?_, fun m hm held => ?_, eq_of_integer_eq_error refused⟩
    · rintro rfl
      cases refused
    · rw [integer_of_chars key hm, if_pos held] at refused
      cases refused
  · rintro ⟨some, beyond, rfl⟩
    by_cases numeral : ∃ m : Numeral, m.chars = raw.toList
    · obtain ⟨m, hm⟩ := numeral
      rw [integer_of_chars key hm, if_neg (beyond m hm)]
    · exact integer_of_not_chars key some (not_exists.mp numeral)

private theorem exists_numeral_render (n : Int) :
    ∃ m : Numeral, m.chars = (Value.integer n).render.toList ∧ m.value = n := by
  cases n with
  | ofNat n =>
    obtain ⟨d, chars, value⟩ := exists_digits_toDigits n
    refine ⟨⟨false, d⟩, ?_, congrArg Int.ofNat value⟩
    exact chars.trans Nat.toList_repr.symm
  | negSucc n =>
    obtain ⟨d, chars, value⟩ := exists_digits_toDigits (n + 1)
    refine ⟨⟨true, d⟩, ?_, congrArg (fun n : Nat => -(n : Int)) value⟩
    change '-' :: d.chars = ("-" ++ (n + 1).repr).toList
    rw [chars, String.toList_append, Nat.toList_repr]
    rfl

private theorem holds_word_iff : Bounds.word.Holds n ↔ -2 ^ 63 ≤ n ∧ n ≤ 2 ^ 63 - 1 := by
  simp [Bounds.Holds, Bounds.word]

/-- A text is read as a number exactly if it is digits, any number of them, behind a minus or not,
that write a number of 64 bits, and then as the number that they write. The empty text is no value;
all other texts are refused, with the key and the text. The text of a number is read as that number,
or refused if it is out of bounds. -/
theorem integer_exact (key raw : String) :
    (∀ v, integer key raw = .ok v ↔ (raw = "" ∧ v = .absent) ∨
      ∃ m : Numeral, m.chars = raw.toList ∧ (-2 ^ 63 ≤ m.value ∧ m.value ≤ 2 ^ 63 - 1) ∧
        v = .integer m.value) ∧
    (∀ f, integer key raw = .error f ↔ raw ≠ "" ∧
      (∀ m : Numeral, m.chars = raw.toList → ¬(-2 ^ 63 ≤ m.value ∧ m.value ≤ 2 ^ 63 - 1)) ∧
      f = .bad key (.notInteger raw)) ∧
    ∀ n : Int, integer key (Value.integer n).render =
      if -2 ^ 63 ≤ n ∧ n ≤ 2 ^ 63 - 1 then .ok (.integer n)
      else .error (.bad key (.notInteger (Value.integer n).render)) := by
  simp only [← holds_word_iff]
  refine ⟨fun v => integer_eq_ok_iff, fun f => integer_eq_error_iff, fun n => ?_⟩
  obtain ⟨m, hm, rfl⟩ := exists_numeral_render n
  exact integer_of_chars key hm

/-- There is one more negative number than positive ones. -/
example : readInt? "-0009223372036854775808".toList = some (-2 ^ 63) ∧
    readInt? "9223372036854775808".toList = none := by decide +kernel

end LayeredConfig.Coercion
