/-! Reading and writing numbers in digits. -/
namespace LayeredConfig.Text

def digitValue (c : Char) : Nat :=
  if '0' ≤ c ∧ c ≤ '9' then c.toNat - '0'.toNat
  else if 'a' ≤ c ∧ c ≤ 'f' then c.toNat - 'a'.toNat + 10
  else if 'A' ≤ c ∧ c ≤ 'F' then c.toNat - 'A'.toNat + 10
  else 0

def isDecimal (c : Char) : Bool := '0' ≤ c && c ≤ '9'

def isOctal (c : Char) : Bool := '0' ≤ c && c ≤ '7'

def isHex (c : Char) : Bool := isDecimal c || ('a' ≤ c && c ≤ 'f') || ('A' ≤ c && c ≤ 'F')

/-- The number that digits of a base write, most significant first. -/
def ofDigits (base : Nat) (s : List Char) : Nat := s.foldl (fun n c => base * n + digitValue c) 0

def hexDigit (n : Nat) : Char :=
  if n < 10 then Char.ofNat ('0'.toNat + n) else Char.ofNat ('a'.toNat + (n - 10))

def hexByte (b : UInt8) : List Char := [hexDigit (b.toNat / 16), hexDigit (b.toNat % 16)]

/-- The lower-case hexadecimal digits of a number, without leading zeros. -/
def hexNumber (n : Nat) : List Char := Nat.toDigits 16 n

/-- The whole numbers of a machine word, from the least to the greatest. Zero is one of them. -/
structure Bounds where
  least : Int
  greatest : Int
  least_le : least ≤ 0 := by decide
  le_greatest : 0 ≤ greatest := by decide

namespace Bounds

/-- The numbers of eight bits without a sign. -/
def byte : Bounds where
  least := 0
  greatest := 0xFF

/-- The numbers of 64 bits with a sign. -/
def word : Bounds where
  least := -0x8000000000000000
  greatest := 0x7FFFFFFFFFFFFFFF

def Holds (b : Bounds) (n : Int) : Prop := b.least ≤ n ∧ n ≤ b.greatest

instance (b : Bounds) (n : Int) : Decidable (b.Holds n) :=
  inferInstanceAs (Decidable (b.least ≤ n ∧ n ≤ b.greatest))

def checked (b : Bounds) (n : Int) : Option Int := if b.Holds n then some n else none

/-- Writes one more digit behind a number. The digits of a negative number are taken away from it,
as the least number has no counterpart. -/
def shift? (b : Bounds) (negative : Bool) (n : Int) (c : Char) : Option Int :=
  (b.checked (10 * n)).bind fun tens =>
    b.checked (if negative then tens - digitValue c else tens + digitValue c)

/-- The number that decimal digits write, most significant first, unless a calculation on the way
to it overflows. -/
def ofDigits? (b : Bounds) (negative : Bool) (s : List Char) : Option Int :=
  s.foldlM (b.shift? negative) 0

end Bounds

theorem ofDigits_append (base : Nat) (s t : List Char) :
    ofDigits base (s ++ t) = t.foldl (fun n c => base * n + digitValue c) (ofDigits base s) := by
  simp [ofDigits, List.foldl_append]

end LayeredConfig.Text
