import LayeredConfig.Text.Blank
import LayeredConfig.Text.Numeral
import LayeredConfig.Text.Pieces

/-! Texts of internet addresses, of blocks of them, and lists of both. -/
namespace LayeredConfig.Address
open Text

inductive Version where
  | v4
  | v6
deriving DecidableEq, Repr

def Version.bits : Version → Nat
  | .v4 => 32
  | .v6 => 128

/-- Reads one to three decimal digits without a leading zero that write at most 255. -/
def octet? (s : List Char) : Option (List Char) :=
  let ds := s.takeWhile isDecimal
  let tooBig := ds.length > 3 ∨ ofDigits 10 ds > 255
  if ds = [] ∨ tooBig ∨ (ds.head? = some '0' ∧ ds.length > 1) then none
  else some (s.dropWhile isDecimal)

def octets? : Nat → List Char → Option (List Char)
  | 0, s => some s
  | n + 1, '.' :: s => (octet? s).bind (octets? n)
  | _ + 1, _ => none

def dotted? (s : List Char) : Option (List Char) := (octet? s).bind (octets? 3)

def group? (s : List Char) : Option (List Char) :=
  let ds := s.takeWhile isHex
  if ds = [] ∨ ds.length > 4 then none else some (s.dropWhile isHex)

/-- The rest of a text that starts with a colon, or all of it in front of the first group. -/
def afterColon? (first : Bool) (s : List Char) : Option (List Char) :=
  if first then some s
  else
    match s with
    | ':' :: r => some r
    | _ => none

/-- Reads at most `n` groups with colons between them. The last two groups may be written as four
octets. Gives the number of groups, whether octets were read, and the rest. -/
def groups : Nat → Bool → List Char → Nat × Bool × List Char
  | 0, _, s => (0, false, s)
  | n + 1, first, s =>
    match afterColon? first s with
    | none => (0, false, s)
    | some b =>
      match if n = 0 then none else dotted? b with
      | some r => (2, true, r)
      | none =>
        match group? b with
        | none => (0, false, s)
        | some r =>
          let (k, octets, rest) := groups n false r
          (k + 1, octets, rest)

def isV4 (s : List Char) : Bool := dotted? s == some []

def isV6 (s : List Char) : Bool :=
  match groups 8 true s with
  | (8, _, rest) => rest == []
  | (k, false, ':' :: ':' :: r) => (groups (7 - k) true r).2.2 == []
  | _ => false

def version? (s : List Char) : Option Version :=
  if isV4 s then some .v4 else if isV6 s then some .v6 else none

/-- An address, or an address, a slash and the number of its leading bits that a block shares. The
number is read into a byte. -/
def isAddressOrBlock (s : List Char) : Bool :=
  match cutAt '/' s with
  | none => (version? s).isSome
  | some (a, p) =>
    match version? a with
    | none => false
    | some v =>
      p != [] && p.all isDecimal && (Bounds.byte.ofDigits? false p).any fun n : Int => n ≤ v.bits

/-- The pieces of a text between commas without their blanks, empty ones left out. -/
def segments (s : List Char) : List (List Char) :=
  ((pieces ',' s).map trim).filter (· ≠ [])

/-- Reads a list of addresses and blocks, or gives the first piece that is neither. -/
def readList (s : String) : Except String (List String) :=
  let l := segments s.toList
  match l.find? fun p => !isAddressOrBlock p with
  | some p => .error (String.ofList p)
  | none => .ok (l.map String.ofList)

end LayeredConfig.Address
