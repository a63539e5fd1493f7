import LayeredConfig.Text.Pieces
import LayeredConfig.Url.Fault
import LayeredConfig.Url.Percent

/-! Hosts: names, and addresses of both versions with their shortest writing. -/
namespace LayeredConfig.Url
open Text

/-- Reads a number in base ten, in base eight after a zero, or in base sixteen after `0x`. -/
def number? (s : List Char) : Option Nat :=
  match s with
  | [] => none
  | '0' :: x :: r =>
    if x = 'x' ∨ x = 'X' then
      if r.all isHex then some (ofDigits 16 r) else none
    else if (x :: r).all isOctal then some (ofDigits 8 (x :: r)) else none
  | s => if s.all isDecimal then some (ofDigits 10 s) else none

/-- The last label of a name, not counting an empty one behind a final dot, is a number. -/
def endsInNumber (s : List Char) : Bool :=
  match (pieces '.' s).reverse with
  | [] :: l :: _ => isNumber l
  | l :: _ => isNumber l
  | [] => false
where
  isNumber (l : List Char) : Bool := (l != [] && l.all isDecimal) || (number? l).isSome

/-- Reads an address of version 4 from one to four numbers; the last one fills all bytes that are
left. -/
def ipv4? (s : List Char) : Option Nat :=
  let parts := match (pieces '.' s).reverse with
    | [] :: r => r.reverse
    | _ => pieces '.' s
  if parts.length > 4 then none
  else
    match parts.mapM number? with
    | none => none
    | some ns =>
      match ns.reverse with
      | [] => none
      | last :: front =>
        let room := Nat.pow 256 (4 - front.length)
        if last ≥ room ∨ front.any (· > 255) then none
        else some (room * front.reverse.foldl (fun n b => 256 * n + b) 0 + last)

def ipv4Text (n : Nat) : List Char :=
  joined ['.'] ([n / 0x1000000, n / 0x10000 % 256, n / 0x100 % 256, n % 256].map (Nat.toDigits 10))

/-- Reads the four numbers at the end of an address of version 6 as two groups. -/
def tailOctets? (s : List Char) : Option (Nat × Nat) :=
  match (pieces '.' s).mapM octet? with
  | some [a, b, c, d] => some (256 * a + b, 256 * c + d)
  | _ => none
where
  octet? (s : List Char) : Option Nat :=
    let padded := s.head? = some '0' ∧ s.length > 1
    if s = [] ∨ !s.all isDecimal ∨ padded ∨ ofDigits 10 s > 255 then none
    else some (ofDigits 10 s)

/-- Fills the gap in front of the last groups with zeros; without a gap all eight groups are
needed. The groups stand backwards. -/
def fillGap (groups : List Nat) : Option Nat → Option (List Nat)
  | none => if groups.length = 8 then some groups.reverse else none
  | some front =>
    let l := groups.reverse
    some (l.take front ++ List.replicate (8 - l.length) 0 ++ l.drop front)

/-- Reads groups of an address of version 6 after those in `groups` (backwards), with a gap after
the first `gap` ones. -/
def ipv6After : Nat → List Nat → Option Nat → List Char → Option (List Nat)
  | 0, _, _, _ => none
  | _ + 1, groups, gap, [] => fillGap groups gap
  | fuel + 1, groups, gap, s =>
    let used := groups.length + (if gap.isSome then 1 else 0)
    if used ≥ 8 then none
    else
      match s with
      | ':' :: r => if gap.isSome then none else ipv6After fuel groups (some groups.length) r
      | s =>
        let ds := (s.take 4).takeWhile isHex
        match s.drop ds.length with
        | [] => fillGap (ofDigits 16 ds :: groups) gap
        | ':' :: r =>
          if r = [] then none else ipv6After fuel (ofDigits 16 ds :: groups) gap r
        | '.' :: _ =>
          if ds = [] ∨ used > 6 then none
          else
            match tailOctets? s with
            | some (a, b) => fillGap (b :: a :: groups) gap
            | none => none
        | _ => none

def ipv6? (s : List Char) : Option (List Nat) :=
  match s with
  | ':' :: ':' :: r => ipv6After (s.length + 1) [] (some 0) r
  | ':' :: _ => none
  | s => ipv6After (s.length + 1) [] none s

def zerosAhead (groups : List Nat) : Nat := (groups.takeWhile (· == 0)).length

/-- Where the first longest run of at least two zeros starts. -/
def longestZeros (groups : List Nat) : Option Nat :=
  let runs := (List.range 8).map fun i => (zerosAhead (groups.drop i), i)
  let best := runs.foldl (fun b r => if r.1 > b.1 then r else b) (0, 0)
  if best.1 ≥ 2 then some best.2 else none

/-- Writes an address of version 6 with its longest run of zeros left out. -/
def ipv6Text (groups : List Nat) : List Char :=
  let write (l : List Nat) := joined [':'] (l.map hexNumber)
  match longestZeros groups with
  | none => write groups
  | some i =>
    write (groups.take i) ++ [':', ':'] ++ write ((groups.drop i).dropWhile (· == 0))

def bracketed (s : List Char) : Except Fault (List Char) :=
  match s.reverse with
  | ']' :: r =>
    match ipv6? r.reverse with
    | some g => .ok ('[' :: ipv6Text g ++ [']'])
    | none => .error .badIpv6
  | _ => .error .badIpv6

/-- What no name in the domain system holds. -/
def isForbiddenInDomain (c : Char) : Bool :=
  c.toNat ≤ 0x20 || c.toNat ≥ 0x7F ||
    ['%', '#', '/', ':', '<', '>', '?', '@', '[', '\\', ']', '^', '|'].contains c

/-- Reads the host of a well-known scheme: an address, or a name of the domain system in basic
letters. -/
def domainHost (s : List Char) : Except Fault (List Char) :=
  match s with
  | '[' :: r => bracketed r
  | s =>
    match String.fromUTF8? ⟨(decode s).toArray⟩ with
    | none => .error .badDomain
    | some d =>
      let l := d.toList.map Char.toLower
      if l.any isForbiddenInDomain then .error .badDomain
      else if l = [] then .error .emptyHost
      else if endsInNumber l then
        match ipv4? l with
        | some n => .ok (ipv4Text n)
        | none => .error .badIpv4
      else .ok l

def isForbiddenInHost (c : Char) : Bool :=
  ['\x00', '\t', '\n', '\r', ' ', '#', '/', ':', '<', '>', '?', '@', '[', '\\', ']', '^',
    '|'].contains c

/-- Reads the host of any other scheme: an address in brackets, or any text. -/
def opaqueHost (s : List Char) : Except Fault (List Char) :=
  match s with
  | '[' :: r => bracketed r
  | s => if s.any isForbiddenInHost then .error .badHostChar else .ok (encode controlSet s)

end LayeredConfig.Url
