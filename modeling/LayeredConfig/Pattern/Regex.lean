import LayeredConfig.Text.Blank
import LayeredConfig.Text.CaseVariants
import LayeredConfig.Text.Word

/-! Regular expressions, and where in a text they match. -/
namespace LayeredConfig.Pattern
open Text

inductive CharSet where
  | empty
  | range (lo hi : Char)
  | digit
  | word
  | blank
  | compl (a : CharSet)
  | union (a b : CharSet)
  | inter (a b : CharSet)
  | anyCase (a : CharSet)
deriving DecidableEq, Repr

namespace CharSet

def diff (a b : CharSet) : CharSet := .inter a (.compl b)

def symmDiff (a b : CharSet) : CharSet := .union (a.diff b) (b.diff a)

/-- The set holds the character. A set of any case holds what differs by case alone from a
character in it. -/
def holds : CharSet → Char → Bool
  | .empty, _ => false
  | .range lo hi, c => lo ≤ c && c ≤ hi
  | .digit, c => isDigit c
  | .word, c => isWord c
  | .blank, c => isBlank c
  | .compl a, c => !a.holds c
  | .union a b, c => a.holds c || b.holds c
  | .inter a b, c => a.holds c && b.holds c
  | .anyCase a, c => (caseVariants c).any fun d => a.holds d

end CharSet

/-- Regular expressions with the two ends of the text. -/
inductive Regex where
  | empty
  | one (k : CharSet)
  | atStart
  | atEnd
  | seq (a b : Regex)
  | alt (a b : Regex)
  | star (a : Regex)
  | times (a : Regex) (n : Nat)
  | upTo (a : Regex) (n : Nat)
deriving DecidableEq, Repr

/-- The elements of both lists; those of the second that are in the first are left out. -/
def union (a b : List Nat) : List Nat := a ++ b.filter fun i => !a.contains i

def iterate (f : List Nat → List Nat) : Nat → List Nat → List Nat
  | 0, l => l
  | n + 1, l => iterate f n (f l)

/-- Collects what `f` reaches from `all` in at most `n` steps, `last` being the newest of `all`. -/
def closure (f : List Nat → List Nat) : Nat → List Nat → List Nat → List Nat
  | 0, all, _ => all
  | n + 1, all, last =>
    let new := (f last).eraseDups.filter fun i => !all.contains i
    if new = [] then all else closure f n (all ++ new) new

/-- The positions of `s` where a match can end that starts at one of the given positions. -/
def Regex.ends (s : Array Char) : Regex → List Nat → List Nat
  | .empty, l => l
  | .one k, l => l.filterMap fun i => (s[i]?).bind fun c => if k.holds c then some (i + 1) else none
  | .atStart, l => l.filter (· == 0)
  | .atEnd, l => l.filter (· == s.size)
  | .seq a b, l => b.ends s (a.ends s l)
  | .alt a b, l => union (a.ends s l) (b.ends s l)
  | .star a, l => closure (a.ends s) (s.size + 1) l l
  | .times a n, l => iterate (a.ends s) n l
  | .upTo a n, l => closure (a.ends s) n l l

def Regex.isFoundIn (r : Regex) (s : List Char) : Bool :=
  r.ends s.toArray (List.range (s.length + 1)) != []

end LayeredConfig.Pattern
