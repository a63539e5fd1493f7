import LayeredConfig.Pattern.Regex
import LayeredConfig.Text.Pieces

/-! Classes of characters as they are written in patterns, between brackets. -/
namespace LayeredConfig.Pattern
open Text

/-- A set as it stands, or with all that differs by case alone when case does not matter. -/
def CharSet.folded (anyCase : Bool) (a : CharSet) : CharSet := if anyCase then .anyCase a else a

/-- What a class is made of before ranges are read: characters and named sets. -/
inductive Atom where
  | char (c : Char)
  | set (a : CharSet)
deriving DecidableEq, Repr

def Atom.toSet : Atom → CharSet
  | .char c => .range c c
  | .set a => a

/-- What a backslash and `c` stand for: a named set, a control or the character itself. -/
def escaped? (c : Char) : Option Atom :=
  match c with
  | 'd' => some (.set .digit)
  | 'D' => some (.set (.compl .digit))
  | 'w' => some (.set .word)
  | 'W' => some (.set (.compl .word))
  | 's' => some (.set .blank)
  | 'S' => some (.set (.compl .blank))
  | 'n' => some (.char '\n')
  | 't' => some (.char '\t')
  | 'r' => some (.char '\r')
  | c => if c.isAlphanum then none else some (.char c)

def atom? : List Char → Option (Atom × List Char)
  | '\\' :: c :: r => (escaped? c).map fun a => (a, r)
  | '\\' :: _ => none
  | c :: r => some (.char c, r)
  | [] => none

/-- Reads an atom or a range. A hyphen makes a range unless a bracket or another hyphen follows. -/
def item? (s : List Char) : Option (CharSet × List Char) :=
  match atom? s with
  | none => none
  | some (a, '-' :: c :: r) =>
    if c = ']' ∨ c = '-' then some (a.toSet, '-' :: c :: r)
    else
      match a, atom? (c :: r) with
      | .char lo, some (.char hi, rest) => if hi < lo then none else some (.range lo hi, rest)
      | _, _ => none
  | some (a, r) => some (a.toSet, r)

/-- The sets with a name of their own inside a class. All of them are basic characters. -/
def basicSet? (name : String) : Option CharSet :=
  let numerals : CharSet := .range '0' '9'
  let letters : CharSet := .union (.range 'a' 'z') (.range 'A' 'Z')
  let both : CharSet := .union numerals letters
  match name with
  | "alnum" => some both
  | "alpha" => some letters
  | "ascii" => some (.range '\x00' '\x7f')
  | "blank" => some (.union (.range '\t' '\t') (.range ' ' ' '))
  | "cntrl" => some (.union (.range '\x00' '\x1f') (.range '\x7f' '\x7f'))
  | "digit" => some numerals
  | "graph" => some (.range '!' '~')
  | "lower" => some (.range 'a' 'z')
  | "print" => some (.range ' ' '~')
  | "punct" => some (.diff (.range '!' '~') both)
  | "space" => some (.union (.range '\t' '\r') (.range ' ' ' '))
  | "upper" => some (.range 'A' 'Z')
  | "word" => some (.union both (.range '_' '_'))
  | "xdigit" => some (.union numerals (.union (.range 'a' 'f') (.range 'A' 'F')))
  | _ => none

def basicClass? (anyCase : Bool) (s : List Char) : Option (CharSet × List Char) :=
  let named (negated : Bool) (s : List Char) : Option (CharSet × List Char) :=
    match cutAt ':' s with
    | some (name, ']' :: rest) =>
      (basicSet? (String.ofList name)).map fun a =>
        (if negated then .compl (a.folded anyCase) else a.folded anyCase, rest)
    | _ => none
  match s with
  | ':' :: '^' :: r => named true r
  | ':' :: r => named false r
  | _ => none

/-- The characters that stand for themselves at the start of a class: any number of hyphens, or
else a closing bracket. -/
def opening (s : List Char) : List Char × List Char :=
  match s with
  | ']' :: r => ([']'], r)
  | s => (s.takeWhile (· == '-'), s.dropWhile (· == '-'))

mutual

def class? (anyCase : Bool) : Nat → List Char → Option (CharSet × List Char)
  | 0, _ => none
  | fuel + 1, s =>
    let (negated, s) := match s with
      | '^' :: r => (true, r)
      | s => (false, s)
    let (front, s) := opening s
    let first := front.foldl (fun a c => .union a ((CharSet.range c c).folded anyCase)) .empty
    (items? anyCase fuel id first s).map fun (a, rest) => (if negated then .compl a else a, rest)

/-- Reads on in a class. `all` is what has been read since the last operator, and `join` makes the
set of the class out of it. -/
def items? (anyCase : Bool) : Nat → (CharSet → CharSet) → CharSet → List Char →
    Option (CharSet × List Char)
  | 0, _, _, _ => none
  | _ + 1, join, all, ']' :: r => some (join all, r)
  | fuel + 1, join, all, '[' :: r =>
    match (basicClass? anyCase r).or (class? anyCase fuel r) with
    | some (a, rest) => items? anyCase fuel join (.union all a) rest
    | none => none
  | fuel + 1, join, all, '&' :: '&' :: r => items? anyCase fuel (.inter (join all)) .empty r
  | fuel + 1, join, all, '-' :: '-' :: r => items? anyCase fuel (.diff (join all)) .empty r
  | fuel + 1, join, all, '~' :: '~' :: r => items? anyCase fuel (.symmDiff (join all)) .empty r
  | fuel + 1, join, all, s =>
    match item? s with
    | some (a, rest) => items? anyCase fuel join (.union all (a.folded anyCase)) rest
    | none => none

end

end LayeredConfig.Pattern
