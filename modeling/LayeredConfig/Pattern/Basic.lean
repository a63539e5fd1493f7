import LayeredConfig.Pattern.Class
import LayeredConfig.Text.Numeral

/-! Patterns as they are written. -/
namespace LayeredConfig.Pattern
open Text

def anyButNewline : Regex := .one (.compl (.range '\n' '\n'))

def count? (s : List Char) : Option (Nat × List Char) :=
  let s := s.dropWhile isBlank
  match s.takeWhile isDecimal with
  | [] => none
  | ds => some (ofDigits 10 ds, (s.dropWhile isDecimal).dropWhile isBlank)

/-- Reads the numbers of a repetition behind its opening brace. -/
def counts? (s : List Char) : Option ((Nat × Option Nat) × List Char) :=
  match count? s with
  | some (n, '\x7d' :: rest) => some ((n, some n), rest)
  | some (n, ',' :: '\x7d' :: rest) => some ((n, none), rest)
  | some (n, ',' :: r) =>
    match count? r with
    | some (m, '\x7d' :: rest) => some ((n, some m), rest)
    | _ => none
  | _ => none

def repeated (a : Regex) (least : Nat) : Option Nat → Regex
  | none => .seq (.times a least) (.star a)
  | some most => .seq (.times a least) (.upTo a (most - least))

/-- Leaves out a mark that asks for the shortest match, which does not matter for finding one. -/
def dropLazy : List Char → List Char
  | '?' :: r => r
  | s => s

def repetitions? : Nat → Regex → List Char → Option (Regex × List Char)
  | fuel + 1, a, '*' :: r => repetitions? fuel (.star a) (dropLazy r)
  | fuel + 1, a, '+' :: r => repetitions? fuel (.seq a (.star a)) (dropLazy r)
  | fuel + 1, a, '?' :: r => repetitions? fuel (.alt a .empty) (dropLazy r)
  | fuel + 1, a, '\x7b' :: r =>
    match counts? r with
    | some ((least, most), rest) =>
      if most.any (· < least) then none
      else repetitions? fuel (repeated a least most) (dropLazy rest)
    | none => none
  | _, a, s => some (a, s)

mutual

def branches? (anyCase : Bool) : Nat → List Char → Option (Regex × List Char)
  | 0, _ => none
  | fuel + 1, s =>
    match chain? anyCase fuel s with
    | some (a, '|' :: r) =>
      (branches? anyCase fuel r).map fun (b, rest) => (.alt a b, rest)
    | other => other

def chain? (anyCase : Bool) : Nat → List Char → Option (Regex × List Char)
  | 0, _ => none
  | _ + 1, [] => some (.empty, [])
  | _ + 1, '|' :: r => some (.empty, '|' :: r)
  | _ + 1, ')' :: r => some (.empty, ')' :: r)
  | fuel + 1, s =>
    match single? anyCase fuel s with
    | none => none
    | some (a, r) =>
      match repetitions? (r.length + 1) a r with
      | none => none
      | some (a, r) => (chain? anyCase fuel r).map fun (b, rest) => (.seq a b, rest)

def single? (anyCase : Bool) : Nat → List Char → Option (Regex × List Char)
  | 0, _ => none
  | fuel + 1, '(' :: r =>
    let inner := match r with
      | '?' :: ':' :: r' => r'
      | _ => r
    match branches? anyCase fuel inner with
    | some (a, ')' :: rest) => some (a, rest)
    | _ => none
  | _ + 1, '[' :: r => (class? anyCase (2 * r.length + 2) r).map fun (a, rest) => (.one a, rest)
  | _ + 1, '.' :: r => some (anyButNewline, r)
  | _ + 1, '^' :: r => some (.atStart, r)
  | _ + 1, '$' :: r => some (.atEnd, r)
  | _ + 1, '\\' :: c :: r =>
    (escaped? c).map fun a => (.one (a.toSet.folded anyCase), r)
  | _ + 1, c :: r =>
    if ['\\', '*', '+', '?', '\x7b'].contains c then none
    else some (.one ((CharSet.range c c).folded anyCase), r)
  | _ + 1, [] => none

end

/-- Reads a regular expression; `(?i)` in front makes case not matter. -/
def regex? (s : List Char) : Option Regex :=
  let (anyCase, body) := match s with
    | '(' :: '?' :: 'i' :: ')' :: r => (true, r)
    | _ => (false, s)
  match branches? anyCase (3 * body.length + 3) body with
  | some (r, []) => some r
  | _ => none

end LayeredConfig.Pattern

namespace LayeredConfig

/-- A pattern that texts are checked against, with its writing. -/
structure Pattern where
  source : String
  regex : Pattern.Regex
deriving DecidableEq, Repr

namespace Pattern

def ofText? (source : String) : Option Pattern := (regex? source.toList).map (⟨source, ·⟩)

def isFoundIn (p : Pattern) (text : String) : Bool := p.regex.isFoundIn text.toList

end Pattern

end LayeredConfig
