import LayeredConfig.Failure
import LayeredConfig.Text.Name
import LayeredConfig.Text.Pieces

/-! References to variables inside a text, and their expansion in one pass. -/
namespace LayeredConfig.Reference
open Text

/-- A part of a text: one plain character, `$NAME`, or a dollar sign with a text in braces. -/
inductive Token where
  | plain (c : Char)
  | bare (name : List Char)
  | braced (expr : List Char)
deriving DecidableEq, Repr

def Token.chars : Token → List Char
  | .plain c => [c]
  | .bare n => '$' :: n
  | .braced e => '$' :: '\x7b' :: e ++ ['\x7d']

/-- The reference that a dollar sign starts in front of `s`: a text in braces reaches to the first
closing brace, and a name is as long as it can be. -/
def opened? (s : List Char) : Option Token :=
  match s with
  | '\x7b' :: body => (cutAt '\x7d' body).map fun (e, _) => .braced e
  | _ =>
    match (splitName s).1 with
    | [] => none
    | n => some (.bare n)

/-- The tokens of a text after the first `skip` characters. A dollar sign that starts no reference
is plain, and so is not what follows it. -/
def tokensAfter : Nat → List Char → List Token
  | _, [] => []
  | skip + 1, _ :: r => tokensAfter skip r
  | 0, c :: r =>
    match if c = '$' then opened? r else none with
    | some t => t :: tokensAfter (t.chars.length - 1) r
    | none => .plain c :: tokensAfter 0 r

def tokens (s : List Char) : List Token := tokensAfter 0 s

/-- What a text in braces asks for. -/
inductive Query where
  | value (name : String)
  | valueOr (name : String) (default : String)
  | demand (name : String) (words : String)
  | unknown
deriving DecidableEq, Repr

/-- Reads a text in braces: a name alone, or a name with `:-` and a default, or with `:?` and what
to say. -/
def Query.ofExpr (e : List Char) : Query :=
  match splitName e with
  | ([], _) => .unknown
  | (n, []) => .value (String.ofList n)
  | (n, ':' :: '-' :: d) => .valueOr (String.ofList n) (String.ofList d)
  | (n, ':' :: '?' :: w) => .demand (String.ofList n) (String.ofList w)
  | _ => .unknown

/-- A value that is there and not empty. -/
def present? (v : Option String) : Option String := v.filter (· ≠ "")

/-- The text that stands for a token when `look` gives the values of variables. Values and
defaults are taken as they are. -/
def expand (look : String → Option String) (t : Token) : Except Failure String :=
  match t with
  | .plain c => .ok c.toString
  | .bare n => .ok ((look (String.ofList n)).getD "")
  | .braced e =>
    match Query.ofExpr e with
    | .value n => .ok ((look n).getD "")
    | .valueOr n d => .ok ((present? (look n)).getD d)
    | .demand n w =>
      match present? (look n) with
      | some v => .ok v
      | none => .error (.missing n (if w = "" then .unset else .demanded w))
    | .unknown => .ok (String.ofList t.chars)

/-- Expands every token of a text from left to right; the first failure ends it. -/
def interpolate (look : String → Option String) (raw : String) : Except Failure String := do
  return String.join (← (tokens raw.toList).mapM (expand look))

end LayeredConfig.Reference
