import LayeredConfig.Text.Blank
import LayeredConfig.Text.Name

/-! Lines that assign a value to a key. -/
namespace LayeredConfig.EnvFile
open Text

/-- A key and the unread text of its value, without blanks in front. -/
structure Assignment where
  key : String
  rest : List Char
deriving DecidableEq, Repr

/-- Reads a key, an equals sign and the rest, with blanks around the sign. -/
def keyed? (s : List Char) : Option Assignment :=
  match splitName s with
  | ([], _) => none
  | (k, r) =>
    match trimStart r with
    | '=' :: v => some ⟨String.ofList k, trimStart v⟩
    | _ => none

/-- Reads the word `export`, at least one blank and an assignment. -/
def exported? : List Char → Option Assignment
  | 'e' :: 'x' :: 'p' :: 'o' :: 'r' :: 't' :: c :: r =>
    if isBlank c then keyed? (trimStart r) else none
  | _ => none

/-- Reads a line as an assignment. Where `export` cannot be a word of its own it is the key; blank
lines and comments start with no key and so assign nothing. -/
def Assignment.ofLine? (line : List Char) : Option Assignment :=
  (exported? (trimStart line)).or (keyed? (trimStart line))

end LayeredConfig.EnvFile
