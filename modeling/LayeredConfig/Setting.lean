import LayeredConfig.Failure
import LayeredConfig.Pattern.Basic
import LayeredConfig.Text.LetterCase

/-! Settings: what is declared about each configuration value. -/
namespace LayeredConfig

inductive Kind where
  | text
  | integer
  | boolean
  | url
  | addresses
  | fields
deriving DecidableEq, Repr

namespace Kind

def name : Kind → String
  | .text => "string"
  | .integer => "integer"
  | .boolean => "boolean"
  | .url => "url"
  | .addresses => "ip_list"
  | .fields => "object"

def all : List Kind := [.text, .integer, .boolean, .url, .addresses, .fields]

def ofName (s : String) : Except Failure Kind :=
  match all.find? (·.name = s) with
  | some k => .ok k
  | none => .error (.unknownKind s)

theorem ofName_name (k : Kind) : ofName k.name = .ok k := by
  cases k <;> simp [ofName, all, name]

end Kind

/-- A part of a fallback that is worked out from the rest of the configuration. -/
inductive Part where
  | literal (s : String)
  /-- The value of another setting, or `rescue` instead of any failure. -/
  | reference (name : String) (rescue : Option String)
  /-- The value of another setting, or `default` where it is absent or unknown. -/
  | fetch (name default : String)
  | names
  | everything
  | fail (f : Failure)
deriving DecidableEq

/-- The raw value of a setting whose variable is not set or empty. -/
inductive Fallback where
  | literal (s : String)
  | deferred (parts : List Part)
deriving DecidableEq

/-- What is declared about a configuration value. -/
structure Setting where
  envVar : String
  kind : Kind
  accessor : String
  required : Bool := true
  format : Option Pattern := none
  scheme : Option String := none
  group : Option String := none
  fallback : Option Fallback := none
deriving DecidableEq

namespace Setting

/-- The accessor that goes with a variable: its name in lower case, without the stars and then the
underscores at its end. -/
def accessorOf (envVar : String) : String :=
  let cut (c : Char) (s : List Char) : List Char := (s.reverse.dropWhile (· == c)).reverse
  Text.lower (String.ofList (cut '_' (cut '*' envVar.toList)))

def ofVar (envVar : String) (kind : Kind) : Setting :=
  { envVar, kind, accessor := accessorOf envVar }

/-- The name a setting is known by: its accessor, behind its group and a dot when it has one. -/
def name (s : Setting) : String :=
  match s.group with
  | some g => g ++ "." ++ s.accessor
  | none => s.accessor

def describeFallback (s : Setting) : Option String :=
  s.fallback.map fun
    | .literal t => "Literal(" ++ Text.quoted t ++ ")"
    | .deferred _ => "Deferred(..)"

end Setting

end LayeredConfig
