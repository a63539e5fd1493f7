import LayeredConfig.Document
import LayeredConfig.Url.Basic

/-! Values that settings resolve to. -/
namespace LayeredConfig

/-- The value of a setting, or the lack of one. -/
inductive Value where
  | absent
  | text (s : String)
  | integer (n : Int)
  | boolean (b : Bool)
  | url (u : Url)
  | addresses (l : List String)
  | fields (m : KeyMap String)
deriving DecidableEq

namespace Value

def isAbsent : Value → Bool
  | .absent => true
  | _ => false

/-- A text, or the text of the address of a resource. -/
def text? : Value → Option String
  | .text s => some s
  | .url u => some u.toText
  | _ => none

def integer? : Value → Option Int
  | .integer n => some n
  | _ => none

def boolean? : Value → Option Bool
  | .boolean b => some b
  | _ => none

def url? : Value → Option Url
  | .url u => some u
  | _ => none

def addresses? : Value → Option (List String)
  | .addresses l => some l
  | _ => none

def fields? : Value → Option (KeyMap String)
  | .fields m => some m
  | _ => none

/-- A value as a document; an absent one has none. -/
def toDocument? : Value → Option Document
  | .absent => none
  | .text s => some (.text s)
  | .integer n => some (.integer n)
  | .boolean b => some (.boolean b)
  | .url u => some (.text u.toText)
  | .addresses l => some (.list (l.map .text))
  | .fields m => some (.table (m.entries.map fun e => (e.1, .text e.2)))

def renderPairs (l : List (String × String)) : String :=
  "&".intercalate (l.map fun e => e.1 ++ "=" ++ e.2)

def render : Value → String
  | .absent => ""
  | .text s => s
  | .integer n => toString n
  | .boolean b => if b then "true" else "false"
  | .url u => u.toText
  | .addresses l => ",".intercalate l
  | .fields m => renderPairs m.entries

end Value

end LayeredConfig
