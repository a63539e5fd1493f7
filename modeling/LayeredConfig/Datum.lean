import LayeredConfig.Text.Pieces

/-! Byte strings that are mostly text. -/
namespace LayeredConfig

/-- A byte string as it is read: a text where the bytes are UTF-8, else the bytes themselves. -/
inductive Datum where
  | text (s : String)
  | raw (bytes : List UInt8)
deriving DecidableEq, Inhabited

def Datum.ofBytes (b : List UInt8) : Datum :=
  match String.fromUTF8? ⟨b.toArray⟩ with
  | some s => .text s
  | none => .raw b

def Datum.text? : Datum → Option String
  | .text s => some s
  | .raw _ => none

/-- What follows a text at the start of a byte string. -/
def Datum.behind? (start : String) : Datum → Option Datum
  | .text s => (Text.after? start.toList s.toList).map fun r => .text (String.ofList r)
  | .raw b => (Text.after? (start.toList.flatMap String.utf8EncodeChar) b).map .raw

def Datum.hasNul : Datum → Bool
  | .text s => s.toList.contains '\x00'
  | .raw b => b.contains 0

end LayeredConfig
