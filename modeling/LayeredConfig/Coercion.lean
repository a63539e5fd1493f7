import LayeredConfig.Address
import LayeredConfig.Setting
import LayeredConfig.Url.Parse
import LayeredConfig.Value

/-! From the text of a value to a value of the declared kind. -/
namespace LayeredConfig.Coercion
open Text

def text (key : String) (required : Bool) (format : Option Pattern) (raw : String) :
    Except Failure Value :=
  if raw = "" then
    if required then .error (.missing key .noText) else .ok .absent
  else
    match format with
    | none => .ok (.text raw)
    | some p => if p.isFoundIn raw then .ok (.text raw) else .error (.bad key (.noMatch p.source))

def readInt? (s : List Char) : Option Int :=
  let (negative, ds) := match s with
    | '-' :: r => (true, r)
    | _ => (false, s)
  if ds ≠ [] ∧ ds.all isDecimal then Bounds.word.ofDigits? negative ds else none

/-- Reads a whole number of 64 bits; an empty text is no value. -/
def integer (key raw : String) : Except Failure Value :=
  if raw = "" then .ok .absent
  else
    match readInt? raw.toList with
    | some n => .ok (.integer n)
    | none => .error (.bad key (.notInteger raw))

/-- The truth value that a word writes, in letters of any case. -/
def readBool? (s : String) : Option Bool :=
  let w := lowerBasic s
  if ["true", "1", "yes", "on"].contains w then some true
  else if ["false", "0", "no", "off"].contains w then some false
  else none

def boolean (key raw : String) : Except Failure Value :=
  if raw = "" then .ok .absent
  else
    match readBool? raw with
    | some b => .ok (.boolean b)
    | none => .error (.bad key (.notBoolean raw))

def url (key raw : String) : Except Failure Value :=
  if raw = "" then .ok .absent
  else
    match Url.parse raw with
    | .ok u => .ok (.url u)
    | .error .noScheme => .error (.bad key (.noScheme raw))
    | .error f => .error (.bad key (.badUrl f raw))

/-- Reads a list of internet addresses; an empty text is an empty list. -/
def addresses (key raw : String) : Except Failure Value :=
  match Address.readList raw with
  | .ok l => .ok (.addresses l)
  | .error s => .error (.bad key (.badAddress s))

def coerce (s : Setting) (raw : String) : Except Failure Value :=
  match s.kind with
  | .text => text s.envVar s.required s.format raw
  | .integer => integer s.envVar raw
  | .boolean => boolean s.envVar raw
  | .url => url s.envVar raw
  | .addresses => addresses s.envVar raw
  | .fields => .ok .absent

end LayeredConfig.Coercion
