import LayeredConfig.KeyMap
import LayeredConfig.Text.Quoted

/-! Nested tables of plain values, and reading them into an expected shape. -/
namespace LayeredConfig

/-- A plain value, a list or a table; the entries of a table stand in the order of their keys. -/
inductive Document where
  | text (s : String)
  | integer (i : Int)
  | boolean (b : Bool)
  | list (items : List Document)
  | table (entries : List (String × Document))
deriving Inhabited

/-- What a document is expected to look like. A record has named fields, of which some may be
missing, and takes no notice of other keys. -/
inductive Shape where
  | text
  | integer
  | boolean
  | listOf (item : Shape)
  | mapOf (item : Shape)
  | record (name : String) (fields : List (String × Bool × Shape))
  | anything
deriving Inhabited

namespace Document

def describe : Document → String
  | .text s => "string " ++ Text.quoted s
  | .integer i => "integer `" ++ toString i ++ "`"
  | .boolean b => "boolean `" ++ (if b then "true" else "false") ++ "`"
  | .list _ => "sequence"
  | .table _ => "map"

end Document

def Shape.describe : Shape → String
  | .text => "a string"
  | .integer => "i64"
  | .boolean => "a boolean"
  | .listOf _ => "a sequence"
  | .mapOf _ => "a map"
  | .record n _ => "struct " ++ n
  | .anything => "any value"

/-- Why a document does not fit a shape. -/
inductive Misfit where
  | wrongKind (found want : String)
  | missingField (name : String)
  | wrongLength (found : Nat) (want : String)
  | within (key : String) (inner : Misfit)
deriving DecidableEq, Repr

namespace Misfit

def keys : Misfit → List String
  | within k m => k :: m.keys
  | _ => []

def reason : Misfit → String
  | .wrongKind f w => "invalid type: " ++ f ++ ", expected " ++ w
  | .missingField n => "missing field `" ++ n ++ "`"
  | .wrongLength n w => "invalid length " ++ toString n ++ ", expected " ++ w
  | .within _ m => m.reason

/-- The misfit on one line, and on a second line where it is, unless it is at the top. -/
def message (m : Misfit) : String :=
  m.reason ++ "\n" ++ (if m.keys = [] then "" else "in `" ++ ".".intercalate m.keys ++ "`\n")

end Misfit

def behind {α : Type} (key : String) : Except Misfit α → Except Misfit α
  | .ok a => .ok a
  | .error m => .error (.within key m)

def lacking? (fields : List (String × Bool × Shape)) (found : List (String × Document)) :
    Option String :=
  (fields.find? fun f => f.2.1 && (found.lookup f.1).isNone).map (·.1)

namespace Document

mutual

/-- Reads a document into a shape. Tables are gone through in the order of their keys, and the first
entry that does not fit counts; fields that are missing count after that. Keys that a record does
not name are left out. -/
def fit (want : Shape) : Document → Except Misfit Document
  | .text s =>
    match want with
    | .text => .ok (.text s)
    | .anything => .ok (.text s)
    | _ => .error (.wrongKind (describe (.text s)) want.describe)
  | .integer i =>
    match want with
    | .integer => .ok (.integer i)
    | .anything => .ok (.integer i)
    | _ => .error (.wrongKind (describe (.integer i)) want.describe)
  | .boolean b =>
    match want with
    | .boolean => .ok (.boolean b)
    | .anything => .ok (.boolean b)
    | _ => .error (.wrongKind (describe (.boolean b)) want.describe)
  | .list l =>
    match want with
    | .listOf item => (fitItems item l).map .list
    | .record name fields =>
      (fitPlaces (s!"struct {name} with {fields.length} elements") fields 0 l).map .table
    | .anything => .ok (.list l)
    | _ => .error (.wrongKind "sequence" want.describe)
  | .table es =>
    match want with
    | .mapOf item => (fitEntries item es).map .table
    | .record _ fields =>
      match fitFields fields es with
      | .error m => .error m
      | .ok found =>
        match lacking? fields found with
        | some n => .error (.missingField n)
        | none => .ok (.table found)
    | .anything => .ok (.table es)
    | _ => .error (.wrongKind "map" want.describe)

def fitItems (want : Shape) : List Document → Except Misfit (List Document)
  | [] => .ok []
  | d :: r =>
    match fit want d with
    | .error m => .error m
    | .ok a => (fitItems want r).map (a :: ·)

def fitEntries (want : Shape) : List (String × Document) → Except Misfit (List (String × Document))
  | [] => .ok []
  | (k, d) :: r =>
    match behind k (fit want d) with
    | .error m => .error m
    | .ok a => (fitEntries want r).map ((k, a) :: ·)

def fitFields (fields : List (String × Bool × Shape)) :
    List (String × Document) → Except Misfit (List (String × Document))
  | [] => .ok []
  | (k, d) :: r =>
    match fields.lookup k with
    | none => fitFields fields r
    | some (_, want) =>
      match behind k (fit want d) with
      | .error m => .error m
      | .ok a => (fitFields fields r).map ((k, a) :: ·)

/-- Reads the items of a list as the fields of a record, by their places. -/
def fitPlaces (want : String) : List (String × Bool × Shape) → Nat → List Document →
    Except Misfit (List (String × Document))
  | [], _, [] => .ok []
  | [], n, r => .error (.wrongLength (n + r.length) "fewer elements in array")
  | _ :: _, n, [] => .error (.wrongLength n want)
  | (k, _, shape) :: fields, n, d :: r =>
    match fit shape d with
    | .error m => .error m
    | .ok a => (fitPlaces want fields (n + 1) r).map ((k, a) :: ·)

end

end Document

end LayeredConfig
