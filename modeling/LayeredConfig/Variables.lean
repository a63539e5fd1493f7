import LayeredConfig.Datum
import LayeredConfig.KeyMap

/-! The variables of a process, and the layer of them that configuration reads and writes. -/
namespace LayeredConfig

/-- Variables by name; a value need not be text. -/
abbrev Variables := KeyMap Datum

namespace Variables

def text? (v : Variables) (k : String) : Option String := (v.get? k).bind Datum.text?

/-- A name that an environment can hold is not empty and has no equals sign and no NUL. -/
def holdsName (k : String) : Bool :=
  k != "" && !k.toList.contains '=' && !k.toList.contains '\x00'

/-- Sets a variable of an environment, which refuses some names and every value with a NUL. -/
def set? (v : Variables) (k : String) (d : Datum) : Option Variables :=
  if holdsName k && !d.hasNul then some (v.insert k d) else none

def unset? (v : Variables) (k : String) : Option Variables :=
  if holdsName k then some (v.erase k) else none

/-- What an environment finds under a name with an equals sign. It keeps `A` with the value `B=C` as
`A=B=C`, and compares a name with what stands in front of any equals sign: so it finds `C` under
`A=B`. -/
def within? (v : Variables) : List Char → Option Datum
  | [] => none
  | c :: r =>
    match Text.cutAt '=' r with
    | some (name, inner) =>
      (v.get? (String.ofList (c :: name))).bind (Datum.behind? (String.ofList inner ++ "="))
    | none => none

end Variables

/-- What a process layer shows: its variables, and whether an environment looks them up. -/
structure ProcessView where
  vars : Variables
  environ : Bool := false

namespace ProcessView

def get? (w : ProcessView) (k : String) : Option Datum :=
  (w.vars.get? k).or (if w.environ then w.vars.within? k.toList else none)

def text? (w : ProcessView) (k : String) : Option String := (w.get? k).bind Datum.text?

/-- The names of the variables, which are not all those that something is found under. -/
def names (w : ProcessView) : List String := KeyMap.keys w.vars

def namesFrom (w : ProcessView) (start : String) : List String :=
  w.names.filter fun k => start.toList.isPrefixOf k.toList

end ProcessView

/-- Which variables stand for those of the process: a fixed set, or the environment itself. -/
inductive ProcessLayer where
  | fixed (vars : KeyMap String)
  | system

/-- A process layer with the environment it lives in. -/
structure ProcessVars where
  layer : ProcessLayer
  env : Variables

namespace ProcessVars

def view (p : ProcessVars) : ProcessView :=
  match p.layer with
  | .fixed m => { vars := m.map .text }
  | .system => { vars := p.env, environ := true }

def get? (p : ProcessVars) (k : String) : Option String := p.view.text? k

/-- The variable is there, even if its value is not text. -/
def contains (p : ProcessVars) (k : String) : Bool := (p.view.get? k).isSome

def namesFrom (p : ProcessVars) (start : String) : List String := p.view.namesFrom start

/-- Sets a variable, unless the environment refuses it. -/
def set? (p : ProcessVars) (k v : String) : Option ProcessVars :=
  match p.layer with
  | .fixed m => some ⟨.fixed (m.insert k v), p.env⟩
  | .system => (p.env.set? k (.text v)).map fun e => ⟨.system, e⟩

def unset? (p : ProcessVars) (k : String) : Option ProcessVars :=
  match p.layer with
  | .fixed m => some ⟨.fixed (m.erase k), p.env⟩
  | .system => (p.env.unset? k).map fun e => ⟨.system, e⟩

/-- Sets a variable that is not there; tells whether it was set. -/
def setIfAbsent? (p : ProcessVars) (k v : String) : Option (Bool × ProcessVars) :=
  if p.contains k then some (false, p) else (p.set? k v).map fun q => (true, q)

end ProcessVars

end LayeredConfig
