import LayeredConfig.Coercion
import LayeredConfig.Config
import LayeredConfig.Placeholder

/-! From settings to their values: variable, fallback, placeholder, and the reading of the text. -/
namespace LayeredConfig

/-- What happens on the way to a value: a setting is taken up or laid down, or its deferred fallback
is worked out. -/
inductive Event where
  | entered (name : String)
  | left (name : String)
  | deferred (name : String)
deriving DecidableEq, Repr

/-- Names of the settings whose deferred fallbacks were worked out in events, in order; the last
event stands first. -/
def deferredIn (l : List Event) : List String :=
  l.reverse.filterMap fun
    | .deferred n => some n
    | _ => none

/-- What resolving changes. The names in flight are those of the settings taken up and not yet laid
down, the last one first; the journal holds all events, the last one first. -/
structure Session where
  files : FileTree
  random : Random
  inFlight : List String := []
  journal : List Event := []

def Session.deferredNames (s : Session) : List String := deferredIn s.journal

/-- Work on a session that can fail. What was done before a failure stays done. -/
abbrev Resolving := ExceptT Failure (StateM Session)

/-- All that resolving reads: the settings, the layers, and what is fixed about placeholders. -/
structure View where
  schema : Schema
  layers : Layers
  root : Option String
  placeholders : Option Bool

def Config.view (c : Config) (env : Variables) : View :=
  ⟨c.schema, c.layers env, c.root, c.placeholders⟩

def placeholderVar : String := "CONFIG_DUMMY_MODE"

/-- What follows a key in the name of the variable that turns its placeholder on. -/
def placeholderEnding : String := "_DUMMY"

def rootVar : String := "CONFIG_ROOT"

/-- A switch is on with `1`, or with `true` in letters of any case. -/
def isOn (v : Option String) : Bool :=
  match v with
  | some s => s = "1" || Text.lowerBasic s = "true"
  | none => false

namespace Resolving

def note (e : Event) : Resolving Unit := fun s => (.ok (), { s with journal := e :: s.journal })

def lift {α : Type} (x : Except Failure α) : Resolving α := fun s => (x, s)

/-- Works under a name, which must not be in flight already. -/
def guarded {α : Type} (name : String) (work : Resolving α) : Resolving α := fun s =>
  if name ∈ s.inFlight then (.error (.circular name), s)
  else
    let (r, t) := work.run.run
      { s with inFlight := name :: s.inFlight, journal := .entered name :: s.journal }
    (r, { t with inFlight := t.inFlight.tail, journal := .left name :: t.journal })

end Resolving

namespace View

/-- Placeholders are turned on for a key: for all keys, or by the variable of the key. -/
def usesPlaceholder (v : View) (key : String) : Bool :=
  v.placeholders.getD (isOn (v.layers.lookup placeholderVar)) ||
    isOn (v.layers.lookup (key ++ placeholderEnding))

/-- The root of placeholders: the fixed one, one that a variable gives, or the present folder. -/
def placeholderRoot (v : View) : String :=
  (v.root.or (Reference.present? (v.layers.lookup rootVar))).getD "."

def placeholder (v : View) (s : Setting) : Resolving String := fun st =>
  let (r, files, random) := Placeholder.fetch v.placeholderRoot s.envVar s.scheme st.files st.random
  (r, { st with files, random })

/-- The text of a variable with its references expanded. -/
def raw (v : View) (key : String) : Except Failure (Option String) :=
  match v.layers.lookup key with
  | some r => (v.layers.interpolate r).map some
  | none => .ok none

def getBy (v : View) (inner : Setting → Resolving Value) (name : String) : Resolving Value :=
  match v.schema.find? name with
  | some s => inner s
  | none => throw (.unknownName name)

/-- The value of the setting with a name, or `f` of the name where there is none. -/
def fetchBy (v : View) (inner : Setting → Resolving Value) (name : String) (f : String → Value) :
    Resolving Value :=
  match v.schema.find? name with
  | some s => do
    let x ← inner s
    return if x.isAbsent then f name else x
  | none => return f name

def mapBy (inner : Setting → Resolving Value) (key : Setting → String) (l : List Setting) :
    Resolving (KeyMap Value) :=
  l.foldlM (fun m s => return m.insert (key s) (← inner s)) KeyMap.empty

def evalPart (v : View) (inner : Setting → Resolving Value) : Part → Resolving String
  | .literal t => return t
  | .reference n none => return (← v.getBy inner n).render
  | .reference n (some t) => tryCatch (return (← v.getBy inner n).render) fun _ => return t
  | .fetch n d => return (← v.fetchBy inner n fun _ => .text d).render
  | .names => return ",".intercalate v.schema.names
  | .everything => do
    let m ← mapBy inner Setting.name v.schema.list
    return Value.renderPairs (m.entries.map fun e => (e.1, e.2.render))
  | .fail f => throw f

def evalFallback (v : View) (inner : Setting → Resolving Value) (s : Setting) :
    Resolving (Option String) :=
  match s.fallback with
  | none => return none
  | some (.literal t) => return some t
  | some (.deferred parts) => do
    Resolving.note (.deferred s.name)
    return some (String.join (← parts.mapM (v.evalPart inner)))

/-- The value of a setting whose raw text is known, if there is one. -/
def finish (v : View) (s : Setting) (raw : Option String) : Resolving Value :=
  match raw with
  | some r => Resolving.lift (Coercion.coerce s r)
  | none =>
    if !s.required then Resolving.lift (Coercion.coerce s "")
    else if v.usesPlaceholder s.envVar then return .text (← v.placeholder s)
    else throw (.missing s.envVar .required)

/-- Resolves a setting when `inner` resolves those it refers to. -/
def resolveStep (v : View) (inner : Setting → Resolving Value) (s : Setting) : Resolving Value :=
  if s.kind = .fields then return .fields (← Resolving.lift (v.layers.gather s.envVar))
  else do
    match Reference.present? (← Resolving.lift (v.raw s.envVar)) with
    | some r => v.finish s (some r)
    | none => v.finish s (Reference.present? (← v.evalFallback inner s))

/-- Resolves a setting with references nested to a depth. A setting that is needed for its own value
is a failure. -/
def resolveWithin (v : View) : Nat → Setting → Resolving Value
  | 0, s => throw (.circular s.name)
  | n + 1, s => Resolving.guarded s.name (v.resolveStep (v.resolveWithin n) s)

/-- Resolves a setting. References cannot nest deeper than there are settings, as no setting is in
flight twice. -/
def resolve (v : View) (s : Setting) : Resolving Value := v.resolveWithin v.schema.settings.size s

def get (v : View) (name : String) : Resolving Value := v.getBy v.resolve name

/-- The value of the setting with a name, or `f` of the name where there is no setting or no
value. -/
def fetchOrElse (v : View) (name : String) (f : String → Value) : Resolving Value :=
  v.fetchBy v.resolve name f

def fetchOr (v : View) (name : String) (default : Value) : Resolving Value :=
  v.fetchOrElse name fun _ => default

def values (v : View) : Resolving (List Value) := v.schema.list.mapM v.resolve

def toMap (v : View) : Resolving (KeyMap Value) := mapBy v.resolve Setting.name v.schema.list

end View

end LayeredConfig
