import LayeredConfig.Resolve

/-! All values as one document, and the reading of it into an expected shape. -/
namespace LayeredConfig.View

/-- The first setting without a group whose accessor is the name of a group of another setting. -/
def clash? (v : View) : Option Setting :=
  v.schema.list.find? fun s =>
    s.group.isNone && v.schema.list.any fun o => o.group == some s.accessor

/-- Puts the value of a setting into a table: at the top, or into the table of its group. -/
def place (s : Setting) (d : Document) (top : List (String × Document)) :
    Except Failure (List (String × Document)) :=
  match s.group with
  | none => .ok (insertSorted s.accessor d top)
  | some g =>
    match (top.lookup g).getD (.table []) with
    | .table l => .ok (insertSorted g (.table (insertSorted s.accessor d l)) top)
    | _ => .error (.bad s.envVar (.groupIsValue g))

/-- Adds the value of a setting, got by `inner`, to a table, if it has one. -/
def addBy (inner : Setting → Resolving Value) (top : List (String × Document)) (s : Setting) :
    Resolving (List (String × Document)) := do
  match (← inner s).toDocument? with
  | none => return top
  | some d => Resolving.lift (place s d top)

/-- The values of all settings, got by `inner`, as a table, with a table inside for each group.
Nothing is resolved where a setting and a group would share a place. -/
def tableBy (v : View) (inner : Setting → Resolving Value) :
    Resolving (List (String × Document)) :=
  match v.clash? with
  | some s => throw (.bad s.envVar (.accessorIsGroup s.accessor))
  | none => v.schema.list.foldlM (addBy inner) []

def extractBy (v : View) (inner : Setting → Resolving Value) (want : Shape) :
    Resolving Document := do
  match Document.fit want (.table (← v.tableBy inner)) with
  | .ok d => return d
  | .error m => throw (.misfit m)

def toTable (v : View) : Resolving (List (String × Document)) := v.tableBy v.resolve

def extract (v : View) (want : Shape) : Resolving Document := v.extractBy v.resolve want

end LayeredConfig.View
