import LayeredConfig.Resolve

/-! The settings of one group, known by their accessors alone. -/
namespace LayeredConfig.View

def memberName (group accessor : String) : String := group ++ "." ++ accessor

def groupNames (v : View) (group : String) : List String :=
  (v.schema.members group).map (·.accessor)

def groupValues (v : View) (group : String) : Resolving (List Value) :=
  (v.schema.members group).mapM v.resolve

def groupMap (v : View) (group : String) : Resolving (KeyMap Value) :=
  mapBy v.resolve (·.accessor) (v.schema.members group)

def groupGet (v : View) (group accessor : String) : Resolving Value :=
  v.get (memberName group accessor)

def groupFetchOrElse (v : View) (group accessor : String) (f : String → Value) :
    Resolving Value :=
  v.fetchOrElse (memberName group accessor) f

def groupFetchOr (v : View) (group accessor : String) (default : Value) : Resolving Value :=
  v.fetchOr (memberName group accessor) default

end LayeredConfig.View
