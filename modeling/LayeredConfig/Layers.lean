import LayeredConfig.Reference
import LayeredConfig.Table
import LayeredConfig.Text.LetterCase
import LayeredConfig.Variables

/-! The two layers that values are looked up in: the process, and under it the env files. -/
namespace LayeredConfig

/-- The variables of the process and those of the env files. -/
structure Layers where
  process : ProcessView
  files : Table String

namespace Layers

/-- The value of a variable; the process goes before the files. -/
def lookup (l : Layers) (k : String) : Option String := (l.process.text? k).or (l.files.get? k)

/-- The names in either layer that start with given characters, in order and without repeats. -/
def namesFrom (l : Layers) (start : String) : List String :=
  let names := l.process.namesFrom start ++
    l.files.keys.filter fun k => start.toList.isPrefixOf k.toList
  (KeyMap.ofList (names.map fun k => (k, ()))).keys

def interpolate (l : Layers) (raw : String) : Except Failure String :=
  Reference.interpolate l.lookup raw

/-- The beginning of the names that a pattern gathers: a final `*` is left out, and an underscore
is added unless it ends with one. -/
def gatherStart (pattern : String) : String :=
  let base := if pattern.toList.getLast? = some '*' then pattern.toList.dropLast
    else pattern.toList
  if base.getLast? = some '_' then String.ofList base else String.ofList base ++ "_"

/-- Gathers one variable into fields, unless nothing of its name is left for the field. -/
def gatherOne (l : Layers) (start : String) (fields : KeyMap String) (name : String) :
    Except Failure (KeyMap String) := do
  let rest := String.ofList (name.toList.drop start.toList.length)
  if rest = "" then return fields
  else return fields.insert (Text.lower rest) (← l.interpolate ((l.lookup name).getD ""))

/-- All variables whose names a pattern matches, under the lower case of the rest of their names.
Of names that differ by case alone the last one in order counts. -/
def gather (l : Layers) (pattern : String) : Except Failure (KeyMap String) :=
  (l.namesFrom (gatherStart pattern)).foldlM (l.gatherOne (gatherStart pattern)) KeyMap.empty

end Layers

end LayeredConfig
