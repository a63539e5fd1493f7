import LayeredConfig.EnvFile.Load
import LayeredConfig.Layers
import LayeredConfig.Schema

/-! A configuration: what is declared, and what has been loaded for it. -/
namespace LayeredConfig

/-- What the last load left behind: the process layer and the variables of the files, and for the
next load the paths, whether to export, and what has been exported. -/
structure Loaded where
  layer : ProcessLayer
  files : Table String
  paths : List String := []
  propagate : Bool := false
  exported : List (String × String) := []

/-- A configuration. The root of placeholders and whether to use them can be fixed beforehand. -/
structure Config where
  schema : Schema
  base : ProcessLayer
  root : Option String
  placeholders : Option Bool
  loaded : Loaded

/-- What came of a load. The environment can refuse a variable; then the load breaks off. -/
inductive Outcome where
  | done
  | failed (f : Failure)
  | aborted
deriving DecidableEq

namespace ProcessVars

/-- Takes out the exported variables that still have the exported value. Tells whether the
environment refused one. -/
def withdraw (p : ProcessVars) : List (String × String) → Bool × ProcessVars
  | [] => (false, p)
  | (k, v) :: r =>
    if p.get? k = some v then
      match p.unset? k with
      | some q => q.withdraw r
      | none => (true, p)
    else p.withdraw r

/-- Sets the variables that are not there, and lists those that were set. Tells whether the
environment refused one. -/
def exportAll (p : ProcessVars) :
    List (String × String) → Bool × List (String × String) × ProcessVars
  | [] => (false, [], p)
  | (k, v) :: r =>
    match p.setIfAbsent? k v with
    | some (set, q) =>
      let (refused, done, q) := q.exportAll r
      (refused, if set then (k, v) :: done else done, q)
    | none => (true, [], p)

end ProcessVars

namespace Config

def ofSchema (schema : Schema) (base : ProcessLayer) (root : Option String)
    (placeholders : Option Bool) : Config :=
  ⟨schema, base, root, placeholders, { layer := base, files := .empty }⟩

def layers (c : Config) (env : Variables) : Layers :=
  ⟨(ProcessVars.mk c.loaded.layer env).view, c.loaded.files⟩

/-- Reads env files and puts them in the place of those loaded before. Exports of the last load are
taken back first; with `propagate`, variables of the files are exported that the process does not
have. -/
def load (c : Config) (env : Variables) (t : FileTree) (paths : List String) (propagate : Bool) :
    Outcome × Config × Variables :=
  match EnvFile.loadAll t paths with
  | .error f => (.failed f, c, env)
  | .ok files =>
    match (ProcessVars.mk c.base env).withdraw c.loaded.exported with
    | (true, p) => (.aborted, c, p.env)
    | (false, p) =>
      match if propagate then p.exportAll files.entries else (false, [], p) with
      | (true, _, q) => (.aborted, c, q.env)
      | (false, exported, q) =>
        (.done, { c with loaded := ⟨q.layer, files, paths, propagate, exported⟩ }, q.env)

def reload (c : Config) (env : Variables) (t : FileTree) : Outcome × Config × Variables :=
  c.load env t c.loaded.paths c.loaded.propagate

end Config

end LayeredConfig
