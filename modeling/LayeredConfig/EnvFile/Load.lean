import LayeredConfig.EnvFile.Basic
import LayeredConfig.Failure

/-! Reading env files from a tree. -/
namespace LayeredConfig.EnvFile

/-- The text of an env file, or nothing where there is no such file. -/
def readText? (t : FileTree) (path : String) : Except Failure (Option String) :=
  match t.read path with
  | .ok s => .ok (some s)
  | .error .notFound => .ok none
  | .error e => .error (.unreadable path e)

def load (t : FileTree) (path : String) : Except Failure (Table String) := do
  match ← readText? t path with
  | some s => return parse s
  | none => return .empty

def scanFile (t : FileTree) (s : DuplicateScan) (path : String) :
    Except Failure DuplicateScan := do
  match ← readText? t path with
  | some text => return s.feed path text
  | none => return s

def duplicates (t : FileTree) (paths : List String) : Except Failure (List Duplicate) := do
  return (← paths.foldlM (scanFile t) .start).found

/-- Takes in one file of several: its duplicates, and its variables over those of the files
before it. -/
def mergeFile (t : FileTree) (s : DuplicateScan × Table String) (path : String) :
    Except Failure (DuplicateScan × Table String) := do
  match ← readText? t path with
  | some text => return (s.1.feed path text, s.2.merge (parse text))
  | none => return s

/-- Reads env files one over the other. Any duplicate in any of them is a failure that lists
them all. -/
def loadAll (t : FileTree) (paths : List String) : Except Failure (Table String) := do
  let (scan, vars) ← paths.foldlM (mergeFile t) (.start, .empty)
  if scan.found = [] then return vars else throw (.duplicates scan.found)

end LayeredConfig.EnvFile
