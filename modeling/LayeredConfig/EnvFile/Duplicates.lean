import LayeredConfig.EnvFile.Assignment
import LayeredConfig.PathId
import LayeredConfig.Text.Lines

/-! Keys that are assigned again in the same file. -/
namespace LayeredConfig.EnvFile

/-- A line that assigns a key again, with the line that assigned it first. -/
structure Duplicate where
  path : String
  key : String
  firstLine : Nat
  line : Nat
  content : String
deriving DecidableEq, Repr

def numberedAssignments (text : String) : List (Nat × List Char × String) :=
  ((Text.lines text.toList).zipIdx 1).filterMap fun (l, n) =>
    (Assignment.ofLine? l).map fun a => (n, l, a.key)

/-- What has been seen of some files: the first line of each key, and the duplicates in the order
in which they were met. -/
structure DuplicateScan where
  firsts : List ((PathId × String) × Nat)
  found : List Duplicate
deriving Repr

namespace DuplicateScan

def start : DuplicateScan := ⟨[], []⟩

def see (path : String) (s : DuplicateScan) : Nat × List Char × String → DuplicateScan
  | (n, line, key) =>
    match s.firsts.lookup (PathId.ofText path, key) with
    | some first => { s with found := s.found ++ [⟨path, key, first, n, String.ofList line⟩] }
    | none => { s with firsts := s.firsts ++ [((PathId.ofText path, key), n)] }

/-- Takes in the text of a file. A file that comes a second time has all its keys reported. -/
def feed (s : DuplicateScan) (path text : String) : DuplicateScan :=
  (numberedAssignments text).foldl (see path) s

end DuplicateScan

end LayeredConfig.EnvFile
