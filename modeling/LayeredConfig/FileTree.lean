import LayeredConfig.Datum
import LayeredConfig.Text.Pieces

/-! A tree of files and folders, with the ways in which reading and writing it fail. -/
namespace LayeredConfig

/-- Why a file could not be read or written. -/
inductive IoFault where
  | notFound
  | nulInPath
  | nameTooLong
  | notFolder
  | isFolder
  | alreadyThere
  | notText
deriving DecidableEq, Repr

def IoFault.message : IoFault → String
  | .notFound => "No such file or directory (os error 2)"
  | .nulInPath => "file name contained an unexpected NUL byte"
  | .nameTooLong => "File name too long (os error 36)"
  | .notFolder => "Not a directory (os error 20)"
  | .isFolder => "Is a directory (os error 21)"
  | .alreadyThere => "File exists (os error 17)"
  | .notText => "stream did not contain valid UTF-8"

inductive Node where
  | file (content : Datum)
  | folder
deriving DecidableEq

/-- What stands at each place, a place being the names that lead to it. The empty place is the
folder in which all paths start. -/
structure FileTree where
  node? : List String → Option Node

namespace FileTree

def empty : FileTree := ⟨fun _ => none⟩

/-- What stands at a place; the start is always a folder. -/
def at? (t : FileTree) (place : List String) : Option Node :=
  if place = [] then some .folder else t.node? place

def put (t : FileTree) (place : List String) (n : Node) : FileTree :=
  ⟨fun p => if p = place then some n else t.node? p⟩

def names (path : String) : List String := (Text.pieces '/' path.toList).map String.ofList

/-- A name that leads nowhere. -/
def isIdle (name : String) : Bool := name == "" || name == "."

def steps (path : String) : List String := (names path).filter fun n => !isIdle n

def endsInDot (path : String) : Bool := ((names path).filter (· != "")).getLast? == some "."

/-- The path in front of the last name that leads somewhere. -/
def parent (path : String) : String :=
  let front := ((names path).reverse.dropWhile isIdle).drop 1
  "/".intercalate (front.dropWhile isIdle).reverse

/-- No name may take more than 255 bytes. -/
def maxName : Nat := 255

/-- No path may take 4096 bytes or more. -/
def pathLimit : Nat := 4096

/-- Walks from a place along names to the place they lead to. Every name, an empty one or a dot
included, asks for a folder to start from. -/
def walk (t : FileTree) (place : List String) : List String → Except IoFault (List String)
  | [] => .ok place
  | n :: r =>
    if t.at? place ≠ some .folder then .error .notFolder
    else if isIdle n then t.walk place r
    else if n = ".." then t.walk place.dropLast r
    else if n.utf8ByteSize > maxName then .error .nameTooLong
    else if (t.at? (place ++ [n])).isNone then .error .notFound
    else t.walk (place ++ [n]) r

/-- Refuses paths that no tree can hold. -/
def checkPath (path : String) : Except IoFault Unit :=
  if path.toList.contains '\x00' then .error .nulInPath
  else if path = "" then .error .notFound
  else if path.utf8ByteSize ≥ pathLimit then .error .nameTooLong
  else .ok ()

def readData (t : FileTree) (path : String) : Except IoFault Datum := do
  checkPath path
  let place ← t.walk [] (names path)
  match t.at? place with
  | some (.file d) => .ok d
  | some .folder => .error .isFolder
  | none => .error .notFound

def read (t : FileTree) (path : String) : Except IoFault String := do
  match ← t.readData path with
  | .text s => .ok s
  | .raw _ => .error .notText

/-- Makes the folders along names that are not there yet, starting at a place. The folders made
before a failure stay. -/
def makeFolders (t : FileTree) (place : List String) : List String → Option IoFault × FileTree
  | [] => (none, t)
  | n :: r =>
    if n = ".." then t.makeFolders place.dropLast r
    else if n.utf8ByteSize > maxName then (some .nameTooLong, t)
    else
      match t.at? (place ++ [n]) with
      | some .folder => t.makeFolders (place ++ [n]) r
      | some (.file _) => (some (if r = [] then .alreadyThere else .notFolder), t)
      | none => (t.put (place ++ [n]) .folder).makeFolders (place ++ [n]) r

/-- Makes the folder that a path leads to, with all folders on the way. A dot at the end asks for
a folder that is there already. -/
def makeFolder (t : FileTree) (path : String) : Option IoFault × FileTree :=
  match checkPath path with
  | .error e => (some e, t)
  | .ok _ =>
    if endsInDot path then
      match t.makeFolders [] (steps path).dropLast with
      | (none, u) =>
        match u.walk [] (names path) with
        | .ok _ => (none, u)
        | .error e => (some e, u)
      | failed => failed
    else t.makeFolders [] (steps path)

def write (t : FileTree) (path : String) (content : Datum) : Except IoFault FileTree := do
  checkPath path
  let place ← t.walk [] (names path).dropLast
  if t.at? place ≠ some .folder then .error .notFolder
  else
    let name := (names path).getLast?.getD ""
    if name = "" ∨ name = "." ∨ name = ".." then .error .isFolder
    else if name.utf8ByteSize > maxName then .error .nameTooLong
    else if t.at? (place ++ [name]) = some .folder then .error .isFolder
    else .ok (t.put (place ++ [name]) (.file content))

def writeDeep (t : FileTree) (path : String) (content : Datum) : Option IoFault × FileTree :=
  match if parent path = "" then (none, t) else t.makeFolder (parent path) with
  | (some e, u) => (some e, u)
  | (none, u) =>
    match u.write path content with
    | .ok v => (none, v)
    | .error e => (some e, u)

/-- Takes away a file, or a folder with all that is in it. A folder that is named by a dot stays
behind empty. -/
def remove (t : FileTree) (path : String) : FileTree :=
  match checkPath path *> t.walk [] (names path) with
  | .ok place =>
    ⟨fun p => if place.isPrefixOf p ∧ ¬(p = place ∧ endsInDot path) then none else t.node? p⟩
  | .error _ => t

end FileTree

end LayeredConfig
