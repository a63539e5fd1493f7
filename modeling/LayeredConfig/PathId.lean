import LayeredConfig.Text.Pieces

/-! When two paths are the same path: repeated and trailing slashes and inner dots do not count. -/
namespace LayeredConfig

/-- The identity of a path: whether it starts at the root, and its parts. -/
structure PathId where
  rooted : Bool
  parts : List String
deriving DecidableEq, Repr

/-- Empty parts and dots are left out, except a dot in front of a path that is not rooted. -/
def PathId.ofText (path : String) : PathId :=
  let ps := (Text.pieces '/' path.toList).map String.ofList
  let rooted := path.toList.head? == some '/'
  let inner := ps.filter fun p => p != "" && p != "."
  ⟨rooted, if !rooted && ps.head? == some "." then "." :: inner else inner⟩

end LayeredConfig
