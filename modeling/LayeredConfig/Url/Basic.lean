/-! Addresses of resources, and their text. -/
namespace LayeredConfig

/-- Who and where: a user, a host and a port. All texts are in percent form. -/
structure Url.Authority where
  username : String
  password : Option String
  host : String
  port : Option Nat
deriving DecidableEq, Repr

/-- The parts of an address of a resource, all in percent form. -/
structure Url where
  scheme : String
  authority : Option Url.Authority
  path : String
  query : Option String
  fragment : Option String
deriving DecidableEq, Repr

namespace Url

def Authority.toText (a : Authority) : String :=
  let password := match a.password with
    | some p => ":" ++ p
    | none => ""
  let user := if a.username = "" ∧ a.password = none then "" else a.username ++ password ++ "@"
  let port := match a.port with
    | some n => ":" ++ toString n
    | none => ""
  user ++ a.host ++ port

/-- The text of an address. Where no host stands before two slashes, a dot keeps them from
starting one. -/
def toText (u : Url) : String :=
  let middle := match u.authority with
    | some a => "//" ++ a.toText
    | none => if "//".toList.isPrefixOf u.path.toList then "/." else ""
  let query := match u.query with
    | some q => "?" ++ q
    | none => ""
  let fragment := match u.fragment with
    | some f => "#" ++ f
    | none => ""
  u.scheme ++ ":" ++ middle ++ u.path ++ query ++ fragment

def username (u : Url) : String := (u.authority.map (·.username)).getD ""

def password? (u : Url) : Option String := u.authority.bind (·.password)

def host? (u : Url) : Option String := (u.authority.map (·.host)).filter (· ≠ "")

/-- The port, when it is not the one of the scheme. -/
def port? (u : Url) : Option Nat := u.authority.bind (·.port)

end Url

end LayeredConfig
