import LayeredConfig.Url.Basic
import LayeredConfig.Url.Host
import LayeredConfig.Url.Path

/-! Reading the address of a resource. -/
namespace LayeredConfig.Url
open Text

def SchemeKind.ofScheme (s : String) : SchemeKind :=
  if s = "file" then .file
  else if ["http", "https", "ws", "wss", "ftp"].contains s then .web
  else .other

/-- The port that a scheme has without saying. -/
def defaultPort? (scheme : String) : Option Nat :=
  match scheme with
  | "http" => some 80
  | "ws" => some 80
  | "https" => some 443
  | "wss" => some 443
  | "ftp" => some 21
  | _ => none

/-- A text without controls and spaces at its ends. -/
def clean (s : List Char) : List Char :=
  let low (c : Char) : Bool := c.toNat ≤ 0x20
  ((s.dropWhile low).reverse.dropWhile low).reverse

/-- What schemes are made of, behind their first letter. -/
def isSchemePart (c : Char) : Bool := c.isAlphanum || c == '+' || c == '-' || c == '.'

def scheme? (s : List Char) : Option (String × List Char) :=
  match cutAt ':' s with
  | none => none
  | some (front, r) =>
    match squeeze front with
    | a :: name =>
      if a.isAlpha && name.all isSchemePart then
        some (String.ofList ((a :: name).map Char.toLower), r)
      else none
    | [] => none

/-- A character that ends user, host and port. -/
def endsAuthority (k : SchemeKind) (c : Char) : Bool := k.isSlash c || c == '?' || c == '#'

/-- User name and password in front of the last `@`, and what follows it. -/
def readUser (k : SchemeKind) (s : List Char) :
    Except Fault (String × Option String × List Char) :=
  let stop := s.dropWhile fun c => !endsAuthority k c
  match cutAt '@' (s.takeWhile fun c => !endsAuthority k c).reverse with
  | none => .ok ("", none, s)
  | some (after, []) =>
    if after = [] ∧ stop ≠ [] then .error .emptyHost else .ok ("", none, after.reverse ++ stop)
  | some (after, before) =>
    let rest := after.reverse ++ stop
    let text (l : List Char) : String := String.ofList (encode userSet l)
    match cutAt ':' before.reverse with
    | none => .ok (text before.reverse, none, rest)
    | some (u, []) => .ok (text u, none, rest)
    | some (u, p) => .ok (text u, some (text p), rest)

/-- The text of the host and what follows it; a colon in brackets does not end it. -/
def hostSpan (k : SchemeKind) (inBrackets : Bool) : List Char → List Char × List Char
  | [] => ([], [])
  | c :: r =>
    if (c = ':' ∧ !inBrackets) ∨ endsAuthority k c then ([], c :: r)
    else
      let (h, rest) := hostSpan k (c = '[' ∨ (c ≠ ']' ∧ inBrackets)) r
      (c :: h, rest)

def readPort (scheme : String) (s : List Char) : Except Fault (Option Nat × List Char) :=
  match s with
  | ':' :: s =>
    let ds := s.takeWhile isDecimal
    let rest := s.dropWhile isDecimal
    let stops := match rest with
      | [] => true
      | c :: _ => c == '/' || c == '\\' || c == '?' || c == '#'
    if ofDigits 10 ds > 65535 ∨ !stops then .error .badPort
    else if ds = [] ∨ some (ofDigits 10 ds) = defaultPort? scheme then .ok (none, rest)
    else .ok (some (ofDigits 10 ds), rest)
  | s => .ok (none, s)

def readTail (k : SchemeKind) (s : List Char) : Option String × Option String :=
  let fragment (s : List Char) : Option String :=
    match s with
    | '#' :: f => some (String.ofList (encode fragmentSet f))
    | _ => none
  match s with
  | '?' :: q =>
    let set := if k = .other then querySet else specialQuerySet
    (some (String.ofList (encode set (q.takeWhile (· != '#')))), fragment (q.dropWhile (· != '#')))
  | s => (none, fragment s)

def assemble (scheme : String) (k : SchemeKind) (a : Option Authority) (path rest : List Char) :
    Url :=
  let (query, fragment) := readTail k (squeeze rest)
  ⟨scheme, a, String.ofList path, query, fragment⟩

def readPathAfterHost (k : SchemeKind) (s : List Char) : List Char × Bool × List Char :=
  match k, s with
  | .other, [] => readPath k [] []
  | .other, c :: r =>
    if c = '?' ∨ c = '#' then ([], false, c :: r)
    else if c = '/' then readPath k [] (c :: r)
    else readPath k ['/'] (c :: r)
  | k, c :: r => readPath k ['/'] (if k.isSlash c then r else c :: r)
  | k, [] => readPath k ['/'] []

def readAuthority (scheme : String) (k : SchemeKind) (s : List Char) : Except Fault Url := do
  let (username, password, s) ← readUser k s
  let (h, s) := hostSpan k false s
  if h = [] ∧ k = .web then .error .emptyHost
  let host ← if k = .web then domainHost h else opaqueHost h
  if host = [] ∧ s.head? = some ':' then .error .emptyHost
  let (port, s) ← readPort scheme s
  if host = [] ∧ (username ≠ "" ∨ password.isSome) then .error .emptyHost
  let (path, _, rest) := readPathAfterHost k s
  return assemble scheme k (some ⟨username, password, String.ofList host, port⟩) path rest

/-- Reads the address of a file behind two slashes. The own host is left out, and so is any host
before a drive. Without a host the path has one slash more in front, which hides a drive with a
bar. -/
def readFileHost (s : List Char) : Except Fault Url := do
  let h := squeeze (s.takeWhile fun c => !endsAuthority .file c)
  let behind := s.dropWhile fun c => !endsAuthority .file c
  let named ← if isDrive h ∨ h = [] then .ok [] else domainHost h
  let host := if named = "localhost".toList then [] else named
  let (path, drive, rest) :=
    if isDrive h then readPath .file ['/'] s
    else if host = [] then readPath .file ['/'] behind
    else readPathAfterHost .file behind
  let host := if drive then [] else host
  return assemble "file" .file (some ⟨"", none, String.ofList host, none⟩) path rest

/-- The text behind a slash, with breaks before it left out. -/
def behindSlash? (k : SchemeKind) (s : List Char) : Option (List Char) :=
  match s.dropWhile isBreak with
  | c :: r => if k.isSlash c then some r else none
  | [] => none

/-- Reads the address of a file. Its breaks are still in the text, since they count in a path. -/
def readFile (s : List Char) : Except Fault Url :=
  match behindSlash? .file s with
  | none => .ok (here ['/'])
  | some r =>
    match behindSlash? .file r with
    | none => .ok (here [])
    | some r => readFileHost r
where
  here (start : List Char) : Url :=
    let (path, _, rest) := readPath .file start s
    assemble "file" .file (some ⟨"", none, "", none⟩) path rest

def readPlain (scheme : String) (s : List Char) : Url :=
  match s with
  | '/' :: r =>
    let (path, _, rest) := readPath .other ['/'] r
    assemble scheme .other none path rest
  | s =>
    let stop (c : Char) : Bool := c != '?' && c != '#'
    assemble scheme .other none (encode controlSet (s.takeWhile stop)) (s.dropWhile stop)

/-- Reads the address of a resource. It has to say its scheme. -/
def parse (raw : String) : Except Fault Url :=
  match scheme? (clean raw.toList) with
  | none => .error .noScheme
  | some (scheme, s) =>
    match SchemeKind.ofScheme scheme with
    | .file => readFile s
    | .web => readAuthority scheme .web ((squeeze s).dropWhile SchemeKind.web.isSlash)
    | .other =>
      match squeeze s with
      | '/' :: '/' :: r => readAuthority scheme .other r
      | s => .ok (readPlain scheme s)

end LayeredConfig.Url
