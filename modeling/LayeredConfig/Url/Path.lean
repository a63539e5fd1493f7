import LayeredConfig.Url.Percent

/-! Paths of addresses, with their dots and drive letters taken care of. -/
namespace LayeredConfig.Url

/-- How a scheme is treated: files, the well-known schemes of the web, and all others. -/
inductive SchemeKind where
  | file
  | web
  | other
deriving DecidableEq, Repr

/-- In files and on the web a backslash is as good as a slash. -/
def SchemeKind.isSlash (k : SchemeKind) (c : Char) : Bool :=
  c == '/' || (c == '\\' && k != .other)

/-- A tab or a line end. An address may hold them anywhere, and they are no part of it. -/
def isBreak (c : Char) : Bool := c == '\t' || c == '\n' || c == '\r'

def squeeze (s : List Char) : List Char := s.filter fun c => !isBreak c

/-- A letter and a colon or a bar, at the end of the text or of a part of it. -/
def startsWithDrive : List Char → Bool
  | a :: b :: r =>
    a.isAlpha && (b == ':' || b == '|') &&
      (match r with
        | [] => true
        | c :: _ => c == '/' || c == '\\' || c == '?' || c == '#')
  | _ => false

/-- A letter and a colon or a bar, and no more. -/
def isDrive (s : List Char) : Bool := s.length == 2 && startsWithDrive s

def isPlainDrive (s : List Char) : Bool := isDrive s && s.getLast? == some ':'

def lastPart (path : List Char) : List Char := (path.reverse.takeWhile (· != '/')).reverse

/-- The part of a path up to its last slash. -/
def upToLastSlash (path : List Char) : List Char := (path.reverse.dropWhile (· != '/')).reverse

/-- A part that stands for the part before it. -/
def isDoubleDot (s : List Char) : Bool :=
  let t := s.map Char.toLower
  t == "..".toList || t == "%2e%2e".toList || t == "%2e.".toList || t == ".%2e".toList

def isSingleDot (s : List Char) : Bool :=
  let t := s.map Char.toLower
  t == ".".toList || t == "%2e".toList

/-- Leaves out a final slash, unless it is the first one or stands behind a drive. -/
def dropFinalSlash (path : List Char) : List Char :=
  let front := path.dropLast
  if path.getLast? = some '/' ∧ front.contains '/' ∧
      !startsWithDrive (lastPart front ++ ['/']) then front
  else path

/-- Leaves out what stands behind the last slash; a drive of a file stays. -/
def dropLastPart (k : SchemeKind) (path : List Char) : List Char :=
  if k = .file ∧ isPlainDrive (lastPart path) then path else upToLastSlash path

/-- Adds a part to a path, with a slash behind it when one was read. -/
def addPart (k : SchemeKind) (path part : List Char) (slash : Bool) : List Char :=
  let tail := if slash then ['/'] else []
  if isDoubleDot part then
    let p := dropLastPart k (dropFinalSlash path)
    if slash ∧ p.getLast? ≠ some '/' then p ++ ['/'] else p
  else if isSingleDot part then
    if path.getLast? = some '/' then path else path ++ ['/']
  else if k = .file ∧ path.length = 1 ∧ isDrive part then
    path ++ part.take 1 ++ [':'] ++ tail
  else path ++ part ++ tail

/-- The first part of a path is a drive, before which no host can stand. -/
def takesOver (k : SchemeKind) (path part : List Char) : Bool :=
  k == .file && path.length == 1 && isDrive part

/-- What follows, breaks left out, belongs to the same part of the path. -/
def goesOn (k : SchemeKind) (s : List Char) : Bool :=
  match s.dropWhile isBreak with
  | c :: _ => !k.isSlash c && c != '?' && c != '#'
  | [] => false

/-- A break behind a drive ends the drive, although the part goes on. -/
def cutsDrive (k : SchemeKind) (path part rest : List Char) : Bool :=
  k == .file && path.length == 1 && isPlainDrive part && goesOn k rest

/-- Reads a path after what is there of it; `part` is the part being read, backwards. Gives the
path, whether it starts with a drive, and the rest. A drive cut off by a break has a slash put
behind it, and from its colon on it is an ordinary part. -/
def pathAfter (k : SchemeKind) (path part : List Char) (drive : Bool) :
    List Char → List Char × Bool × List Char
  | [] => (addPart k path part.reverse false, drive || takesOver k path part.reverse, [])
  | c :: r =>
    if isBreak c then
      if cutsDrive k path part.reverse r then
        pathAfter k (path ++ part.reverse.take 1) ['/', ':'] drive r
      else pathAfter k path part drive r
    else if k.isSlash c then
      pathAfter k (addPart k path part.reverse true) [] (drive || takesOver k path part.reverse) r
    else if c = '?' ∨ c = '#' then
      (addPart k path part.reverse false, drive || takesOver k path part.reverse, c :: r)
    else pathAfter k path ((encodeChar pathSet c).reverse ++ part) drive r

/-- Reads a path after `start`. A path of a file starts with one slash only. -/
def readPath (k : SchemeKind) (start s : List Char) : List Char × Bool × List Char :=
  let (p, drive, rest) := pathAfter k start [] false s
  (if k = .file then '/' :: p.dropWhile (· == '/') else p, drive, rest)

end LayeredConfig.Url
