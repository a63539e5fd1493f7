import LayeredConfig.Text.Blank

/-! How the text of a value is read and written: in double quotes, in single quotes, or bare. -/
namespace LayeredConfig.EnvFile
open Text

/-- The text before the first `q` that no backslash protects, and the text after it. A backslash
protects whatever character follows it. -/
def untilQuote (q : Char) : List Char → Option (List Char × List Char)
  | [] => none
  | '\\' :: c :: r => (untilQuote q r).map fun (a, b) => ('\\' :: c :: a, b)
  | c :: r => if c = q then some ([], r) else (untilQuote q r).map fun (a, b) => (c :: a, b)

/-- What a backslash and `c` stand for in double quotes; unknown pairs stand for themselves. -/
def unescaped (c : Char) : List Char :=
  match c with
  | 'n' => ['\n']
  | 't' => ['\t']
  | 'r' => ['\r']
  | '\\' => ['\\']
  | '"' => ['"']
  | c => ['\\', c]

def readDouble : List Char → List Char
  | [] => []
  | '\\' :: c :: r => unescaped c ++ readDouble r
  | c :: r => c :: readDouble r

/-- Reads the inside of single quotes: a backslash before a quote goes away. -/
def readSingle : List Char → List Char
  | [] => []
  | '\\' :: '\'' :: r => '\'' :: readSingle r
  | c :: r => c :: readSingle r

/-- Cuts a text before the first `#` that follows a blank; `afterBlank` tells whether a blank
stands in front of the text. -/
def cutComment (afterBlank : Bool) : List Char → List Char
  | [] => []
  | c :: r => if c = '#' ∧ afterBlank then [] else c :: cutComment (isBlank c) r

def readBare (s : List Char) : List Char := trim (cutComment false s)

/-- After blanks the text is over or a comment. -/
def endsValue (s : List Char) : Bool :=
  match trimStart s with
  | [] => true
  | c :: _ => c == '#'

/-- The inside of the quotes `q`, when only blanks and a comment follow the closing one. -/
def enclosed? (q : Char) (s : List Char) : Option (List Char) :=
  match untilQuote q s with
  | some (inner, after) => if endsValue after then some inner else none
  | none => none

/-- Reads the text of a value. Quotes that do not enclose all of it are taken as they stand. -/
def readValue (s : List Char) : List Char :=
  match s with
  | '"' :: r => ((enclosed? '"' r).map readDouble).getD (readBare s)
  | '\'' :: r => ((enclosed? '\'' r).map readSingle).getD (readBare s)
  | _ => readBare s

def escaped (c : Char) : List Char :=
  match c with
  | '\\' => ['\\', '\\']
  | '"' => ['\\', '"']
  | '\n' => ['\\', 'n']
  | '\r' => ['\\', 'r']
  | c => [c]

def writeDouble (s : List Char) : List Char := '"' :: s.flatMap escaped ++ ['"']

def writeSingle (s : List Char) : List Char :=
  '\'' :: s.flatMap (fun c => if c = '\'' then ['\\', '\''] else [c]) ++ ['\'']

theorem readDouble_escaped (c : Char) (r : List Char) :
    readDouble (escaped c ++ r) = c :: readDouble r := by
  unfold escaped
  split
  · rfl
  · rfl
  · rfl
  · rfl
  · next h _ _ _ =>
    rw [List.singleton_append, readDouble.eq_3]
    exact fun _ _ e => absurd e h

/-- What is written inside double quotes is read back. -/
theorem readDouble_flatMap_escaped (s : List Char) : readDouble (s.flatMap escaped) = s := by
  induction s with
  | nil => rfl
  | cons c r ih => rw [List.flatMap_cons, readDouble_escaped, ih]

end LayeredConfig.EnvFile
