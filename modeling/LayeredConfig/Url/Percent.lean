import LayeredConfig.Text.Numeral

/-! Percent encoding of the characters that a part of an address must not hold. -/
namespace LayeredConfig.Url
open Text

/-- The basic characters that a part of an address writes in percent form; all characters beyond
the basic ones are written so too. -/
abbrev Reserved := Char → Bool

def controlSet : Reserved := fun c => c.toNat < 0x20 || c.toNat == 0x7F

def querySet : Reserved := fun c => controlSet c || [' ', '"', '#', '<', '>'].contains c

def specialQuerySet : Reserved := fun c => querySet c || c == '\''

def fragmentSet : Reserved := fun c => controlSet c || [' ', '"', '<', '>', '\x60'].contains c

def pathSet : Reserved := fun c => fragmentSet c || ['#', '?', '\x7b', '\x7d'].contains c

def userSet : Reserved := fun c =>
  pathSet c || ['/', ':', ';', '=', '@', '[', '\\', ']', '^', '|'].contains c

def percentByte (b : UInt8) : List Char := '%' :: (hexByte b).map Char.toUpper

/-- A character, in percent form where it has to be. -/
def encodeChar (set : Reserved) (c : Char) : List Char :=
  if c.toNat < 0x80 && !set c then [c] else (String.utf8EncodeChar c).flatMap percentByte

/-- A text with its reserved characters in percent form. -/
def encode (set : Reserved) (s : List Char) : List Char := s.flatMap (encodeChar set)

/-- The bytes of a text, with every percent form read as the byte it stands for. -/
def decode : List Char → List UInt8
  | [] => []
  | '%' :: a :: b :: r =>
    if isHex a && isHex b then UInt8.ofNat (ofDigits 16 [a, b]) :: decode r
    else 37 :: decode (a :: b :: r)
  | c :: r => String.utf8EncodeChar c ++ decode r

end LayeredConfig.Url
