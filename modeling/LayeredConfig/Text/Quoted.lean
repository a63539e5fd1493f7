import LayeredConfig.Text.Numeral
import LayeredConfig.Text.Printable

/-! Quoting a text so that every character can be seen. -/
namespace LayeredConfig.Text

/-- Backslash escapes for controls, quotes and backslashes, and the code point for what cannot be
shown. -/
def escapeChar (c : Char) : List Char :=
  match c with
  | '\x00' => ['\\', '0']
  | '\t' => ['\\', 't']
  | '\r' => ['\\', 'r']
  | '\n' => ['\\', 'n']
  | '"' => ['\\', '"']
  | '\\' => ['\\', '\\']
  | c => if isPrintable c then [c] else '\\' :: 'u' :: '\x7b' :: hexNumber c.toNat ++ ['\x7d']

def quoted (s : String) : String := String.ofList ('"' :: s.toList.flatMap escapeChar ++ ['"'])

end LayeredConfig.Text
