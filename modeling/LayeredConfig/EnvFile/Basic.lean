import LayeredConfig.EnvFile.Assignment
import LayeredConfig.EnvFile.Quoting
import LayeredConfig.Table
import LayeredConfig.Text.Lines

/-! The variables that the text of an env file sets. -/
namespace LayeredConfig.EnvFile

def entry? (line : List Char) : Option (String × String) :=
  (Assignment.ofLine? line).map fun a => (a.key, String.ofList (readValue a.rest))

/-- Reads the text of an env file. Of several lines with one key the last gives the value and the
first the position; lines that assign nothing are skipped. -/
def parse (text : String) : Table String :=
  Table.ofList ((Text.lines text.toList).filterMap entry?)

end LayeredConfig.EnvFile
