import LayeredConfig.Document
import LayeredConfig.EnvFile.Duplicates
import LayeredConfig.FileTree
import LayeredConfig.Url.Fault

/-! Everything that can go wrong, as causes with one wording each. -/
namespace LayeredConfig

/-- Why a needed value is missing. -/
inductive Lack where
  /-- A reference that asks for a value found none. -/
  | unset
  /-- A reference that asks for a value found none, and states what to say. -/
  | demanded (words : String)
  /-- A required setting has no value. -/
  | required
  /-- A text was asked for and none was given. -/
  | noText
  /-- A fallback states that a value is missing. -/
  | stated (words : String)
deriving DecidableEq, Repr

def Lack.message (key : String) : Lack → String
  | .unset => key ++ ": parameter not set"
  | .demanded w => w
  | .required => "missing required configuration: " ++ key
  | .noText => key ++ ": value required but not set"
  | .stated w => w

/-- Why a value is no good. -/
inductive Flaw where
  | notInteger (raw : String)
  | notBoolean (raw : String)
  | noScheme (raw : String)
  | badUrl (fault : Url.Fault) (raw : String)
  | badAddress (segment : String)
  | noMatch (pattern : String)
  | accessorIsGroup (accessor : String)
  | groupIsValue (group : String)
  /-- A fallback states that the value is no good. -/
  | stated (words : String)
deriving DecidableEq, Repr

def Flaw.message : Flaw → String
  | .notInteger r => "must be an integer, got: " ++ r
  | .notBoolean r => "must be true/false, got: " ++ r
  | .noScheme r => "must have a scheme, got: " ++ r
  | .badUrl f r => "not a valid URL (" ++ f.message ++ "): " ++ r
  | .badAddress s => "invalid IP address or CIDR block: " ++ s
  | .noMatch p => "does not match required format " ++ p
  | .accessorIsGroup a => "accessor '" ++ a ++ "' collides with a namespace of the same name"
  | .groupIsValue g => "namespace '" ++ g ++ "' is not a table"
  | .stated w => w

/-- A failure of loading, resolving or reading out configuration. -/
inductive Failure where
  | missing (key : String) (cause : Lack)
  | bad (key : String) (cause : Flaw)
  | duplicates (list : List EnvFile.Duplicate)
  | unknownKind (name : String)
  | unknownName (name : String)
  | circular (name : String)
  | unreadable (path : String) (fault : IoFault)
  | unwritable (path : String) (fault : IoFault)
  | misfit (cause : Misfit)
deriving DecidableEq, Repr

/-- The line about one duplicate; the content of the line is left out, as it may be secret. -/
def EnvFile.Duplicate.message (d : EnvFile.Duplicate) : String :=
  "\n  " ++ d.path ++ ": '" ++ d.key ++ "' defined on line " ++ toString d.firstLine ++
    " and again on line " ++ toString d.line

def Failure.message : Failure → String
  | .missing k c => c.message k
  | .bad k c => k ++ ": " ++ c.message
  | .duplicates l => "duplicate keys in env files:" ++ String.join (l.map (·.message))
  | .unknownKind n => "unknown config type: " ++ n
  | .unknownName n => "no configuration declared as '" ++ n ++ "'"
  | .circular n => "circular reference detected while resolving '" ++ n ++ "'"
  | .unreadable p f => "failed to read env file '" ++ p ++ "': " ++ f.message
  | .unwritable p f => "failed to write dummy value '" ++ p ++ "': " ++ f.message
  | .misfit m => "failed to deserialize config: " ++ m.message

end LayeredConfig
