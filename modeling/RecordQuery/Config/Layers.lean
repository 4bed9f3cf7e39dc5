import RecordQuery.Config.Document

/-!
# Loading a configuration in layers

Three sources are laid over one another: the base document, the document of the active
environment, and environment variables. For an application `app` these are `app.toml`,
`app.<environment>.toml` and the variables whose names start with `APP__`, two
underscores dividing the names of a path. Missing documents count as empty.
-/

namespace RecordQuery.Config

/-- The active environment: what the variables name, or else development. -/
def environmentOf (app : String) (vars : KeyMap String) : String :=
  let named :=
    KeyMap.get? vars (app.map Char.toUpper ++ "_ENV") <|> KeyMap.get? vars "APP_ENV"
  Text.lowercase (named.getD "development")

/-- The pieces of a name between points and between pairs of underscores. -/
def pathPieces : List Char → List (List Char)
  | [] => [[]]
  | '.' :: rest => [] :: pathPieces rest
  | '_' :: '_' :: rest => [] :: pathPieces rest
  | c :: rest => (pathPieces rest).modifyHead (c :: ·)

/-- The path that a variable sets, if it is one of the application's. -/
def variablePath? (app : String) (name : String) : Option (List String) :=
  let start := (app ++ "__").toList
  let name := (Text.lowercase name).toList
  if start.isPrefixOf name then
    let pieces := pathPieces (name.drop start.length)
    let isPieceChar (c : Char) : Bool := c.isAlphanum || c == '_' || c == '-' || c == ' '
    if pieces.all fun p => !p.isEmpty && p.all isPieceChar then
      some (pieces.map String.ofList)
    else none
  else none

def enterVariable (app : String) (root : KeyMap Setting) (e : String × String) :
    KeyMap Setting :=
  match variablePath? app e.1 with
  | some path => Setting.enterPath root path (.ofText e.2)
  | none => root

def document? (files : KeyMap String) (name : String) : Option (KeyMap Setting) :=
  match KeyMap.get? files name with
  | some text => Document.parse? text
  | none => some []

/-- The merged settings of all sources; nothing if a document is unreadable. -/
def settings? (app : String) (files vars : KeyMap String) (environment : String) :
    Option (KeyMap Setting) := do
  let base ← document? files (app ++ ".toml")
  let overlay ← document? files (app ++ "." ++ environment ++ ".toml")
  return vars.foldl (enterVariable app) (Setting.enterAll (Setting.enterAll [] base) overlay)

/-- The configuration that was read, if one was and it keeps the rules. -/
def accept (found : Option Config) : Except ConfigError Config :=
  match found with
  | none => .error .unreadable
  | some c => do
    c.validate
    return c

/-- The configuration of all sources, if it can be read and keeps the rules. -/
def load (app : String) (files vars : KeyMap String) (environment : String) :
    Except ConfigError Config :=
  accept (settings? app files vars environment >>= ofSettings?)

/-- A configuration built elsewhere, with the active environment, if it keeps the rules. -/
def checked (app : String) (c : Config) (vars : KeyMap String) :
    Except ConfigError (String × Config) := do
  c.validate
  return (environmentOf app vars, c)

end RecordQuery.Config
