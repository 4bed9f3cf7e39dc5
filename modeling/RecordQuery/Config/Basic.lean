import RecordQuery.Json.Layout

/-!
# Configuration

The limits on windows, the switch of the flat grammar and the database settings, with
their defaults, their JSON form and the rules that a usable configuration keeps.
-/

namespace RecordQuery

structure QueryConfig where
  /-- The page size of a query that names none. -/
  defaultPageSize : UInt32 := 10
  maxPage : UInt32 := 1000
  maxPageSize : UInt32 := 1000000
  /-- The page size that stands for all rows. -/
  unboundedPageSize : UInt32 := 1000000
  /-- Whether a flat membership in a list of one value becomes equality. -/
  singleValueInAsEq : Bool := true
  deriving DecidableEq

structure DatabaseConfig where
  url : Option String := none
  maxConnections : UInt32 := 10
  deriving DecidableEq

structure Config where
  query : QueryConfig := {}
  database : DatabaseConfig := {}
  deriving DecidableEq

inductive ConfigError
  /-- A source cannot be read as a configuration. -/
  | unreadable
  | invalidValue (field value context : String)
  | noDatabaseUrl
  deriving DecidableEq

def ConfigError.message : ConfigError → String
  | .unreadable => "Failed to load configuration"
  | .invalidValue field value context =>
    s!"Invalid value '{value}' for field '{field}': {context}"
  | .noDatabaseUrl =>
    "Database configuration error: no database.url configured and DATABASE_URL is not set"

namespace QueryConfig

def toJson (c : QueryConfig) : Json :=
  Json.ofMembers
    [("default_page_size", .word c.defaultPageSize), ("max_page", .word c.maxPage),
      ("max_page_size", .word c.maxPageSize),
      ("unbounded_page_size", .word c.unboundedPageSize),
      ("single_value_in_as_eq", .bool c.singleValueInAsEq)]

def slots : List Json.Slot :=
  [⟨"default_page_size", .defaulted⟩, ⟨"max_page", .defaulted⟩, ⟨"max_page_size", .defaulted⟩,
    ⟨"unbounded_page_size", .defaulted⟩, ⟨"single_value_in_as_eq", .defaulted⟩]

def ofJson? (j : Json) : Option QueryConfig := do
  let d : QueryConfig := {}
  match ← Json.fill? slots false j with
  | [size, page, maxSize, unbounded, single] =>
    return {
      defaultPageSize := ← Json.orDefault? Json.word? d.defaultPageSize size
      maxPage := ← Json.orDefault? Json.word? d.maxPage page
      maxPageSize := ← Json.orDefault? Json.word? d.maxPageSize maxSize
      unboundedPageSize := ← Json.orDefault? Json.word? d.unboundedPageSize unbounded
      singleValueInAsEq := ← Json.orDefault? Json.bool? d.singleValueInAsEq single }
  | _ => none

end QueryConfig

namespace DatabaseConfig

def toJson (c : DatabaseConfig) : Json :=
  Json.ofMembers
    [("url", (c.url.map Json.string).getD .null), ("max_connections", .word c.maxConnections)]

def slots : List Json.Slot := [⟨"url", .defaulted⟩, ⟨"max_connections", .defaulted⟩]

def ofJson? (j : Json) : Option DatabaseConfig := do
  let d : DatabaseConfig := {}
  match ← Json.fill? slots false j with
  | [url, connections] =>
    return {
      url := ← Json.orDefault? (Json.optional? Json.string?) d.url url
      maxConnections := ← Json.orDefault? Json.word? d.maxConnections connections }
  | _ => none

/-- The configured address, or else the one that the environment gives. -/
def resolveUrl (c : DatabaseConfig) (environment : KeyMap String) : Except ConfigError String :=
  match c.url <|> KeyMap.get? environment "DATABASE_URL" with
  | some url => .ok url
  | none => .error .noDatabaseUrl

end DatabaseConfig

namespace Config

def toJson (c : Config) : Json :=
  Json.ofMembers [("query", c.query.toJson), ("database", c.database.toJson)]

def slots : List Json.Slot := [⟨"query", .defaulted⟩, ⟨"database", .defaulted⟩]

def ofJson? (j : Json) : Option Config := do
  let d : Config := {}
  match ← Json.fill? slots false j with
  | [query, database] =>
    return {
      query := ← Json.orDefault? QueryConfig.ofJson? d.query query
      database := ← Json.orDefault? DatabaseConfig.ofJson? d.database database }
  | _ => none

/-- The first rule that the configuration breaks. -/
def validate (c : Config) : Except ConfigError Unit :=
  let exceeds := s!"exceeds query.max_page_size ({c.query.maxPageSize})"
  let least := "must be at least 1"
  if c.query.maxPage = 0 then .error (.invalidValue "query.max_page" "0" least)
  else if c.query.maxPageSize < c.query.defaultPageSize then
    .error (.invalidValue "query.default_page_size" (toString c.query.defaultPageSize) exceeds)
  else if c.query.unboundedPageSize = 0 then
    .error (.invalidValue "query.unbounded_page_size" "0" least)
  else if c.query.maxPageSize < c.query.unboundedPageSize then
    .error
      (.invalidValue "query.unbounded_page_size" (toString c.query.unboundedPageSize) exceeds)
  else if c.database.maxConnections = 0 then
    .error (.invalidValue "database.max_connections" "0" least)
  else .ok ()

end Config

end RecordQuery
