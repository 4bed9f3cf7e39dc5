import RecordQuery.Config.Basic
import RecordQuery.Number.Numeral
import RecordQuery.Number.Shortest
import RecordQuery.Text.Lowercase

/-!
# Settings

What configuration sources hold: scalars and tables of settings. Tables are merged key
by key, later sources over earlier ones. A scalar is read leniently as the kind that is
asked for: words and numbers count as truth values, and texts as numbers.
-/

namespace RecordQuery

inductive Setting
  | flag (b : Bool)
  | integer (i : Int)
  | real (x : Binary64.Extended)
  | text (s : String)
  | table (entries : List (String × Setting))

namespace Setting

-- ---------------------------------------------------------------------------
-- Merging
-- ---------------------------------------------------------------------------

/-- The entries of a table; a scalar has none. -/
def entries : Option Setting → KeyMap Setting
  | some (.table entries) => entries
  | _ => []

mutual

/-- Enters a setting under a key: a scalar replaces what was there, a table is merged into
it. -/
def enter (root : KeyMap Setting) (key : String) : Setting → KeyMap Setting
  | .table [] => if KeyMap.has root key then root else KeyMap.put root key (.table [])
  | .table (e :: rest) =>
    KeyMap.put root key (.table (enterAll (entries (KeyMap.get? root key)) (e :: rest)))
  | s => KeyMap.put root key s

def enterAll (root : KeyMap Setting) : List (String × Setting) → KeyMap Setting
  | [] => root
  | (key, s) :: rest => enterAll (enter root key s) rest

end

/-- Enters a setting below nested tables, which replace scalars in their way. -/
def enterPath (root : KeyMap Setting) : List String → Setting → KeyMap Setting
  | [], _ => root
  | [key], s => enter root key s
  | key :: path, s =>
    KeyMap.put root key (.table (enterPath (entries (KeyMap.get? root key)) path s))

/-- A text from outside as the scalar that it looks like. -/
def ofText (s : String) : Setting :=
  let word := Text.lowercase s
  if word = "true" then .flag true
  else if word = "false" then .flag false
  else
    match Numeral.int64? s.toList, Numeral.real? s with
    | some i, _ => .integer i
    | none, some x => .real x
    | none, none => .text s

-- ---------------------------------------------------------------------------
-- Reading scalars
-- ---------------------------------------------------------------------------

/-- The nearest whole number of 64 bits without sign, a half rounded up. -/
def wholePart : Binary64.Extended → Nat
  | .nan => 0
  | .infinite negative => if negative then 0 else UInt64.size - 1
  | .finite x =>
    if x.negative then 0
    else min ((2 * Binary64.units x.rank + Binary64.one) / (2 * Binary64.one)) (UInt64.size - 1)

/-- A count of 64 bits without sign. -/
def count? : Setting → Option Nat
  | .flag b => some (if b then 1 else 0)
  | .integer i => if 0 ≤ i then some i.toNat else none
  | .real x => some (wholePart x)
  | .text s =>
    let word := Text.lowercase s
    if ["true", "on", "yes"].contains word then some 1
    else if ["false", "off", "no"].contains word then some 0
    else
      match Numeral.nat? s.toList with
      | some n => if n < UInt64.size then some n else none
      | none => none
  | .table _ => none

/-- Only the low 32 bits of a count are kept. -/
def word? (s : Setting) : Option UInt32 := s.count?.map UInt32.ofNat

def bool? : Setting → Option Bool
  | .flag b => some b
  | .integer i => some (i != 0)
  | .real x => some (x.key? != some 0)
  | .text s =>
    let word := Text.lowercase s
    if ["1", "true", "on", "yes"].contains word then some true
    else if ["0", "false", "off", "no"].contains word then some false
    else none
  | .table _ => none

/-- A number in positional notation, without a point if it is whole. -/
def realText : Binary64.Extended → String
  | .nan => "NaN"
  | .infinite negative => if negative then "-inf" else "inf"
  | .finite x =>
    let (shown, place) := (Binary64.shortest x.rank).scientific
    let magnitude := Decimal.positional shown place
    String.ofList (if x.negative then '-' :: magnitude else magnitude)

def string? : Setting → Option String
  | .flag b => some (if b then "true" else "false")
  | .integer i => some (toString i)
  | .real x => some (realText x)
  | .text s => some s
  | .table _ => none

end Setting

-- ---------------------------------------------------------------------------
-- Reading a configuration
-- ---------------------------------------------------------------------------

/-- The value of a key, or the default where there is none. -/
def settingOr? (table : KeyMap Setting) (key : String) (read : Setting → Option α)
    (default : α) : Option α :=
  match KeyMap.get? table key with
  | none => some default
  | some s => read s

def QueryConfig.ofSetting? : Setting → Option QueryConfig
  | .table t => do
    let d : QueryConfig := {}
    return {
      defaultPageSize := ← settingOr? t "default_page_size" Setting.word? d.defaultPageSize
      maxPage := ← settingOr? t "max_page" Setting.word? d.maxPage
      maxPageSize := ← settingOr? t "max_page_size" Setting.word? d.maxPageSize
      unboundedPageSize := ← settingOr? t "unbounded_page_size" Setting.word? d.unboundedPageSize
      singleValueInAsEq :=
        ← settingOr? t "single_value_in_as_eq" Setting.bool? d.singleValueInAsEq }
  | _ => none

def DatabaseConfig.ofSetting? : Setting → Option DatabaseConfig
  | .table t => do
    let d : DatabaseConfig := {}
    return {
      url := ← settingOr? t "url" (fun s => s.string?.map some) d.url
      maxConnections := ← settingOr? t "max_connections" Setting.word? d.maxConnections }
  | _ => none

def Config.ofSettings? (t : KeyMap Setting) : Option Config := do
  let d : Config := {}
  return {
    query := ← settingOr? t "query" QueryConfig.ofSetting? d.query
    database := ← settingOr? t "database" DatabaseConfig.ofSetting? d.database }

end RecordQuery
