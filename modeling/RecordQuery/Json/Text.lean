import RecordQuery.Json.Basic
import RecordQuery.Number.Shortest

/-!
# Compact JSON text

No blanks between tokens. A float is written with the fewest digits that read back, in
positional notation from `0.00001` up to below `1e16` and always with a point, and with
an exponent otherwise.
-/

namespace RecordQuery.Json

def hexDigit (n : Nat) : Char := if n < 10 then Char.ofNat (48 + n) else Char.ofNat (87 + n)

def escapeChar (c : Char) : List Char :=
  if c = '"' then ['\\', '"']
  else if c = '\\' then ['\\', '\\']
  else if c = '\n' then ['\\', 'n']
  else if c = '\r' then ['\\', 'r']
  else if c = '\t' then ['\\', 't']
  else if c.toNat = 8 then ['\\', 'b']
  else if c.toNat = 12 then ['\\', 'f']
  else if c.toNat < 32 then
    ['\\', 'u', '0', '0', hexDigit (c.toNat / 16), hexDigit (c.toNat % 16)]
  else [c]

/-- The text between quotes, with quotes, backslashes and control characters escaped. -/
def quoted (s : String) : String :=
  String.ofList ('"' :: s.toList.flatMap escapeChar ++ ['"'])

/-- Positional notation is used from `10 ^ -5` up to below `10 ^ 16`. -/
def floatText (x : Binary64) : String :=
  let (shown, place) := (Binary64.shortest x.rank).scientific
  let magnitude :=
    if -5 ≤ place ∧ place < 16 then
      let text := Decimal.positional shown place
      if text.contains '.' then text else text ++ ['.', '0']
    else Decimal.exponential shown place
  String.ofList (if x.negative then '-' :: magnitude else magnitude)

def Number.text : Number → String
  | .int i => toString i.val
  | .float x => floatText x

def boolText (b : Bool) : String := if b then "true" else "false"

mutual

def text : Json → String
  | .null => "null"
  | .bool b => boolText b
  | .number n => n.text
  | .string s => quoted s
  | .array items => "[" ++ itemsText items ++ "]"
  | .object members => "\x7b" ++ membersText members ++ "\x7d"

def itemsText : List Json → String
  | [] => ""
  | [x] => text x
  | x :: rest => text x ++ "," ++ itemsText rest

def membersText : List (String × Json) → String
  | [] => ""
  | [(k, x)] => quoted k ++ ":" ++ text x
  | (k, x) :: rest => quoted k ++ ":" ++ text x ++ "," ++ membersText rest

end

end RecordQuery.Json
