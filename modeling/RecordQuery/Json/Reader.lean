import RecordQuery.Json.Basic
import RecordQuery.Number.Numeral

/-!
# Reading JSON text

The strict grammar: blanks are space, tab and line ends; strings hold no raw control
character, and escaped surrogates come in pairs. An integer literal that fits 64 bits
is an integer, except that `-0` is the negative float zero; every other literal is a
float. Of members with one name the last counts.
-/

namespace RecordQuery.Json

def skipBlanks (cs : List Char) : List Char :=
  cs.dropWhile fun c => c == ' ' || c == '\n' || c == '\r' || c == '\t'

def hexValue? (c : Char) : Option Nat :=
  if '0' ≤ c ∧ c ≤ '9' then some (c.toNat - 48)
  else if 'a' ≤ c ∧ c ≤ 'f' then some (c.toNat - 87)
  else if 'A' ≤ c ∧ c ≤ 'F' then some (c.toNat - 55)
  else none

/-- Four hexadecimal digits. -/
def readUnit? : List Char → Option (Nat × List Char)
  | a :: b :: c :: d :: rest => do
    let value := ((← hexValue? a) * 16 + (← hexValue? b)) * 16 + (← hexValue? c)
    return (value * 16 + (← hexValue? d), rest)
  | _ => none

def simpleEscape? (c : Char) : Option Char :=
  match c with
  | '"' => some '"'
  | '\\' => some '\\'
  | '/' => some '/'
  | 'b' => some (Char.ofNat 8)
  | 'f' => some (Char.ofNat 12)
  | 'n' => some '\n'
  | 'r' => some '\r'
  | 't' => some '\t'
  | _ => none

/-- The character of an escape, what follows `\u` given. -/
def readEscapedUnits? (cs : List Char) : Option (Char × List Char) := do
  let (high, rest) ← readUnit? cs
  if 0xDC00 ≤ high ∧ high < 0xE000 then none
  else if 0xD800 ≤ high ∧ high < 0xDC00 then
    match rest with
    | '\\' :: 'u' :: rest => do
      let (low, rest) ← readUnit? rest
      if 0xDC00 ≤ low ∧ low < 0xE000 then
        some (Char.ofNat (0x10000 + (high - 0xD800) * 1024 + (low - 0xDC00)), rest)
      else none
    | _ => none
  else some (Char.ofNat high, rest)

/-- The characters up to the closing quote, the opening one already read. -/
def readQuoted? : Nat → List Char → Option (List Char × List Char)
  | 0, _ => none
  | _, [] => none
  | _ + 1, '"' :: rest => some ([], rest)
  | fuel + 1, '\\' :: 'u' :: rest => do
    let (c, rest) ← readEscapedUnits? rest
    let (cs, rest) ← readQuoted? fuel rest
    return (c :: cs, rest)
  | fuel + 1, '\\' :: e :: rest => do
    let c ← simpleEscape? e
    let (cs, rest) ← readQuoted? fuel rest
    return (c :: cs, rest)
  | _, ['\\'] => none
  | fuel + 1, c :: rest =>
    if c.toNat < 32 then none
    else do
      let (cs, rest) ← readQuoted? fuel rest
      return (c :: cs, rest)

def isNumberChar (c : Char) : Bool :=
  Numeral.isDigit c || c == '-' || c == '+' || c == '.' || c == 'e' || c == 'E'

/-- Whether the digits before the point or exponent are `0` or start with another digit. -/
def wholePartOk : List Char → Bool
  | ['0'] => true
  | c :: _ => c != '0'
  | [] => false

def Number.ofLiteral? (literal : List Char) : Option Number :=
  let (negative, body) :=
    match literal with
    | '-' :: rest => (true, rest)
    | cs => (false, cs)
  let whole := body.takeWhile Numeral.isDigit
  let rest := body.dropWhile Numeral.isDigit
  if !wholePartOk whole then none
  else
    match rest with
    | [] =>
      let n := Numeral.digitsValue whole
      if negative && n == 0 then some (.float (Binary64.signedZero true))
      else Number.ofInt? (if negative then -(n : Int) else n)
    | '.' :: part =>
      if (part.takeWhile Numeral.isDigit).isEmpty then none else ofDecimal? negative body
    | _ => ofDecimal? negative body
where
  ofDecimal? (negative : Bool) (body : List Char) : Option Number :=
    match Numeral.decimal? negative body with
    | some (.finite x) => some (.float x)
    | _ => none

/-- What follows a fixed word. -/
def afterWord? (word cs : List Char) : Option (List Char) :=
  if word.isPrefixOf cs then some (cs.drop word.length) else none

mutual

def readValue? : Nat → List Char → Option (Json × List Char)
  | 0, _ => none
  | fuel + 1, cs =>
    match skipBlanks cs with
    | '"' :: rest => do
      let (s, rest) ← readQuoted? (rest.length + 1) rest
      return (.string (String.ofList s), rest)
    | '[' :: rest =>
      match skipBlanks rest with
      | ']' :: rest => some (.array [], rest)
      | _ => do
        let (items, rest) ← readItems? fuel rest
        return (.array items, rest)
    | '\x7b' :: rest =>
      match skipBlanks rest with
      | '\x7d' :: rest => some (.object [], rest)
      | _ => do
        let (members, rest) ← readMembers? fuel rest
        return (ofMembers members, rest)
    | 'n' :: rest => (afterWord? ['u', 'l', 'l'] rest).map fun rest => (.null, rest)
    | 't' :: rest => (afterWord? ['r', 'u', 'e'] rest).map fun rest => (.bool true, rest)
    | 'f' :: rest => (afterWord? ['a', 'l', 's', 'e'] rest).map fun rest => (.bool false, rest)
    | cs => do
      let n ← Number.ofLiteral? (cs.takeWhile isNumberChar)
      return (.number n, cs.dropWhile isNumberChar)

/-- One or more items, and the closing bracket. -/
def readItems? : Nat → List Char → Option (List Json × List Char)
  | 0, _ => none
  | fuel + 1, cs => do
    let (x, rest) ← readValue? fuel cs
    match skipBlanks rest with
    | ',' :: rest => do
      let (xs, rest) ← readItems? fuel rest
      return (x :: xs, rest)
    | ']' :: rest => return ([x], rest)
    | _ => none

/-- One or more members, and the closing brace. -/
def readMembers? : Nat → List Char → Option (List (String × Json) × List Char)
  | 0, _ => none
  | fuel + 1, cs =>
    match skipBlanks cs with
    | '"' :: rest => do
      let (k, rest) ← readQuoted? (rest.length + 1) rest
      match skipBlanks rest with
      | ':' :: rest => do
        let (x, rest) ← readValue? fuel rest
        match skipBlanks rest with
        | ',' :: rest => do
          let (ms, rest) ← readMembers? fuel rest
          return ((String.ofList k, x) :: ms, rest)
        | '\x7d' :: rest => return ([(String.ofList k, x)], rest)
        | _ => none
      | _ => none
    | _ => none

end

/-- Every step below reads a character, so twice the length bounds the depth. -/
def parse? (s : String) : Option Json := do
  let cs := s.toList
  let (x, rest) ← readValue? (2 * cs.length + 1) cs
  if (skipBlanks rest).isEmpty then some x else none

end RecordQuery.Json
