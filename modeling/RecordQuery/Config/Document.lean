import RecordQuery.Config.Setting
import RecordQuery.Json.Reader

/-!
# Configuration documents

A document is read line by line: blank lines, comments behind `#`, section headers in
brackets, and assignments to keys of the current section. A key is a path of names with
points between, and a value is a text on one line, a number or a truth value. A section or
key that is given twice, and a line of any other form, makes the document unreadable.
-/

namespace RecordQuery.Document

def isSpace (c : Char) : Bool := c == ' ' || c == '\t'

def skipSpaces (cs : List Char) : List Char := cs.dropWhile isSpace

/-- The pieces between line ends; a carriage return before a line end belongs to it. -/
def lines : List Char → List (List Char)
  | [] => [[]]
  | c :: rest =>
    match c, lines rest with
    | '\n', found => [] :: found
    | '\r', [] :: found => if rest.isEmpty then [['\r']] else [] :: found
    | c, line :: found => (c :: line) :: found
    | c, [] => [[c]]

/-- Whether only spaces and a comment are left of a line. -/
def isLineEnd (cs : List Char) : Bool :=
  match skipSpaces cs with
  | [] => true
  | c :: _ => c == '#'

def isNameChar (c : Char) : Bool := c.isAlphanum || c == '_' || c == '-'

-- ---------------------------------------------------------------------------
-- Texts
-- ---------------------------------------------------------------------------

/-- A number of so many hexadecimal digits. -/
def readHex? : Nat → Nat → List Char → Option (Nat × List Char)
  | 0, value, cs => some (value, cs)
  | n + 1, value, c :: rest =>
    match Json.hexValue? c with
    | some d => readHex? n (16 * value + d) rest
    | none => none
  | _ + 1, _, [] => none

def scalarChar? (n : Nat) : Option Char :=
  if h : n.isValidChar then some (Char.ofNatAux n h) else none

def escaped? (c : Char) : Option Char :=
  match c with
  | '"' => some '"'
  | '\\' => some '\\'
  | 'b' => some (Char.ofNat 8)
  | 't' => some '\t'
  | 'n' => some '\n'
  | 'f' => some (Char.ofNat 12)
  | 'r' => some '\r'
  | _ => none

def isTextChar (c : Char) : Bool := c == '\t' || (32 ≤ c.toNat && c.toNat ≠ 127)

/-- The characters up to the closing quote, with escapes. -/
def readQuoted? : Nat → List Char → Option (List Char × List Char)
  | 0, _ => none
  | _, [] => none
  | _ + 1, '"' :: rest => some ([], rest)
  | fuel + 1, '\\' :: e :: rest => do
    let (c, rest) ←
      if e = 'u' ∨ e = 'U' then do
        let (n, rest) ← readHex? (if e = 'u' then 4 else 8) 0 rest
        pure (← scalarChar? n, rest)
      else do pure (← escaped? e, rest)
    let (cs, rest) ← readQuoted? fuel rest
    return (c :: cs, rest)
  | fuel + 1, c :: rest =>
    if isTextChar c && c != '\\' then do
      let (cs, rest) ← readQuoted? fuel rest
      return (c :: cs, rest)
    else none

/-- The characters up to the closing apostrophe, as they are. -/
def readLiteral? : List Char → Option (List Char × List Char)
  | [] => none
  | '\'' :: rest => some ([], rest)
  | c :: rest =>
    if isTextChar c then do
      let (cs, rest) ← readLiteral? rest
      return (c :: cs, rest)
    else none

-- ---------------------------------------------------------------------------
-- Keys
-- ---------------------------------------------------------------------------

def readName? : List Char → Option (String × List Char)
  | '"' :: rest => do
    let (cs, rest) ← readQuoted? (rest.length + 1) rest
    return (String.ofList cs, rest)
  | '\'' :: rest => do
    let (cs, rest) ← readLiteral? rest
    return (String.ofList cs, rest)
  | cs =>
    let name := cs.takeWhile isNameChar
    if name.isEmpty then none else some (String.ofList name, cs.dropWhile isNameChar)

/-- One or more names with points between. -/
def readPath? : Nat → List Char → Option (List String × List Char)
  | 0, _ => none
  | fuel + 1, cs => do
    let (name, rest) ← readName? (skipSpaces cs)
    match skipSpaces rest with
    | '.' :: rest => do
      let (path, rest) ← readPath? fuel rest
      return (name :: path, rest)
    | rest => return ([name], rest)

-- ---------------------------------------------------------------------------
-- Values
-- ---------------------------------------------------------------------------

/-- The digits of a numeral; an underscore may stand between two of them. -/
def digits? (isDigit : Char → Bool) : List Char → Option (List Char)
  | [] => none
  | [c] => if isDigit c then some [c] else none
  | c :: '_' :: rest => if isDigit c then (digits? isDigit rest).map (c :: ·) else none
  | c :: rest => if isDigit c then (digits? isDigit rest).map (c :: ·) else none

def isDigitIn (base : Nat) (c : Char) : Bool :=
  match Json.hexValue? c with
  | some d => d < base
  | none => false

def based? (base : Nat) (cs : List Char) : Option Int :=
  (digits? (isDigitIn base) cs).map fun ds =>
    ((ds.foldl (fun n c => base * n + (Json.hexValue? c).getD 0) 0 : Nat) : Int)

/-- No zero stands before another digit. -/
def isPlain : List Char → Bool
  | ['0'] => true
  | c :: _ => c != '0'
  | [] => false

def decimalInteger? (cs : List Char) : Option Int :=
  let (negative, body) := Numeral.sign cs
  match digits? Numeral.isDigit body with
  | some ds =>
    if isPlain ds then
      let n : Int := Numeral.digitsValue ds
      some (if negative then -n else n)
    else none
  | none => none

def integer? : List Char → Option Int
  | '0' :: 'x' :: rest => based? 16 rest
  | '0' :: 'o' :: rest => based? 8 rest
  | '0' :: 'b' :: rest => based? 2 rest
  | cs => decimalInteger? cs

/-- A number with a fraction, an exponent, or both. -/
def real? (cs : List Char) : Option Binary64.Extended :=
  let (negative, body) := Numeral.sign cs
  if body = ['i', 'n', 'f'] then some (.infinite negative)
  else if body = ['n', 'a', 'n'] then some .nan
  else
    let isPart (c : Char) : Bool := Numeral.isDigit c || c == '_'
    let whole := body.takeWhile isPart
    let rest := body.dropWhile isPart
    let (part, rest) :=
      match rest with
      | '.' :: rest => (some (rest.takeWhile isPart), rest.dropWhile isPart)
      | rest => (none, rest)
    let (power, rest) :=
      match rest with
      | c :: rest =>
        if c = 'e' ∨ c = 'E' then (some (Numeral.sign rest), []) else (none, c :: rest)
      | [] => (none, [])
    if !rest.isEmpty || (part.isNone && power.isNone) then none
    else do
      let whole ← digits? Numeral.isDigit whole
      let part ← match part with
        | some ds => digits? Numeral.isDigit ds
        | none => some []
      let exponent : Int ← match power with
        | some (down, ds) =>
          (digits? Numeral.isDigit ds).map fun ds =>
            let n : Int := Numeral.digitsValue ds
            if down then -n else n
        | none => some 0
      if isPlain whole then
        return .ofDecimal negative (Numeral.digitsValue (whole ++ part)) (exponent - part.length)
      else none

/-- A scalar and the rest of its line. -/
def readValue? (cs : List Char) : Option (Setting × List Char) :=
  match cs with
  | '"' :: rest => do
    let (s, rest) ← readQuoted? (rest.length + 1) rest
    return (.text (String.ofList s), rest)
  | '\'' :: rest => do
    let (s, rest) ← readLiteral? rest
    return (.text (String.ofList s), rest)
  | cs =>
    let isWordChar (c : Char) : Bool := isNameChar c || c == '+' || c == '.'
    let word := cs.takeWhile isWordChar
    let rest := cs.dropWhile isWordChar
    if word = ['t', 'r', 'u', 'e'] then some (.flag true, rest)
    else if word = ['f', 'a', 'l', 's', 'e'] then some (.flag false, rest)
    else
      match integer? word with
      | some i => if Numeral.isInt64 i then some (.integer i, rest) else none
      | none => (real? word).map fun x => (.real x, rest)

-- ---------------------------------------------------------------------------
-- Documents
-- ---------------------------------------------------------------------------

/-- Whether a table can stand at the path: no scalar is in its way. -/
def isOpen : KeyMap Setting → List String → Bool
  | _, [] => true
  | root, key :: path =>
    match KeyMap.get? root key with
    | none => true
    | some (.table t) => isOpen t path
    | some _ => false

def hasPath : KeyMap Setting → List String → Bool
  | _, [] => true
  | root, key :: path =>
    match KeyMap.get? root key with
    | none => false
    | some (.table t) => hasPath t path
    | some _ => path.isEmpty

/-- What is known after some lines. -/
structure State where
  root : KeyMap Setting
  /-- The path of the current section. -/
  current : List String
  seen : List (List String)

def takeHeader? (st : State) (cs : List Char) : Option State := do
  let (path, rest) ← readPath? (cs.length + 1) cs
  match rest with
  | ']' :: rest =>
    if isLineEnd rest && isOpen st.root path && !st.seen.contains path then
      return ⟨Setting.enterPath st.root path (.table []), path, path :: st.seen⟩
    else none
  | _ => none

def takeAssignment? (st : State) (cs : List Char) : Option State := do
  let (path, rest) ← readPath? (cs.length + 1) cs
  match rest with
  | '=' :: rest => do
    let (value, rest) ← readValue? (skipSpaces rest)
    let path := st.current ++ path
    if isLineEnd rest && isOpen st.root path.dropLast && !hasPath st.root path then
      return { st with root := Setting.enterPath st.root path value }
    else none
  | _ => none

def takeLine? (st : State) (line : List Char) : Option State :=
  if isLineEnd line then some st
  else
    match skipSpaces line with
    | '[' :: rest => takeHeader? st rest
    | cs => takeAssignment? st cs

/-- The settings of a document; nothing if it is unreadable. Lists, inline tables, texts over
several lines and dates are not known here: a document with one of them is unreadable, though
another reader may accept it. -/
def parse? (s : String) : Option (KeyMap Setting) :=
  ((lines s.toList).foldlM takeLine? ⟨[], [], []⟩).map State.root

end RecordQuery.Document
