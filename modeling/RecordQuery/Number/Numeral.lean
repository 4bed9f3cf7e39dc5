import RecordQuery.Number.Binary64

/-!
# Reading numerals

Integers are ASCII digits behind at most one sign. Decimals may have a point with
digits on either side and an exponent; the words for infinity and NaN count as
numerals in any letter case. Nothing may surround a numeral: callers trim.
-/

namespace RecordQuery.Numeral

def isDigit (c : Char) : Bool := '0' ≤ c && c ≤ '9'

def digitValue (c : Char) : Nat := c.toNat - 48

def digitsValue (cs : List Char) : Nat := cs.foldl (fun n c => 10 * n + digitValue c) 0

/-- A nonempty run of digits and nothing else. -/
def digits? (cs : List Char) : Option Nat :=
  if cs ≠ [] ∧ cs.all isDigit then some (digitsValue cs) else none

/-- Whether a minus sign leads, and what follows the sign. -/
def sign : List Char → Bool × List Char
  | '-' :: rest => (true, rest)
  | '+' :: rest => (false, rest)
  | cs => (false, cs)

/-- A leading plus is allowed and a minus is not. -/
def nat? (cs : List Char) : Option Nat :=
  match cs with
  | '+' :: rest => digits? rest
  | cs => digits? cs

def int? (cs : List Char) : Option Int :=
  let (negative, rest) := sign cs
  (digits? rest).map fun n => if negative then -(n : Int) else n

/-- Whether 64 bits with sign can hold the integer. -/
def isInt64 (i : Int) : Bool := -0x8000000000000000 ≤ i && i < 0x8000000000000000

/-- An integer of 64 bits with sign. -/
def int64? (cs : List Char) : Option Int := (int? cs).filter isInt64

/-- A number of 32 bits without sign. -/
def word? (cs : List Char) : Option UInt32 :=
  match nat? cs with
  | some n => if n < UInt32.size then some (UInt32.ofNat n) else none
  | none => none

/-- The exponent part: nothing, or `e` with a signed run of digits. -/
def exponent? : List Char → Option Int
  | [] => some 0
  | c :: rest => if c = 'e' ∨ c = 'E' then int? rest else none

/-- Digits, an optional point with digits, and an optional exponent; one digit at
least stands before the exponent. -/
def decimal? (negative : Bool) (cs : List Char) : Option Binary64.Extended :=
  let whole := cs.takeWhile isDigit
  let rest := cs.dropWhile isDigit
  let (part, rest) :=
    match rest with
    | '.' :: rest => (rest.takeWhile isDigit, rest.dropWhile isDigit)
    | rest => ([], rest)
  if whole = [] ∧ part = [] then none
  else
    (exponent? rest).map fun e =>
      Binary64.Extended.ofDecimal negative (digitsValue (whole ++ part)) (e - part.length)

def real? (s : String) : Option Binary64.Extended :=
  let (negative, rest) := sign s.toList
  let word := String.ofList (rest.map Char.toLower)
  if word = "nan" then some .nan
  else if word = "inf" ∨ word = "infinity" then some (.infinite negative)
  else decimal? negative rest

end RecordQuery.Numeral
