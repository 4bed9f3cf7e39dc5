import RecordQuery.Instant.Basic
import RecordQuery.Number.Numeral
import RecordQuery.Text.Blank

/-!
# Reading timestamps

Three notations are tried in turn. A stamp has a fixed width per number and ends in an
offset from universal time. A civil date and time has no offset, is read as universal
time, and is lenient: blanks may stand before each number, numbers may be short, and a
year with a sign may have any length. A date alone means its midnight.
-/

namespace RecordQuery.Instant

/-- At least `low` digits, of which at most `high` are read. -/
def readDigits? (low high : Nat) (cs : List Char) : Option (Nat × List Char) :=
  let run := (cs.take high).takeWhile Numeral.isDigit
  if run.length < low then none else some (Numeral.digitsValue run, cs.drop run.length)

def readChar? (c : Char) : List Char → Option (List Char)
  | d :: rest => if d = c then some rest else none
  | [] => none

/-- An optional point with digits, as nanoseconds; digits past the ninth do not count. -/
def readFraction? : List Char → Option (Nat × List Char)
  | '.' :: rest =>
    let run := rest.takeWhile Numeral.isDigit
    let kept := run.take 9
    let nano := Numeral.digitsValue kept * Nat.pow 10 (9 - kept.length)
    if run = [] then none else some (nano, rest.dropWhile Numeral.isDigit)
  | cs => some (0, cs)

/-- `Z`, or hours and minutes behind a sign, in seconds. -/
def readOffset? : List Char → Option (Int × List Char)
  | [] => none
  | c :: rest =>
    if c = 'Z' ∨ c = 'z' then some (0, rest)
    else if c = '+' ∨ c = '-' ∨ c = '−' then do
      let (hours, rest) ← readDigits? 2 2 rest
      let rest ← readChar? ':' rest
      let (minutes, rest) ← readDigits? 2 2 rest
      if hours < 24 ∧ minutes < 60 then
        let seconds : Int := hours * 3600 + minutes * 60
        some (if c = '+' then seconds else -seconds, rest)
      else none
    else none

/-- A date and time with its offset: `2024-09-01T10:00:00.5+02:00`. -/
def ofStamp? (cs : List Char) : Option Instant := do
  let (year, cs) ← readDigits? 4 4 cs
  let cs ← readChar? '-' cs
  let (month, cs) ← readDigits? 2 2 cs
  let cs ← readChar? '-' cs
  let (day, cs) ← readDigits? 2 2 cs
  let cs ← readDivider? cs
  let (hour, cs) ← readDigits? 2 2 cs
  let cs ← readChar? ':' cs
  let (minute, cs) ← readDigits? 2 2 cs
  let cs ← readChar? ':' cs
  let (second, cs) ← readDigits? 2 2 cs
  let (nano, cs) ← readFraction? cs
  let (offset, cs) ← readOffset? cs
  if cs ≠ [] then none
  else return (← ofCivil? year month day hour minute second nano).minusSeconds offset
where
  readDivider? : List Char → Option (List Char)
    | c :: rest => if c = 'T' ∨ c = 't' ∨ c = ' ' then some rest else none
    | [] => none

def skipBlanks (cs : List Char) : List Char := cs.dropWhile Text.isBlank

/-- Blanks and at most two digits. -/
def readShort? (cs : List Char) : Option (Nat × List Char) := readDigits? 1 2 (skipBlanks cs)

/-- At most four digits, or any number of them behind a sign. -/
def readYear? (cs : List Char) : Option (Int × List Char) :=
  match skipBlanks cs with
  | '-' :: rest => (readDigits? 1 rest.length rest).map fun (n, rest) => (-(n : Int), rest)
  | '+' :: rest => (readDigits? 1 rest.length rest).map fun (n, rest) => ((n : Int), rest)
  | cs => (readDigits? 1 4 cs).map fun (n, rest) => ((n : Int), rest)

def readDate? (cs : List Char) : Option ((Int × Nat × Nat) × List Char) := do
  let (year, cs) ← readYear? cs
  let cs ← readChar? '-' cs
  let (month, cs) ← readShort? cs
  let cs ← readChar? '-' cs
  let (day, cs) ← readShort? cs
  return ((year, month, day), cs)

/-- A date and time without offset; `divider` reads what stands between the two. -/
def ofCivilText? (divider : List Char → Option (List Char)) (cs : List Char) :
    Option Instant := do
  let ((year, month, day), cs) ← readDate? cs
  let cs ← divider cs
  let (hour, cs) ← readShort? cs
  let cs ← readChar? ':' cs
  let (minute, cs) ← readShort? cs
  let cs ← readChar? ':' cs
  let (second, cs) ← readShort? cs
  let (nano, cs) ← readFraction? cs
  if cs ≠ [] then none else ofCivil? year month day hour minute second nano

def ofDateText? (cs : List Char) : Option Instant := do
  let ((year, month, day), cs) ← readDate? cs
  if cs ≠ [] then none else ofCivil? year month day 0 0 0 0

/-- The instant that a text denotes, blanks around it aside. -/
def parse? (s : String) : Option Instant :=
  let cs := Text.trimChars s.toList
  ofStamp? cs <|> ofCivilText? (fun cs => some (skipBlanks cs)) cs <|>
    ofCivilText? (readChar? 'T') cs <|> ofDateText? cs

end RecordQuery.Instant
