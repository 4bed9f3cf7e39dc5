import RecordQuery.Number.Binary64

/-!
# The shortest decimal that reads back

A decimal reads back as a number when it lies between the halfway points to the
neighbouring numbers; a halfway point itself goes to the number of even rank.
`Binary64.shortest` tries the decimal grids from coarse to fine. On a grid it is
enough to test the two points next to the number, and the first grid with a hit
wins; of two hits the nearer one, of two equally near the even one.
-/

namespace RecordQuery

/-- The decimal `digits * 10 ^ exponent`. -/
structure Decimal where
  digits : Nat
  exponent : Int
  deriving DecidableEq, Repr

namespace Binary64

/-- The decimals next to the magnitude of this rank on the grid of step
`10 ^ exponent` that read back as it, the nearest one first choice. -/
def onGrid? (rank : Nat) (exponent : Int) : Option Decimal :=
  let up := Nat.pow 10 exponent.toNat
  let down := Nat.pow 10 (-exponent).toNat
  let value := units rank * down
  let low := (units (rank - 1) + units rank) * down
  let high := (units rank + units (rank + 1)) * down
  let step := up * one
  let reads (k : Nat) : Bool :=
    if rank % 2 = 0 then decide (low ≤ 2 * k * step ∧ 2 * k * step ≤ high)
    else decide (low < 2 * k * step ∧ 2 * k * step < high)
  let k := value / step
  let before := value - k * step
  let after := (k + 1) * step - value
  if reads k && (!reads (k + 1) || before < after || (before = after && k % 2 = 0)) then
    some ⟨k, exponent⟩
  else if reads (k + 1) then some ⟨k + 1, exponent⟩
  else none

def firstOnGrid (rank : Nat) : Nat → Int → Decimal
  | 0, exponent => ⟨0, exponent⟩
  | fuel + 1, exponent =>
    match onGrid? rank exponent with
    | some d => d
    | none => firstOnGrid rank fuel (exponent - 1)

/-- The coarsest grid tried has a step above the magnitude, since `log10 2` is less
than 0.30103. Seventeen digits always suffice. -/
def shortest (rank : Nat) : Decimal :=
  if rank = 0 then ⟨0, 0⟩
  else firstOnGrid rank 22 (((units rank).log2 - 1074 : Int) * 30103 / 100000 + 2)

end Binary64

namespace Decimal

/-- The significant digits without closing zeros, and the place of the first one. -/
def scientific (d : Decimal) : List Char × Int :=
  let all := Nat.toDigits 10 d.digits
  let place := d.exponent + (all.length - 1)
  match (all.reverse.dropWhile (· == '0')).reverse with
  | [] => (['0'], 0)
  | shown => (shown, place)

/-- Digits with a decimal point in its place; a whole number has no point. -/
def positional (shown : List Char) (place : Int) : List Char :=
  match place with
  | .negSucc n => '0' :: '.' :: (List.replicate n '0' ++ shown)
  | .ofNat p =>
    if shown.length ≤ p + 1 then shown ++ List.replicate (p + 1 - shown.length) '0'
    else shown.take (p + 1) ++ '.' :: shown.drop (p + 1)

/-- One digit before the point and the place as an exponent without padding. -/
def exponential (shown : List Char) (place : Int) : List Char :=
  let mantissa :=
    match shown with
    | first :: (second :: rest) => first :: '.' :: second :: rest
    | _ => shown
  let sign := if place < 0 then '-' else '+'
  mantissa ++ 'e' :: sign :: Nat.toDigits 10 place.natAbs

end Decimal

end RecordQuery
