import FilterSql.Binary64.Basic

namespace FilterSql.Binary64

/-- A number and the ends of the interval of reals that round to it, over one denominator. The ends
round to it too when `closed`. -/
structure Interval where
  low : Nat
  mid : Nat
  high : Nat
  den : Nat
  closed : Bool

def interval (magnitude : Nat) : Interval :=
  let biased := magnitude >>> 52
  let fraction := magnitude % (1 <<< 52)
  let significand := if biased = 0 then fraction else (1 <<< 52) + fraction
  let place := max biased 1
  let below := if fraction = 0 && 1 < biased then 1 else 2
  let scale := 1 <<< (place - 1077)
  { low := (4 * significand - below) * scale
    mid := 4 * significand * scale
    high := (4 * significand + 2) * scale
    den := 1 <<< (1077 - place)
    closed := significand % 2 = 0 }

def decimalOrder (num den : Nat) : Int :=
  if den ≤ num then (Nat.toDigits 10 (num / den)).length - 1
  else
    let guess := (Nat.toDigits 10 den).length - (Nat.toDigits 10 num).length
    if den ≤ num * Nat.pow 10 guess then -guess else -(guess + 1 : Nat)

/-- The multiple of `10 ^ exponent` next to the number that lies in its interval; of two the nearer,
and the upper one if they are equally near. -/
def Interval.onGrid (i : Interval) (exponent : Int) : Option Nat :=
  let unit := i.den * Nat.pow 10 exponent.toNat
  let scale := Nat.pow 10 (-exponent).toNat
  let inside (n : Nat) : Bool :=
    if i.closed then i.low * scale ≤ n * unit && n * unit ≤ i.high * scale
    else i.low * scale < n * unit && n * unit < i.high * scale
  let n := i.mid * scale / unit
  let up := (n + 1) * unit - i.mid * scale ≤ i.mid * scale - n * unit
  match inside n, inside (n + 1) with
  | true, true => some (if up then n + 1 else n)
  | true, false => some n
  | false, true => some (n + 1)
  | false, false => none

def Interval.search (i : Interval) : (steps : Nat) → (exponent : Int) → Nat × Int
  | 0, exponent => (0, exponent)
  | steps + 1, exponent =>
    match i.onGrid exponent with
    | some n => (n, exponent)
    | none => i.search steps (exponent - 1)

def stripZeros : (steps : Nat) → Nat → Int → Nat × Int
  | 0, n, exponent => (n, exponent)
  | steps + 1, n, exponent =>
    if n ≠ 0 ∧ n % 10 = 0 then stripZeros steps (n / 10) (exponent + 1) else (n, exponent)

def maxDigits : Nat := 17

def shortest (x : Binary64) : Text.Decimal :=
  if x.magnitude = 0 then ⟨x.isNegative, 0, 0⟩
  else
    let i := interval x.magnitude
    let (n, exponent) := i.search maxDigits (decimalOrder i.mid i.den)
    let (digits, exponent) := stripZeros (maxDigits + 1) n exponent
    ⟨x.isNegative, digits, exponent⟩

end FilterSql.Binary64
