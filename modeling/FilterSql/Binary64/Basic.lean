import FilterSql.Text.Numeral

namespace FilterSql

structure Binary64 where
  bits : UInt64
  deriving DecidableEq, Repr

namespace Binary64

def infinityBits : Nat := 0x7ff <<< 52

def isNegative (x : Binary64) : Bool := 1 <<< 63 ≤ x.bits.toNat

def magnitude (x : Binary64) : Nat := x.bits.toNat % (1 <<< 63)

def isFinite (x : Binary64) : Bool := x.magnitude < infinityBits

def ofMagnitude (negative : Bool) (magnitude : Nat) : Binary64 :=
  ⟨UInt64.ofNat (if negative then magnitude + (1 <<< 63) else magnitude)⟩

def roundQuotient (num den : Nat) : Nat :=
  let q := num / den
  let twice := 2 * (num % den)
  if twice < den then q
  else if den < twice then q + 1
  else q + q % 2

def binaryOrder (num den : Nat) : Int :=
  let guess : Int := (num.log2 : Int) - den.log2
  let fits : Bool :=
    if 0 ≤ guess then den <<< guess.toNat ≤ num else den ≤ num <<< (-guess).toNat
  if fits then guess else guess - 1

/-- The magnitude nearest to `num / den`, a half to the even one. A unit in the last place is
`2 ^ (place - 1074)`, and the carry of a rounded significand goes into the exponent by addition. -/
def nearest (num den : Nat) : Nat :=
  if num = 0 then 0
  else
    let place := (binaryOrder num den - 52 + 1074).toNat
    let significand :=
      if 1074 ≤ place then roundQuotient num (den <<< (place - 1074))
      else roundQuotient (num <<< (1074 - place)) den
    min infinityBits ((place <<< 52) + significand)

/-- Powers of ten beyond which every magnitude is zero or infinite. -/
def decimalRange : Nat := 400

def ofDecimal (d : Text.Decimal) : Binary64 :=
  ofMagnitude d.negative <|
    let order : Int := (Nat.toDigits 10 d.digits).length + d.exponent
    if d.digits = 0 || order < -decimalRange then 0
    else if decimalRange < order then infinityBits
    else if 0 ≤ d.exponent then nearest (d.digits * Nat.pow 10 d.exponent.toNat) 1
    else nearest d.digits (Nat.pow 10 (-d.exponent).toNat)

def read? (cs : List Char) : Option Binary64 :=
  ((Text.readDecimal cs).map ofDecimal).filter isFinite

end Binary64

end FilterSql
