import FilterSql.Binary64.Shortest

namespace FilterSql

namespace Text.Decimal

def sign (d : Decimal) : List Char := if d.negative then ['-'] else []

def digitList (d : Decimal) : List Char := Nat.toDigits 10 d.digits

def point (d : Decimal) : Int := d.digitList.length + d.exponent

def positional (d : Decimal) : List Char × List Char :=
  let ds := d.digitList
  if 0 ≤ d.exponent then (ds ++ List.replicate d.exponent.toNat '0', [])
  else if d.point ≤ 0 then (['0'], List.replicate (-d.point).toNat '0' ++ ds)
  else ds.splitAt d.point.toNat

def plain (d : Decimal) : String :=
  let (whole, fraction) := d.positional
  String.ofList (d.sign ++ whole ++ if fraction.isEmpty then [] else '.' :: fraction)

def scientific (d : Decimal) : String :=
  let exponent := d.point - 1
  let mantissa :=
    match d.digitList with
    | [] => []
    | [c] => [c]
    | c :: cs => c :: '.' :: cs
  String.ofList (d.sign ++ mantissa ++ 'e' :: (toString exponent).toList)

/-- Positional with at least one digit behind the point from `10 ^ -4` up to `10 ^ 16`, and for zero;
else with an exponent. -/
def marked (d : Decimal) : String :=
  if d.digits = 0 || (-3 ≤ d.point && d.point ≤ 16) then
    let (whole, fraction) := d.positional
    String.ofList (d.sign ++ whole ++ '.' :: if fraction.isEmpty then ['0'] else fraction)
  else d.scientific

end Text.Decimal

namespace Binary64

def plain (x : Binary64) : String := x.shortest.plain

def marked (x : Binary64) : String := x.shortest.marked

end Binary64

end FilterSql
