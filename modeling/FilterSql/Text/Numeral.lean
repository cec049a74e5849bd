import FilterSql.Text.Blank

namespace FilterSql.Text

def natValue (ds : List Char) : Nat :=
  ds.foldl (fun n d => 10 * n + (d.toNat - '0'.toNat)) 0

inductive NumeralFault
  | empty
  | invalidDigit
  | tooLarge
  | tooSmall
  deriving DecidableEq, Repr

def NumeralFault.message : NumeralFault → String
  | .empty => "cannot parse integer from empty string"
  | .invalidDigit => "invalid digit found in string"
  | .tooLarge => "number too large to fit in target type"
  | .tooSmall => "number too small to fit in target type"

/-- The value of a nonempty run of digits that is at most `bound`. The fault that comes first in the
text is the one reported. -/
def readBounded (bound : Nat) (cs : List Char) : Except NumeralFault Nat :=
  let ds := cs.takeWhile Char.isDigit
  if bound < natValue ds then .error .tooLarge
  else if ds.isEmpty || ds.length < cs.length then .error .invalidDigit
  else .ok (natValue ds)

def readUnsigned (bound : Nat) : List Char → Except NumeralFault Nat
  | [] => .error .empty
  | '+' :: ds => readBounded bound ds
  | ds => readBounded bound ds

def readUInt64 (cs : List Char) : Except NumeralFault UInt64 :=
  (readUnsigned (UInt64.size - 1) cs).map UInt64.ofNat

def readInt64 : List Char → Except NumeralFault Int64
  | [] => .error .empty
  | '-' :: ds =>
    match readBounded (UInt64.size / 2) ds with
    | .ok n => .ok (Int64.ofInt (-n))
    | .error .tooLarge => .error .tooSmall
    | .error e => .error e
  | '+' :: ds => (readBounded (UInt64.size / 2 - 1) ds).map (Int64.ofInt ·)
  | ds => (readBounded (UInt64.size / 2 - 1) ds).map (Int64.ofInt ·)

structure Decimal where
  negative : Bool
  digits : Nat
  exponent : Int
  deriving DecidableEq, Repr

def splitSign : List Char → Bool × List Char
  | '-' :: cs => (true, cs)
  | '+' :: cs => (false, cs)
  | cs => (false, cs)

def readExponent : List Char → Option Int
  | [] => some 0
  | e :: cs =>
    if e == 'e' || e == 'E' then
      let (negative, ds) := splitSign cs
      if ds.isEmpty || !ds.all Char.isDigit then none
      else some (if negative then -(natValue ds : Int) else natValue ds)
    else none

def readDecimal (cs : List Char) : Option Decimal :=
  let (negative, cs) := splitSign cs
  let whole := cs.takeWhile Char.isDigit
  let cs := cs.dropWhile Char.isDigit
  let (fraction, cs) :=
    match cs with
    | '.' :: cs => (cs.takeWhile Char.isDigit, cs.dropWhile Char.isDigit)
    | cs => ([], cs)
  if whole.isEmpty && fraction.isEmpty then none
  else do
    let exponent ← readExponent cs
    return ⟨negative, natValue (whole ++ fraction), exponent - fraction.length⟩

end FilterSql.Text
