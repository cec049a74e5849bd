import FilterSql.Text.Numeral

namespace FilterSql

structure Version where
  major : UInt32
  minor : UInt32
  patch : UInt32
  deriving DecidableEq, Repr

namespace Version

def order (v w : Version) : Ordering :=
  ((compare v.major w.major).then (compare v.minor w.minor)).then (compare v.patch w.patch)

def atLeast (v w : Version) : Bool := v.order w != .lt

def render (v : Version) : String :=
  toString v.major.toNat ++ "." ++ toString v.minor.toNat ++ "." ++ toString v.patch.toNat

def part? (ds : List Char) : Option UInt32 :=
  ((Text.readUnsigned (UInt32.size - 1) ds).map UInt32.ofNat).toOption

/-- Reads up to three numbers with points between them; what follows them is ignored, and numbers not
given are zero. -/
def parse? (s : String) : Option Version :=
  let numeric := (Text.trim s.toList).takeWhile fun c => c.isDigit || c == '.'
  match numeric.splitOnP (· == '.') with
  | [] => none
  | [a] => do return ⟨← part? a, 0, 0⟩
  | [a, b] => do return ⟨← part? a, ← part? b, 0⟩
  | a :: b :: c :: _ => do return ⟨← part? a, ← part? b, ← part? c⟩

end Version

end FilterSql
