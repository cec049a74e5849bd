import FilterSql.Text.Blank
import FilterSql.Text.Cluster.Basic

namespace FilterSql

/-- What has been typed, last first, and the sizes in bytes of its clusters. A size is kept in one
byte, so only its remainder by 256 is known. -/
structure Typed where
  text : List Char := []
  sizes : List UInt8 := []
  deriving DecidableEq, Repr

namespace Typed

def dropBytes? (n : Nat) : List Char → Option (List Char)
  | [] => if n = 0 then some [] else none
  | c :: rest =>
    if n = 0 then some (c :: rest)
    else if c.utf8Size ≤ n then dropBytes? (n - c.utf8Size) rest
    else none

def type? (t : Typed) (cluster : List Char) : Option Typed :=
  if cluster = ['\x08'] then
    match t.sizes with
    | [] => some t
    | size :: sizes => (dropBytes? size.toNat t.text).map fun text => ⟨text, sizes⟩
  else some ⟨cluster.reverse ++ t.text, .ofNat (Text.width cluster) :: t.sizes⟩

/-- The line that is left. There is none if a backspace would cut a character in two. -/
def line? (cs : List Char) : Option (List Char) :=
  ((Text.clusters cs).foldlM type? {}).map fun t => t.text.reverse

end Typed

end FilterSql
