/-!
# Line ranges

The lines of a source file that a block was read from. Lines are counted from one and both ends
belong to the range; a range that is not known is `0, 0`. Nothing keeps the first line from lying
behind the last one.
-/

namespace PublicSuffix

/-- The first and the last line of a block. -/
structure LineRange where
  first : UInt64 := 0
  last : UInt64 := 0
  deriving DecidableEq, Repr, Inhabited

/-- The range of a single line. -/
def LineRange.line (n : UInt64) : LineRange := ⟨n, n⟩

/-- The range in words. A range that does not reach beyond its first line is shown by that line
alone. -/
def LineRange.display (r : LineRange) : String :=
  if r.last ≤ r.first then "line " ++ toString r.first.toNat
  else "lines " ++ toString r.first.toNat ++ "-" ++ toString r.last.toNat

/-- Ranges are compared by their first lines, then by their last ones. -/
instance : Ord LineRange where
  compare a b := (compare a.first b.first).then (compare a.last b.last)

end PublicSuffix
