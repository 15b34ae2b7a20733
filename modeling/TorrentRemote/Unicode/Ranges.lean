/-!
# Sets of code points

Properties of characters are given as lists of closed ranges of code points.
-/

namespace TorrentRemote.Unicode

/-- A set of code points as closed ranges. -/
abbrev Ranges := List (Nat × Nat)

/-- Whether a character lies in one of the ranges. -/
def Ranges.contains (ranges : Ranges) (c : Char) : Bool :=
  ranges.any fun range => range.1 ≤ c.toNat && c.toNat ≤ range.2

end TorrentRemote.Unicode
