/-!
# Rounding of quotients

A quotient of natural numbers is rounded to the nearest natural number, and to the even one of two
that are equally near.  Rounding to 53 significant bits is what a number loses when it is held as a
double.
-/

namespace TorrentRemote.Number

/-- The natural number nearest to `num / den`, the even one of two. -/
def roundHalfEven (num den : Nat) : Nat :=
  let quotient := num / den
  let twice := 2 * (num % den)
  if twice < den then quotient
  else if den < twice then quotient + 1
  else quotient + quotient % 2

/-- The number nearest to `n` among those of 53 significant bits, the one with an even last bit of
two. -/
def roundToDouble (n : Nat) : Nat :=
  if n < Nat.pow 2 53 then n
  else
    let unit := Nat.pow 2 (n.log2 - 52)
    roundHalfEven n unit * unit

end TorrentRemote.Number
