/-!
# Rounding a quotient

One rule for every place where an exact quotient becomes an integer: the
nearest one wins, and a `Tie` says what happens half way.
-/

namespace EventMixing

/-- What becomes of a value exactly half way between two neighbours. -/
inductive Tie where
  /-- The even neighbour wins. -/
  | toEven
  /-- The neighbour further from zero wins. -/
  | away
deriving DecidableEq, Repr

/-- The integer nearest to `num / den`. -/
def roundDiv (num den : Nat) (tie : Tie) : Nat :=
  let whole := num / den
  let twice := 2 * (num % den)
  if twice < den then whole
  else if den < twice then whole + 1
  else match tie with
    | .toEven => whole + whole % 2
    | .away => whole + 1

end EventMixing
