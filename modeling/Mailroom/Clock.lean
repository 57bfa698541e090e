/-!
# Clock readings

A clock is read in seconds as a binary floating point number with 53 significant bits. Such
readings are kept here as whole numbers of `2 ^ -62` seconds, fine enough for every whole number
of milliseconds; sums and differences are rounded as the arithmetic of such numbers rounds them.
-/

namespace Mailroom

/-- A point in time, or a span, in units of `2 ^ -62` seconds. -/
abbrev Instant := Int

namespace Instant

/-- The units of one second. -/
def second : Nat := Nat.pow 2 62

/-- The nearest whole quotient, a tie going to the even neighbour. -/
def divRound (num den : Nat) : Nat :=
  let q := num / den
  let r := num % den
  if 2 * r < den then q
  else if den < 2 * r then q + 1
  else if q % 2 == 0 then q else q + 1

/-- The quotient `num / den` rounded to 53 significant bits, if it has at least as many. -/
def roundQuotient (num den : Nat) : Nat :=
  let excess := (num / den).log2 + 1 - 53
  divRound num (den * Nat.pow 2 excess) * Nat.pow 2 excess

def round : Int → Instant
  | .ofNat n => roundQuotient n 1
  | .negSucc n => -(roundQuotient (n + 1) 1 : Int)

def ofMillis (ms : Nat) : Instant :=
  roundQuotient (ms * second) 1000

def after (seconds : Nat) (t : Instant) : Instant :=
  round (t + round (seconds * second))

/-- The whole milliseconds between two readings; a fraction is dropped. -/
def elapsedMillis (started now : Instant) : Int :=
  (round (round (now - started) * 1000)).tdiv second

/-- The nearest whole number of milliseconds of a reading. -/
def toMillis (t : Instant) : Int :=
  match t * 1000 with
  | .ofNat n => divRound n second
  | .negSucc n => -(divRound (n + 1) second : Int)

end Instant

end Mailroom
