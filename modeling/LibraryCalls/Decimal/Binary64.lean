import LibraryCalls.Decimal.Basic

/-!
# Rounding to binary floating point

The finite numbers with 53 significant bits and exponents from -1074 to 971, computed in exact
natural-number arithmetic.  A numeral is rounded to the nearest of them, a tie to the even one, and
to infinity when it is too large.

A number is kept as a mantissa and a power of two, with the sign apart, so that zero has a sign too.
A quotient is first scaled so that its whole part has 53 bits, or fewer where the exponent cannot
get any less, and then rounded once.  Rounding up may bring the mantissa to `2 ^ 53`, in which case
it is halved and the exponent goes up by one; only then is it known whether the number is too large.

A numeral with a huge exponent is never written out: beyond `10 ^ 310` it is infinite and below `10
^ -400` it is zero, whatever its digits are.

* `Binary64.ofRatio`: the nearest number to a quotient of natural numbers;
* `Binary64.ofNumeral`: the nearest number to a numeral, for exponents of any size;
* `Binary64.isZero`, `Binary64.isPositive`: what is asked of a number that is read from settings.
-/

namespace LibraryCalls

/-- A floating-point number.  `finite s m q` stands for `m · 2 ^ q`, negated when `s`. -/
inductive Binary64 where
  | finite (negative : Bool) (mantissa : Nat) (exponent : Int)
  | infinite (negative : Bool)
  | nan
  deriving DecidableEq, Repr

namespace Binary64

/-- The least exponent; numbers that would need a lesser one have fewer significant bits. -/
def minExponent : Int := -1074

/-- The greatest exponent of a number with 53 significant bits. -/
def maxExponent : Int := 971

/-- A quotient divided by `2 ^ q`, again as numerator and denominator. -/
def scale (num den : Nat) (q : Int) : Nat × Nat :=
  if 0 ≤ q then (num, den * Nat.pow 2 q.toNat) else (num * Nat.pow 2 (-q).toNat, den)

/-- A quotient rounded to a whole number, a tie to the even one. -/
def roundHalfEven (num den : Nat) : Nat :=
  let n := num / den
  let r := num % den
  if 2 * r < den then n
  else if den < 2 * r then n + 1
  else if n % 2 = 0 then n else n + 1

/-- The exponent for which a positive quotient has 53 bits before the point, but no less than the
least exponent. -/
def exponentFor (num den : Nat) : Int :=
  let q : Int := (num.log2 : Int) - (den.log2 : Int) - 52
  let (a, b) := scale num den q
  let q := if a / b < Nat.pow 2 52 then q - 1 else q
  max q minExponent

/-- The number nearest to `num / den`, for a positive `den`. -/
def ofRatio (negative : Bool) (num den : Nat) : Binary64 :=
  if num = 0 then .finite negative 0 minExponent
  else
    let q := exponentFor num den
    let (a, b) := scale num den q
    let m := roundHalfEven a b
    let (m, q) := if m = Nat.pow 2 53 then (Nat.pow 2 52, q + 1) else (m, q)
    if maxExponent < q then .infinite negative else .finite negative m q

/-- The number nearest to a numeral.  Numerals beyond `10 ^ 310` and below `10 ^ -400` are decided
by their size alone. -/
def ofNumeral : Numeral → Binary64
  | .nan => .nan
  | .infinite s => .infinite s
  | .finite s d e =>
    let size : Int := (Numeral.width d : Int) + e
    if d = 0 ∨ size < -400 then .finite s 0 minExponent
    else if 310 < size then .infinite s
    else if 0 ≤ e then ofRatio s (d * Nat.pow 10 e.toNat) 1
    else ofRatio s d (Nat.pow 10 (-e).toNat)

def isZero : Binary64 → Bool
  | .finite _ m _ => m = 0
  | _ => false

def isPositive : Binary64 → Bool
  | .finite s m _ => !s && m != 0
  | .infinite s => !s
  | .nan => false

end Binary64

end LibraryCalls
