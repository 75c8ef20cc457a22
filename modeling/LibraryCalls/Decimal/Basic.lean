/-!
# Decimal numerals

A number as it is written: sign, digits and a power of ten, kept exactly.  Besides the finite
numerals there are the two infinities and the value that is not a number.

Nothing is rounded here.  A numeral has as many digits as were written, and its exponent is any
integer, so that two numerals with the same value may differ, as those of `1.5` and `1.50` do.
Rounding to a number with a limited precision is a step of its own, in
`LibraryCalls.Decimal.Binary64`.

A zero keeps its sign, and so does an infinity.  Numerals are made by the readers of JSON, of YAML
and of settings, which agree in what a row of digits denotes and differ in what may stand around it.

* `Numeral`: the numerals;
* `Numeral.ofDigits`, `Numeral.ofInt`: the number of a row of digits, and whole numbers;
* `Numeral.width`: how many digits a number has.
-/

namespace LibraryCalls

/-- A written number.  `finite s d e` stands for `d · 10 ^ e`, negated when `s`. -/
inductive Numeral where
  | finite (negative : Bool) (digits : Nat) (exponent : Int)
  | infinite (negative : Bool)
  | nan
  deriving DecidableEq, Repr

namespace Numeral

def digitValue (c : Char) : Nat :=
  c.toNat - 48

/-- The number that a row of decimal digits denotes. -/
def ofDigits (cs : List Char) : Nat :=
  cs.foldl (fun n c => n * 10 + digitValue c) 0

def ofInt (n : Int) : Numeral :=
  .finite (n < 0) n.natAbs 0

/-- The number of decimal digits, one for zero. -/
def width (n : Nat) : Nat :=
  (Nat.toDigits 10 n).length

end Numeral

end LibraryCalls
