import LibraryCalls.Decimal.Binary64

/-!
# The shortest decimal text of a floating-point number

Among the decimal numbers that round to a given floating-point number, those with the fewest digits
are sought, and of these the nearest.  The search tries one digit, then two, and so on up to
seventeen, and on each grid of decimals looks only at the two neighbours of the number.

All comparisons are made between natural numbers.  The decimals that round to `m · 2 ^ q` lie in an
interval whose ends are half way to the neighbours of this number; the ends themselves belong to it
when the mantissa is even, because a tie is rounded to the even one, and the lower end is nearer
when the mantissa is the least one of its exponent.  Everything is brought over one denominator, so
that a grid of decimals is met by multiplication and division alone.

The two searches take a fuel that is more than they can use: the place of the point lies between `10
^ -330` and `10 ^ 370`, and seventeen digits are enough for every number.

* `Shortest.digits`: the digits and the place of the decimal point;
* `Binary64.render`: the text, positional for moderate sizes and with an exponent otherwise.
-/

namespace LibraryCalls

namespace Shortest

/-- The decimals that round to `m · 2 ^ q`, over the common factor `2 ^ (q - 2)`: lower and upper
bound, and whether the bounds themselves belong to them. -/
def interval (m : Nat) (q : Int) : Nat × Nat × Bool :=
  let low := if m = Nat.pow 2 52 ∧ Binary64.minExponent < q then 4 * m - 1 else 4 * m - 2
  (low, 4 * m + 2, m % 2 = 0)

/-- The number of digits before the point of the positive quotient `num / den`: the least `k` with
`num / den < 10 ^ k`, searched upwards from a lower bound with `fuel` steps. -/
def pointFrom (num den : Nat) : Nat → Int → Int
  | 0, k => k
  | fuel + 1, k =>
    let less :=
      if 0 ≤ k then num < den * Nat.pow 10 k.toNat else num * Nat.pow 10 (-k).toNat < den
    if less then k else pointFrom num den fuel (k + 1)

/-- One grid: the multiples of `10 ^ e`.  The neighbour of `num / den` on it that lies between the
bounds `low / den` and `high / den`, the nearer one if both do. -/
def neighbour? (low num high den : Nat) (closed : Bool) (e : Int) : Option Nat :=
  let up := if 0 ≤ e then 1 else Nat.pow 10 (-e).toNat
  let down := if 0 ≤ e then den * Nat.pow 10 e.toNat else den
  let c := num * up / down
  let inside (n : Nat) : Bool :=
    if closed then low * up ≤ n * down && n * down ≤ high * up
    else low * up < n * down && n * down < high * up
  let below := num * up - c * down
  let above := (c + 1) * down - num * up
  if inside c && inside (c + 1) then
    if below < above ∨ (below = above ∧ c % 2 = 0) then some c else some (c + 1)
  else if inside c then some c
  else if inside (c + 1) then some (c + 1)
  else none

/-- The first grid with a neighbour, from `n` digits on. -/
def search (low num high den : Nat) (closed : Bool) (point : Int) : Nat → Nat → Nat × Int
  | 0, _ => (0, 0)
  | fuel + 1, n =>
    let e := point - n
    match neighbour? low num high den closed e with
    | some c => (c, e)
    | none => search low num high den closed point fuel (n + 1)

/-- The shortest decimal `d · 10 ^ e` for the positive number `m · 2 ^ q`. -/
def decimal (m : Nat) (q : Int) : Nat × Int :=
  let (low, high, closed) := interval m q
  let f : Int := q - 2
  let up := if 0 ≤ f then Nat.pow 2 f.toNat else 1
  let den := if 0 ≤ f then 1 else Nat.pow 2 (-f).toNat
  let num := 4 * m * up
  let point := pointFrom num den 700 (-330)
  search (low * up) num (high * up) den closed point 18 1

def dropZeros (cs : List Char) : List Char :=
  (cs.reverse.dropWhile (· = '0')).reverse

/-- The digits of the shortest decimal without zeros at the end, and the number of digits before
the point. -/
def digits (m : Nat) (q : Int) : List Char × Int :=
  let (d, e) := decimal m q
  let ds := Nat.toDigits 10 d
  (dropZeros ds, e + ds.length)

/-- An exponent: a sign and at least two digits. -/
def renderExponent (e : Int) : List Char :=
  let ds := Nat.toDigits 10 e.natAbs
  (if e < 0 then '-' else '+') :: (if ds.length < 2 then '0' :: ds else ds)

/-- The text of a row of digits with the point after the first `point` of them: positional when the
point falls between the fourth place before the digits and the sixteenth place after, and with an
exponent otherwise. -/
def renderDigits (ds : List Char) (point : Int) : List Char :=
  if point ≤ -4 ∨ 16 < point then
    let fraction := ds.drop 1
    ds.take 1 ++ (if fraction = [] then [] else '.' :: fraction)
      ++ 'e' :: renderExponent (point - 1)
  else if point ≤ 0 then
    '0' :: '.' :: List.replicate (-point).toNat '0' ++ ds
  else
    let p := point.toNat
    let whole := ds.take p ++ List.replicate (p - ds.length) '0'
    let fraction := ds.drop p
    whole ++ '.' :: (if fraction = [] then ['0'] else fraction)

end Shortest

/-- The text of a floating-point number: the shortest that reads back as the same number. -/
def Binary64.render : Binary64 → String
  | .nan => "nan"
  | .infinite s => if s then "-inf" else "inf"
  | .finite s m q =>
    let body :=
      if m = 0 then ['0', '.', '0']
      else
        let (ds, point) := Shortest.digits m q
        Shortest.renderDigits ds point
    String.ofList (if s then '-' :: body else body)

end LibraryCalls
