import LibraryCalls.Text.Blank
import LibraryCalls.Decimal.Basic

/-!
# Reading numerals

The numerals that a text may hold where a number is wanted: an optional sign, then digits with at
most one point among them and an optional exponent, or a word for infinity or for no number at all.
Blanks around the numeral do not count, and single underscores may stand between digits.

The blanks that may stand around a numeral are not quite those that `trim` takes away: the four
separators from U+001C to U+001F do not count.  A text is read a second time without its underscores
if it cannot be read with them, and then it may have no blanks around it; an underscore must have a
digit, or at least another character, on both of its sides.

The words are read in any mixture of small and capital letters.  Whether a numeral is wanted at all,
and what becomes of one that is not finite, is for the caller to say.

* `Numeral.cutMantissa`, `Numeral.exponent?`, `Numeral.word?`: the parts of a numeral;
* `Numeral.ofText?`: the numeral in a text.
-/

namespace LibraryCalls.Numeral

open Text

/-- A blank around a numeral: the blanks of all scripts, but not the separators of records. -/
def isOuterBlank (c : Char) : Bool :=
  isBlank c && !(0x1C ≤ c.toNat && c.toNat ≤ 0x1F)

def trimmed (cs : List Char) : List Char :=
  ((cs.dropWhile isOuterBlank).reverse.dropWhile isOuterBlank).reverse

/-- A sign at the head of a text, and whether it is a minus. -/
def cutSign : List Char → Bool × List Char
  | '-' :: rest => (true, rest)
  | '+' :: rest => (false, rest)
  | cs => (false, cs)

/-- Digits, a point and digits, at least one digit in all; and the text after them. -/
def cutMantissa (cs : List Char) : Option (Nat × Nat × List Char) :=
  let whole := cs.takeWhile Char.isDigit
  let rest := cs.dropWhile Char.isDigit
  let (fraction, rest) := match rest with
    | '.' :: after => (after.takeWhile Char.isDigit, after.dropWhile Char.isDigit)
    | rest => ([], rest)
  if whole = [] ∧ fraction = [] then none
  else some (ofDigits (whole ++ fraction), fraction.length, rest)

/-- The exponent that makes up the whole of a text; an empty text stands for zero. -/
def exponent? : List Char → Option Int
  | [] => some 0
  | c :: rest =>
    if c = 'e' ∨ c = 'E' then
      let (negative, digits) := cutSign rest
      if digits ≠ [] ∧ digits.all Char.isDigit then
        let n : Int := ofDigits digits
        some (if negative then -n else n)
      else none
    else none

/-- The words for infinity and for no number, after the sign. -/
def word? (negative : Bool) (cs : List Char) : Option Numeral :=
  let small := String.ofList (cs.map Char.toLower)
  if small = "inf" ∨ small = "infinity" then some (.infinite negative)
  else if small = "nan" then some .nan
  else none

/-- The numeral that makes up the whole of a text. -/
def ofChars? (cs : List Char) : Option Numeral :=
  let (negative, rest) := cutSign cs
  match cutMantissa rest with
  | none => word? negative rest
  | some (digits, places, rest) =>
    (exponent? rest).map fun e => .finite negative digits (e - places)

/-- Whether underscores stand only singly and never at the end of a text, nor at its start if
`allowed` is false. -/
def underscoresInside : Bool → List Char → Bool
  | allowed, [] => allowed
  | allowed, c :: cs =>
    if c = '_' then allowed && underscoresInside false cs else underscoresInside true cs

/-- The numeral in a text, with blanks around it or with underscores inside it. -/
def ofText? (text : String) : Option Numeral :=
  let cs := text.toList
  (ofChars? (trimmed cs)).or
    (if cs.contains '_' && underscoresInside false cs then ofChars? (cs.filter (· ≠ '_'))
      else none)

end LibraryCalls.Numeral
