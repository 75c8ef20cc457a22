import LibraryCalls.Text.Blank
import LibraryCalls.Text.Digit

/-!
# Written integers

An integer is written as a row of decimal digits of any script, perhaps with a sign before them,
with single underscores between them and with blanks around them.

The number of digits is limited, because the time to read them grows faster than their number.  A
number with more digits than that is malformed in the same way as one with a letter in it; where it
has to be told apart, in the texts of JSON and of YAML, the readers count the digits themselves.

The limit is on digits, so neither underscores nor the sign count.  Digits of different scripts may
stand side by side in one number.

* `readInteger?`: the integer that a text denotes;
* `maxDigits`, `oversizedMessage`: how many digits it may have, and the wording for more;
* `readDigits?`, `readNatural?`: a row of digits, and the number that it denotes.
-/

namespace LibraryCalls.Text

/-- The greatest number of digits of a written integer. -/
def maxDigits : Nat := 4300

def oversizedMessage (digits : Nat) : String :=
  s!"Exceeds the limit (4300 digits) for integer string conversion: value has {digits} digits; "
    ++ "use sys.set_int_max_str_digits() to increase the limit"

/-- The values of a row of digits, where an underscore may stand between two of them. -/
def readDigits? : List Char → Option (List Nat)
  | [] => none
  | [c] => (digit? c).map ([·])
  | c :: '_' :: rest => do
    let d ← digit? c
    let ds ← readDigits? rest
    some (d :: ds)
  | c :: rest => do
    let d ← digit? c
    let ds ← readDigits? rest
    some (d :: ds)

/-- The number that a row of digits denotes, if there are not too many. -/
def readNatural? (cs : List Char) : Option Nat :=
  (readDigits? cs).bind fun ds =>
    if ds.length ≤ maxDigits then some (ds.foldl (fun n d => 10 * n + d) 0) else none

def readInteger? (cs : List Char) : Option Int :=
  match trim cs with
  | '-' :: rest => (readNatural? rest).map fun n => -n
  | '+' :: rest => (readNatural? rest).map fun n => n
  | rest => (readNatural? rest).map fun n => n

end LibraryCalls.Text
