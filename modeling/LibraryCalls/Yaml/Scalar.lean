import LibraryCalls.Decimal.Read
import LibraryCalls.Text.Integer
import LibraryCalls.Text.Split
import LibraryCalls.Yaml.Basic
import LibraryCalls.Yaml.Time

/-!
# The values of scalars

A quoted scalar is a text.  A plain one may also be null, a truth value, a number or a time; the
forms are those of YAML 1.1, in which `yes` is true, `0x1F` and `1:30` are whole numbers, and a
number with an exponent needs a point and a sign in the exponent.

A whole number may be given to base two, eight, ten, sixteen or sixty, with underscores among its
digits; an octal number is one that starts with a zero.  A number with a point may also be to base
sixty.  What looks like neither, nor like a time, is a text, and so a text needs quotes only if it
could be taken for something else.

A plain scalar can have the form of a number or a time and yet be none: a decimal number with too
many digits, a base without digits behind it, a date in the thirteenth month.  That is a fault of
its own, with a message of its own.

* `Scalar`, `Scalar.ofPlain`, `Node.scalar?`: the values, and the value of a scalar;
* `Scalar.int?`, `Scalar.float?`: the two kinds of numbers;
* `ScalarFault`, `Scalar.fault?`: what can be wrong with a scalar that has such a form.
-/

namespace LibraryCalls.Yaml

open Text

/-- The value of a scalar. -/
inductive Scalar where
  | null
  | bool (value : Bool)
  | int (value : Int)
  | float (value : Numeral)
  | time
  | text (value : String)
  deriving DecidableEq, Repr

namespace Scalar

def nullWords : List String := ["", "~", "null", "Null", "NULL"]

def trueWords : List String :=
  ["yes", "Yes", "YES", "true", "True", "TRUE", "on", "On", "ON"]

def falseWords : List String :=
  ["no", "No", "NO", "false", "False", "FALSE", "off", "Off", "OFF"]

/-- The characters of a decimal number; underscores may stand between digits. -/
def isDigitOrBar (c : Char) : Bool :=
  c.isDigit || c = '_'

def withoutBars (cs : List Char) : List Char :=
  cs.filter (· ≠ '_')

def ofBase (base : Nat) (digit : Char → Nat) (cs : List Char) : Int :=
  ((withoutBars cs).foldl (fun n c => n * base + digit c) 0 : Nat)

def hexValue (c : Char) : Nat :=
  if c.isDigit then c.toNat - 48 else c.toLower.toNat - 87

def isHexDigit (c : Char) : Bool :=
  c.isDigit || ('a' ≤ c && c ≤ 'f') || ('A' ≤ c && c ≤ 'F')

/-- Whether a text is a part of a number to base sixty: one digit, or two up to 59. -/
def isSixtieth : List Char → Bool
  | [a] => a.isDigit
  | [a, b] => '0' ≤ a && a ≤ '5' && b.isDigit
  | _ => false

def ofSixtieths (parts : List (List Char)) : Int :=
  ((parts.map fun p => Numeral.ofDigits (withoutBars p)).foldl (fun n d => n * 60 + d) 0 : Nat)

/-- A whole number after its sign. -/
def unsignedInt? (cs : List Char) : Option Int :=
  match cs with
  | ['0'] => some 0
  | '0' :: 'b' :: ds =>
    if ds ≠ [] ∧ ds.all (fun c => c = '0' || c = '1' || c = '_') then
      some (ofBase 2 Numeral.digitValue ds)
    else none
  | '0' :: 'x' :: ds =>
    if ds ≠ [] ∧ ds.all (fun c => isHexDigit c || c = '_') then
      some (ofBase 16 hexValue ds)
    else none
  | '0' :: ds =>
    if ds.all (fun c => ('0' ≤ c && c ≤ '7') || c = '_') then
      some (ofBase 8 Numeral.digitValue ds)
    else none
  | c :: ds =>
    if !c.isDigit then none
    else if ds.all isDigitOrBar then some (ofBase 10 Numeral.digitValue cs)
    else
      match splitOn ':' cs with
      | first :: rest =>
        if first.all isDigitOrBar && rest.all isSixtieth then some (ofSixtieths (first :: rest))
        else none
      | [] => none
  | [] => none

def int? (cs : List Char) : Option Int :=
  let (negative, rest) := Numeral.cutSign cs
  (unsignedInt? rest).map fun n => if negative then -n else n

/-- The exponent of a plain number, with the sign that it must have. -/
def exponent? : List Char → Option Int
  | [] => some 0
  | e :: s :: ds =>
    if (e = 'e' ∨ e = 'E') ∧ (s = '+' ∨ s = '-') ∧ ds ≠ [] ∧ ds.all Char.isDigit then
      let n : Int := Numeral.ofDigits ds
      some (if s = '-' then -n else n)
    else none
  | _ => none

/-- A number with a point, after its sign; only a number without a sign may start with the point. -/
def unsignedFloat? (negative signed : Bool) (cs : List Char) : Option Numeral :=
  let whole := cs.takeWhile isDigitOrBar
  match cs.dropWhile isDigitOrBar with
  | '.' :: rest =>
    let fraction := rest.takeWhile isDigitOrBar
    let after := rest.dropWhile isDigitOrBar
    let places := withoutBars fraction
    let headIsDigit := match whole ++ fraction with
      | c :: _ => c.isDigit
      | [] => false
    if !headIsDigit || (whole = [] && signed) then none
    else
      (exponent? after).map fun e =>
        .finite negative (Numeral.ofDigits (withoutBars whole ++ places)) (e - places.length)
  | _ => none

/-- A number to base sixty with a point in its last part, after its sign. -/
def sixtiethFloat? (negative : Bool) (cs : List Char) : Option Numeral :=
  match cs.dropWhile (· ≠ '.') with
  | '.' :: fraction =>
    match splitOn ':' (cs.takeWhile (· ≠ '.')) with
    | first :: next :: rest =>
      if (first.head?.map Char.isDigit).getD false && first.all isDigitOrBar
          && (next :: rest).all isSixtieth && fraction.all isDigitOrBar then
        let places := withoutBars fraction
        let n := (ofSixtieths (first :: next :: rest)).toNat
        some (.finite negative (n * Nat.pow 10 places.length + Numeral.ofDigits places)
          (-(places.length : Int)))
      else none
    | _ => none
  | _ => none

def floatWord? (negative signed : Bool) (cs : List Char) : Option Numeral :=
  let word := String.ofList cs
  if word ∈ [".inf", ".Inf", ".INF"] then some (.infinite negative)
  else if !signed ∧ word ∈ [".nan", ".NaN", ".NAN"] then some .nan
  else none

def float? (cs : List Char) : Option Numeral :=
  let (negative, rest) := Numeral.cutSign cs
  let signed := rest.length ≠ cs.length
  (floatWord? negative signed rest).or
    ((unsignedFloat? negative signed rest).or (sixtiethFloat? negative rest))

def ofPlain (cs : List Char) : Scalar :=
  let word := String.ofList cs
  if word ∈ nullWords then .null
  else if word ∈ trueWords then .bool true
  else if word ∈ falseWords then .bool false
  else
    match int? cs, float? cs with
    | some n, _ => .int n
    | none, some x => .float x
    | none, none => if (Time.read? cs).isSome then .time else .text word

end Scalar

def Node.scalar? : Node → Option Scalar
  | .plain cs => some (Scalar.ofPlain cs)
  | .quoted cs => some (.text (String.ofList cs))
  | _ => none

/-- Why a plain scalar that looks like a number or a time is none: it has too many digits, no digits
after the letter that gives the base, or parts out of bounds. -/
inductive ScalarFault where
  | oversized (digits : Nat)
  | noDigits (base : Nat)
  | time (fault : TimeFault)
  deriving DecidableEq, Repr

def ScalarFault.message : ScalarFault → String
  | .oversized digits => Text.oversizedMessage digits
  | .noDigits base => "invalid literal for int() with base " ++ toString base ++ ": ''"
  | .time fault => fault.message

namespace Scalar

def digitsFault? (cs : List Char) : Option ScalarFault :=
  let digits := (withoutBars cs).length
  if Text.maxDigits < digits then some (.oversized digits) else none

/-- The fault of a whole number after its sign.  Only digits to base ten are limited in number. -/
def intFault? (cs : List Char) : Option ScalarFault :=
  match withoutBars cs with
  | ['0', 'b'] => some (.noDigits 2)
  | ['0', 'x'] => some (.noDigits 16)
  | '0' :: _ => none
  | cs => (splitOn ':' cs).findSome? digitsFault?

def fault? (cs : List Char) : Option ScalarFault :=
  match ofPlain cs with
  | .int _ => intFault? (Numeral.cutSign cs).2
  | .time => ((Time.read? cs).bind Time.fault?).map .time
  | _ => none

end Scalar

end LibraryCalls.Yaml
