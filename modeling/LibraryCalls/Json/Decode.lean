import LibraryCalls.Json.Basic
import LibraryCalls.Text.Integer

/-!
# Reading JSON

A reader for JSON texts that says exactly where a text goes wrong.  It is a little more liberal than
the standard: `NaN`, `Infinity` and `-Infinity` are numbers, half of a surrogate pair may stand or
be escaped on its own, and of a member name that is repeated the last value counts, at the place of
the first.  It is stricter in one point: a whole number may have at most 4300 digits.

Every reader takes the remaining text and gives the text that remains after it; a fault is placed by
the text that remains where it stands.  Texts are read as code points, whatever type they come in,
and the strings in them become texts of the type that is asked for.

Readers are structural in a fuel, at most two steps for a character, so that each of them can be
opened by its equations.  That the fuel is enough for every text that is printed by this library is
part of `LibraryCalls.Proofs.Json.RoundTrip`.

* `Problem`, `DecodeError`: what can be wrong, and where;
* `readString`, `readNumber`, `readValue`: the parts of the grammar;
* `decode`: the value of a whole text.
-/

namespace LibraryCalls.Json

open Text (points)

variable {τ : Type}

/-- What can be wrong with a text. -/
inductive Problem where
  | byteOrderMark
  | noValue
  | noName
  | noColon
  | noComma
  | unterminatedString
  | controlCharacter
  | badEscape
  | badUnicodeEscape
  | extraData
  deriving DecidableEq, Repr

def Problem.message : Problem → String
  | .byteOrderMark => "Unexpected UTF-8 BOM (decode using utf-8-sig)"
  | .noValue => "Expecting value"
  | .noName => "Expecting property name enclosed in double quotes"
  | .noColon => "Expecting ':' delimiter"
  | .noComma => "Expecting ',' delimiter"
  | .unterminatedString => "Unterminated string starting at"
  | .controlCharacter => "Invalid control character at"
  | .badEscape => "Invalid \\escape"
  | .badUnicodeEscape => "Invalid \\uXXXX escape"
  | .extraData => "Extra data"

/-- A fault met while reading: a problem with the text that remains where it stands, or a whole
number with too many digits. -/
inductive Fault where
  | malformed (problem : Problem) (remaining : CodePoints)
  | oversizedInteger (digits : Nat)
  deriving DecidableEq, Repr

/-- Reading either succeeds with a result and the remaining text, or meets a fault. -/
abbrev Reader (α : Type) := CodePoints → Except Fault (α × CodePoints)

/-! ### Blanks -/

/-- The four characters that may stand between the parts of a text. -/
def isSpace (p : CodePoint) : Bool :=
  p = .char ' ' || p = .char '\t' || p = .char '\n' || p = .char '\r'

/-- A text without the spaces and line ends at its head. -/
def skipSpaces (cs : CodePoints) : CodePoints :=
  cs.dropWhile isSpace

/-! ### Strings -/

def hexValue? (c : Char) : Option Nat :=
  if '0' ≤ c ∧ c ≤ '9' then some (c.toNat - '0'.toNat)
  else if 'a' ≤ c ∧ c ≤ 'f' then some (c.toNat - 'a'.toNat + 10)
  else if 'A' ≤ c ∧ c ≤ 'F' then some (c.toNat - 'A'.toNat + 10)
  else none

/-- The four hexadecimal digits of an escape.  One more character must follow them. -/
def hexQuad? : CodePoints → Option (Nat × CodePoints)
  | .char a :: .char b :: .char c :: .char d :: e :: rest =>
    match hexValue? a, hexValue? b, hexValue? c, hexValue? d with
    | some a, some b, some c, some d => some (((a * 16 + b) * 16 + c) * 16 + d, e :: rest)
    | _, _, _, _ => none
  | _ => none

/-- The character that a backslash and a letter stand for. -/
def simpleEscape? (c : Char) : Option Char :=
  if c = '"' ∨ c = '\\' ∨ c = '/' then some c
  else if c = 'b' then some '\x08'
  else if c = 'f' then some '\x0c'
  else if c = 'n' then some '\n'
  else if c = 'r' then some '\r'
  else if c = 't' then some '\t'
  else none

/-- The first half of a character beyond U+FFFF. -/
def isHighSurrogate (n : Nat) : Bool := 0xD800 ≤ n && n ≤ 0xDBFF

/-- The second half of a character beyond U+FFFF. -/
def isLowSurrogate (n : Nat) : Bool := 0xDC00 ≤ n && n ≤ 0xDFFF

/-- The code point of an escape whose `u` stands at the head of the text.  Two escapes that form a
surrogate pair are one character, and a half without the other stands for itself; a high surrogate
before another escape makes that one part of the check. -/
def readUnicodeEscape : Reader CodePoint := fun cs =>
  match hexQuad? (cs.drop 1) with
  | none => .error (.malformed .badUnicodeEscape cs)
  | some (high, rest) =>
    if isHighSurrogate high then
      match rest with
      | .char '\\' :: .char 'u' :: more =>
        match hexQuad? more with
        | none => .error (.malformed .badUnicodeEscape (.char 'u' :: more))
        | some (low, after) =>
          if isLowSurrogate low then
            .ok (.ofNat (0x10000 + (high - 0xD800) * 0x400 + (low - 0xDC00)), after)
          else .ok (.ofNat high, rest)
      | _ => .ok (.ofNat high, rest)
    else .ok (.ofNat high, rest)

/-- The code points of a string up to its closing quote.  `opening` is the text from the opening
quote on, where an unterminated string is reported; `fuel` bounds the number of code points. -/
def readCharacters (opening : CodePoints) : Nat → Reader CodePoints
  | 0, _ => .error (.malformed .unterminatedString opening)
  | fuel + 1, cs =>
    match cs with
    | [] => .error (.malformed .unterminatedString opening)
    | .char '"' :: rest => .ok ([], rest)
    | [.char '\\'] => .error (.malformed .unterminatedString opening)
    | .char '\\' :: .char 'u' :: rest =>
      match readUnicodeEscape (.char 'u' :: rest) with
      | .error e => .error e
      | .ok (p, rest) => (readCharacters opening fuel rest).map fun r => (p :: r.1, r.2)
    | .char '\\' :: e :: rest =>
      match simpleEscape? e.toChar with
      | none => .error (.malformed .badEscape cs)
      | some c => (readCharacters opening fuel rest).map fun r => (.char c :: r.1, r.2)
    | p :: rest =>
      if p.toChar.toNat < 0x20 then .error (.malformed .controlCharacter cs)
      else (readCharacters opening fuel rest).map fun r => (p :: r.1, r.2)

/-- The string whose opening quote stands at the head of the text. -/
def readString [Textual τ] : Reader τ := fun cs =>
  (readCharacters cs cs.length (cs.drop 1)).map fun r => (Textual.ofPoints r.1, r.2)

/-! ### Numbers -/

def isDigit (c : Char) : Bool := '0' ≤ c && c ≤ '9'

/-- The digits at the head of the text, and what follows them. -/
def leadingDigits : CodePoints → List Char × CodePoints
  | .char c :: rest =>
    if isDigit c then
      let (ds, after) := leadingDigits rest
      (c :: ds, after)
    else ([], .char c :: rest)
  | cs => ([], cs)

/-- The digits at the head of the text, if there are any. -/
def digits? (cs : CodePoints) : Option (List Char × CodePoints) :=
  let (ds, after) := leadingDigits cs
  if ds = [] then none else some (ds, after)

/-- The digits of the whole part: a single zero, or digits that start with another one. -/
def wholeDigits : CodePoints → Option (List Char × CodePoints)
  | .char '0' :: rest => some (['0'], rest)
  | cs => digits? cs

/-- The digits after a point, if a point and a digit stand at the head. -/
def fractionDigits : CodePoints → Option (List Char × CodePoints)
  | .char '.' :: rest => digits? rest
  | _ => none

def exponentSign : CodePoints → Bool × CodePoints
  | .char '-' :: rest => (true, rest)
  | .char '+' :: rest => (false, rest)
  | cs => (false, cs)

/-- The exponent, if a letter, perhaps a sign, and a digit stand at the head. -/
def exponentPart : CodePoints → Option (Int × CodePoints)
  | p :: rest =>
    if p = .char 'e' ∨ p = .char 'E' then
      let (negative, rest) := exponentSign rest
      (digits? rest).map fun (ds, after) =>
        let n : Int := Numeral.ofDigits ds
        (if negative then -n else n, after)
    else none
  | [] => none

/-- A number after its sign; `start` is the text from the sign on. -/
def readUnsigned (start : CodePoints) (negative : Bool) : Reader (Json τ) := fun cs =>
  match wholeDigits cs with
  | none => .error (.malformed .noValue start)
  | some (whole, rest) =>
    match fractionDigits rest, exponentPart rest with
    | none, none =>
      if Text.maxDigits < whole.length then .error (.oversizedInteger whole.length)
      else
        let n : Int := Numeral.ofDigits whole
        .ok (.int (if negative then -n else n), rest)
    | none, some (e, rest) => .ok (.float (.finite negative (Numeral.ofDigits whole) e), rest)
    | some (fraction, rest), _ =>
      let digits := Numeral.ofDigits (whole ++ fraction)
      let (e, rest) := (exponentPart rest).getD (0, rest)
      .ok (.float (.finite negative digits (e - fraction.length)), rest)

def readNumber : Reader (Json τ)
  | .char '-' :: rest => readUnsigned (.char '-' :: rest) true rest
  | cs => readUnsigned cs false cs

/-! ### Values -/

/-- The text after a word, if the word stands at its head. -/
def afterWord (word : String) (cs : CodePoints) : Option CodePoints :=
  if (points word.toList).isPrefixOf cs then some (cs.drop word.length) else none

def words : List (String × Json τ) :=
  [("null", .null), ("true", .bool true), ("false", .bool false), ("NaN", .float .nan),
    ("Infinity", .float (.infinite false)), ("-Infinity", .float (.infinite true))]

/-- A value that is neither a string nor a list nor an object. -/
def readScalar : Reader (Json τ) := fun cs =>
  match words.findSome? fun (w, j) => (afterWord w cs).map fun rest => (j, rest) with
  | some r => .ok r
  | none => readNumber cs

section

variable [DecidableEq τ] [Textual τ]

mutual

/-- A value at the head of the text; `fuel` bounds the steps, at most two for a character. -/
def readValue : Nat → Reader (Json τ)
  | 0, cs => .error (.malformed .noValue cs)
  | fuel + 1, cs =>
    match cs with
    | .char '"' :: _ => (readString cs).map fun r => (.str r.1, r.2)
    | .char '[' :: rest =>
      match skipSpaces rest with
      | .char ']' :: rest => .ok (.arr [], rest)
      | rest => (readItems fuel rest).map fun r => (.arr r.1, r.2)
    | .char '{' :: rest =>
      match skipSpaces rest with
      | .char '}' :: rest => .ok (.obj [], rest)
      | rest => (readMembers fuel rest).map fun r => (.obj (Assoc.ofPairs r.1), r.2)
    | cs => readScalar cs

/-- The values of a list up to its closing bracket. -/
def readItems : Nat → Reader (List (Json τ))
  | 0, cs => .error (.malformed .noValue cs)
  | fuel + 1, cs =>
    match readValue fuel cs with
    | .error e => .error e
    | .ok (item, rest) =>
      match skipSpaces rest with
      | .char ']' :: rest => .ok ([item], rest)
      | .char ',' :: rest => (readItems fuel (skipSpaces rest)).map fun r => (item :: r.1, r.2)
      | rest => .error (.malformed .noComma rest)

/-- The members of an object up to its closing brace, repeated names included. -/
def readMembers : Nat → Reader (List (τ × Json τ))
  | 0, cs => .error (.malformed .noName cs)
  | fuel + 1, cs =>
    match cs with
    | .char '"' :: _ =>
      match readString cs with
      | .error e => .error e
      | .ok (name, rest) =>
        match skipSpaces rest with
        | .char ':' :: rest =>
          match readValue fuel (skipSpaces rest) with
          | .error e => .error e
          | .ok (value, rest) =>
            match skipSpaces rest with
            | .char '}' :: rest => .ok ([(name, value)], rest)
            | .char ',' :: rest =>
              (readMembers fuel (skipSpaces rest)).map fun r => ((name, value) :: r.1, r.2)
            | rest => .error (.malformed .noComma rest)
        | rest => .error (.malformed .noColon rest)
    | cs => .error (.malformed .noName cs)

end

/-! ### Whole texts -/

/-- Why a text has no value, and at which position. -/
inductive DecodeError where
  | malformed (problem : Problem) (position : Nat)
  | oversizedInteger (digits : Nat)
  deriving DecidableEq, Repr

/-- The value of a text, or the fault that stands in its way. -/
def readText (cs : CodePoints) : Except Fault (Json τ) :=
  match cs with
  | .char '\uFEFF' :: _ => .error (.malformed .byteOrderMark cs)
  | cs =>
    match readValue (2 * cs.length + 2) (skipSpaces cs) with
    | .error e => .error e
    | .ok (value, rest) =>
      match skipSpaces rest with
      | [] => .ok value
      | rest => .error (.malformed .extraData rest)

def Fault.locate (text : CodePoints) : Fault → DecodeError
  | .malformed problem remaining => .malformed problem (text.length - remaining.length)
  | .oversizedInteger digits => .oversizedInteger digits

def decode (text : τ) : Except DecodeError (Json τ) :=
  (readText (Textual.toPoints text)).mapError (Fault.locate (Textual.toPoints text))

end

/-- The line of a position, counted from one; only line feeds end lines. -/
def lineOf (text : CodePoints) (position : Nat) : Nat :=
  (text.take position).count (.char '\n') + 1

/-- The column of a position, counted from one. -/
def columnOf (text : CodePoints) (position : Nat) : Nat :=
  ((text.take position).reverse.takeWhile (· ≠ .char '\n')).length + 1

end LibraryCalls.Json
