import LibraryCalls.Json.Basic
import LibraryCalls.Decimal.Shortest

/-!
# Compact JSON

One line without spaces, the members of every object in the order of their names, and no character
below U+0020: quotes, backslashes and control characters are escaped, everything else stands for
itself.

There is one text for a value, so texts can be compared in place of values.  That the order of the
members is lost is meant: two objects with the same members are the same object, in whatever order
they were put together.  The order of names is that of their characters, one by one.

A number with a fraction or an exponent is printed with the fewest digits that read back as the same
number, and infinities and the value that is not a number are printed as the words that
`LibraryCalls.Json.Decode` reads.  What of a text can be read again is the subject of
`LibraryCalls.Proofs.Json.RoundTrip`.

* `renderString`: a text between quotes;
* `render`: a value; `print`: its text;
* `escapeChar`: a character between quotes;
* `memberOrder`: the order in which members are written.
-/

namespace LibraryCalls.Json

/-- Four hexadecimal digits of a number below 65536. -/
def hexQuad (n : Nat) : List Char :=
  [Nat.digitChar (n / 4096 % 16), Nat.digitChar (n / 256 % 16), Nat.digitChar (n / 16 % 16),
    Nat.digitChar (n % 16)]

def escapeChar (c : Char) : List Char :=
  if c = '"' then ['\\', '"']
  else if c = '\\' then ['\\', '\\']
  else if c = '\n' then ['\\', 'n']
  else if c = '\r' then ['\\', 'r']
  else if c = '\t' then ['\\', 't']
  else if c = '\x08' then ['\\', 'b']
  else if c = '\x0c' then ['\\', 'f']
  else if c.toNat < 0x20 then '\\' :: 'u' :: hexQuad c.toNat
  else [c]

def renderString (s : String) : List Char :=
  '"' :: s.toList.flatMap escapeChar ++ ['"']

def commaSeparated : List (List Char) → List Char
  | [] => []
  | [x] => x
  | x :: xs => x ++ ',' :: commaSeparated xs

/-- The order in which the members of an object are written: by name, character by character. -/
def memberOrder {α : Type} (a b : String × α) : Bool :=
  a.1 ≤ b.1

/-- A written member: its name, a colon and the value's text. -/
def renderMember (m : String × List Char) : List Char :=
  renderString m.1 ++ ':' :: m.2

def renderFloat (x : Numeral) : List Char :=
  match Binary64.ofNumeral x with
  | .nan => "NaN".toList
  | .infinite s => (if s then "-Infinity" else "Infinity").toList
  | b => b.render.toList

mutual

/-- The compact text of a value. -/
def render : Json → List Char
  | .null => "null".toList
  | .bool b => (if b then "true" else "false").toList
  | .int n => (toString n).toList
  | .float x => renderFloat x
  | .str s => renderString s
  | .arr items => '[' :: commaSeparated (renderItems items) ++ [']']
  | .obj ms =>
    '{' :: commaSeparated (((renderMembers ms).mergeSort memberOrder).map renderMember) ++ ['}']

def renderItems : List Json → List (List Char)
  | [] => []
  | j :: js => render j :: renderItems js

/-- The names of members, each with the text of its value. -/
def renderMembers : List (String × Json) → List (String × List Char)
  | [] => []
  | (name, j) :: ms => (name, render j) :: renderMembers ms

end

def print (j : Json) : String :=
  String.ofList (render j)

end LibraryCalls.Json
