import LibraryCalls.Decimal.Shortest
import LibraryCalls.Json.Basic
import LibraryCalls.Text.Quoted

/-!
# Values for display

The form in which a JSON value is shown to a reader.  A text on its own is shown as it is; inside a
list or an object it stands between quotes.

This is the form in which the sender of a message sees a value, not the form in which it is sent.  A
list stands in square brackets and an object in braces, both with a comma and a blank between what
they hold; truth values and null have words of their own, and a number with a fraction has its
shortest decimal text.  Only texts inside of other values are quoted, by the rules of
`LibraryCalls.Text.Quoted`, which also write out hidden characters.

The name and the time of a commit are shown like this, whatever kind of value they are.

* `displayInner`: a value inside another one; `display`: a value on its own.
-/

namespace LibraryCalls.Json

open Text

def displayFloat (x : Numeral) : List Char :=
  (Binary64.ofNumeral x).render.toList

def listed : List (List Char) → List Char
  | [] => []
  | [x] => x
  | x :: xs => x ++ ',' :: ' ' :: listed xs

mutual

/-- The shown form of a value inside another one. -/
def displayInner : Json → List Char
  | .null => "None".toList
  | .bool b => (if b then "True" else "False").toList
  | .int n => (toString n).toList
  | .float x => displayFloat x
  | .str s => quoted s.toList
  | .arr items => '[' :: listed (displayItems items) ++ [']']
  | .obj ms => '{' :: listed (displayMembers ms) ++ ['}']

def displayItems : List Json → List (List Char)
  | [] => []
  | j :: js => displayInner j :: displayItems js

def displayMembers : List (String × Json) → List (List Char)
  | [] => []
  | (name, j) :: ms => (quoted name.toList ++ ':' :: ' ' :: displayInner j) :: displayMembers ms

end

/-- The shown form of a value on its own. -/
def display : Json → String
  | .str s => s
  | j => String.ofList (displayInner j)

end LibraryCalls.Json
