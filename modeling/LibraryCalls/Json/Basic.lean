import LibraryCalls.Assoc
import LibraryCalls.Decimal.Binary64
import LibraryCalls.Text.CodePoint

/-!
# JSON values

The values of a JSON text.  Whole numbers and numbers with a fraction or an exponent are told
apart, whole numbers are unbounded, and the members of an object keep their order.  The strings of a
value and the names of its members may be of any type of texts.

A value is a tree whose leaves are null, truth values, numbers and strings.  A number with a
fraction or an exponent is kept as it is written, and is rounded to a floating-point number only
where it is printed, shown or compared with zero.  Members are a list of pairs and not a map, so
that a value can hold a repeated name; readers put no such value together, but it can be built and
printed.

Being void is a notion of its own, wider than being null: it is what a program means that asks
whether there is anything to a value at all.

* `Json.kind`: the name of a value's kind in messages;
* `Json.isVoid`: the values that say nothing;
* `Json.members`, `Json.member?`: what an object holds, and what of it stands under a name.
-/

namespace LibraryCalls

/-- A JSON value, with strings of a type of texts. -/
inductive Json (τ : Type := String) where
  | null
  | bool (value : Bool)
  | int (value : Int)
  | float (value : Numeral)
  | str (value : τ)
  | arr (items : List (Json τ))
  | obj (members : List (τ × Json τ))
  deriving Repr, Inhabited

namespace Json

variable {τ : Type}

/-- The name of a value's kind, as it appears in messages. -/
def kind : Json τ → String
  | .null => "null"
  | .bool _ => "bool"
  | .int _ => "int"
  | .float _ => "float"
  | .str _ => "str"
  | .arr _ => "list"
  | .obj _ => "object"

/-- A value that says nothing: null, false, a zero, and the empty text, list and object. -/
def isVoid : Json → Bool
  | .null => true
  | .bool b => !b
  | .int n => n = 0
  | .float x => (Binary64.ofNumeral x).isZero
  | .str s => s = ""
  | .arr items => items.isEmpty
  | .obj members => members.isEmpty

/-- The members of an object, and none of anything else. -/
def members : Json τ → List (τ × Json τ)
  | .obj ms => ms
  | _ => []

def member? [DecidableEq τ] (j : Json τ) (name : τ) : Option (Json τ) :=
  Assoc.get? j.members name

end Json

end LibraryCalls
