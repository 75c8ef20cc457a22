/-!
# Code points

A text is made of characters, and yet not every text that can be written down is.  An escape may
name half of a surrogate pair on its own, and so may octets; the half is then a part of the text
like any other, and different halves make different texts.  Code points are the characters together
with these halves.

Two types of texts are in use.  A `String` has no place for a half and shows the replacement
character instead, which is good enough wherever a text is only handed on; a list of code points
keeps every half, so that two texts are equal exactly when they are the same text.  What is said of
names, which are told apart by nothing but their texts, is said of lists of code points.
Definitions that serve both are stated for any type of texts, with `String` for the one that is
meant when none is named.

* `CodePoint`, `CodePoints`: characters and halves, and the texts made of them;
* `CodePoint.ofNat`, `CodePoint.toChar`: the code point of a number, and the character that shows
  it;
* `Text.points`: characters as code points;
* `Textual`: a type of texts, with instances for `String` and `CodePoints`.
-/

namespace LibraryCalls

/-- A character, or half of a surrogate pair that stands on its own. -/
inductive CodePoint where
  | char (c : Char)
  /-- The half with this number, counted from U+D800. -/
  | half (offset : Fin 0x800)
  deriving DecidableEq, Repr, Inhabited

/-- A text in which halves of surrogate pairs may stand on their own. -/
abbrev CodePoints := List CodePoint

namespace CodePoint

def ofNat (n : Nat) : CodePoint :=
  if h : 0xD800 ≤ n ∧ n ≤ 0xDFFF then .half ⟨n - 0xD800, by omega⟩ else .char (Char.ofNat n)

/-- The character that shows a code point: the replacement character for a half. -/
def toChar : CodePoint → Char
  | .char c => c
  | .half _ => '\uFFFD'

end CodePoint

/-- Characters as code points. -/
def Text.points (cs : List Char) : CodePoints :=
  cs.map .char

/-- A type whose values are texts: what a literal and what code points are in it, and the code
points of a text. -/
class Textual (τ : Type) where
  ofString : String → τ
  ofPoints : CodePoints → τ
  toPoints : τ → CodePoints

instance : Textual String where
  ofString s := s
  ofPoints ps := String.ofList (ps.map CodePoint.toChar)
  toPoints s := Text.points s.toList

instance : Textual CodePoints where
  ofString s := Text.points s.toList
  ofPoints ps := ps
  toPoints ps := ps

namespace Text

@[simp] theorem points_nil : points [] = [] := rfl

@[simp] theorem points_cons (c : Char) (cs : List Char) :
    points (c :: cs) = .char c :: points cs := rfl

@[simp] theorem points_append (cs ds : List Char) :
    points (cs ++ ds) = points cs ++ points ds :=
  List.map_append

@[simp] theorem length_points (cs : List Char) : (points cs).length = cs.length :=
  List.length_map _

end Text

namespace Textual

@[simp] theorem ofString_string (s : String) : (ofString s : String) = s := rfl

@[simp] theorem toPoints_string (s : String) : toPoints s = Text.points s.toList := rfl

@[simp] theorem ofPoints_points (cs : List Char) :
    (ofPoints (Text.points cs) : String) = String.ofList cs := by
  show String.ofList ((cs.map CodePoint.char).map CodePoint.toChar) = _
  rw [List.map_map]
  exact congrArg String.ofList (List.map_id cs)

end Textual

end LibraryCalls
