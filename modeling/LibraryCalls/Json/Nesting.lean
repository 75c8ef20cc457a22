import LibraryCalls.Json.Decode

/-!
# Room for nested lists and objects

A reader keeps a list or an object open while it reads what is in it, and a machine has room for so
many of them and no more.  The readers of this library have all the room that they need; here is
which texts are too much for a reader that has less.

Such a reader gives up at the first bracket or brace for which there is no room, if it gets there at
all: a fault that stands before it is met first.  Whether it gets there is seen from the text up to
and including that bracket.  If reading this beginning goes wrong at its very end, where the rest of
the list or the object is missing, then nothing was wrong before.

* `crowded?`: the text up to the first bracket for which there is no room;
* `exhausts`: whether a reader gets to that bracket.
-/

namespace LibraryCalls.Json

/-- A code point that opens a list or an object, where it stands outside of strings. -/
def opens (p : CodePoint) : Bool :=
  p = .char '[' || p = .char '{'

def closes (p : CodePoint) : Bool :=
  p = .char ']' || p = .char '}'

/-- The shortest beginning of a text with more lists and objects open at its end than there is room
for; `depth` of them are open before it, and `quoted` says whether it begins inside of a string. -/
def crowded? (room : Nat) : (depth : Nat) → (quoted : Bool) → CodePoints → Option CodePoints
  | _, _, [] => none
  | depth, true, .char '\\' :: p :: rest =>
    (crowded? room depth true rest).map fun beginning => .char '\\' :: p :: beginning
  | depth, true, p :: rest => (crowded? room depth (p ≠ .char '"') rest).map (p :: ·)
  | depth, false, p :: rest =>
    if opens p then
      if room ≤ depth then some [p] else (crowded? room (depth + 1) false rest).map (p :: ·)
    else
      (crowded? room (if closes p then depth - 1 else depth) (p = .char '"') rest).map (p :: ·)

/-- Whether a reader with room for so many lists and objects gets to one that is too much. -/
def exhausts (room : Nat) (text : CodePoints) : Bool :=
  match crowded? room 0 false text with
  | none => false
  | some beginning =>
    match (readText beginning : Except Fault (Json CodePoints)) with
    | .error (.malformed _ []) => true
    | _ => false

end LibraryCalls.Json
