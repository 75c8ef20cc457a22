import LibraryCalls.Call.Scan

/-!
# Reading a call

The name stands before the first opening bracket, the arguments between it and the last closing
bracket after it.  Brackets are not balanced: an inner closing bracket separates arguments as a
comma does, and a missing one is supplied at the end of the text.

Reading never fails for the shape of the brackets: without an opening bracket the whole text is a
name, without a closing one the arguments go on to the end, and whatever stands behind the last
closing bracket is passed over.  The one thing that can go wrong is a character behind the closing
quote of a value, which is found by the scan of the arguments and reported with the text between the
brackets.

The name is trimmed but not looked at any further.  It may be empty, and it may hold commas, quotes
and closing brackets.

* `Call.cut`: the name, and the text between the brackets if there are any;
* `Call.parse`: the call, or the fault in its arguments.
-/

namespace LibraryCalls.Call

open Text

/-- The text of a call cut into its name and the text of its arguments; without an opening bracket
the whole text is the name. -/
def cut (b : Brackets) (text : List Char) : List Char × Option (List Char) :=
  match cutFirst b.opening text with
  | none => (trim text, none)
  | some (before, after) =>
    match cutLast b.closing after with
    | some (inside, _) => (trim before, some inside)
    | none => (trim before, some after)

def parse (b : Brackets) (text : String) : Except SyntaxError Call :=
  match cut b text.toList with
  | (name, none) => .ok ⟨String.ofList name, []⟩
  | (name, some source) =>
    (Argument.scanAll b.terminators source).map fun arguments => ⟨String.ofList name, arguments⟩

end LibraryCalls.Call
