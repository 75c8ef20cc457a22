import LibraryCalls.Text.Split
import LibraryCalls.Web.Domain.Label

/-!
# Host names

A host name is a row of labels with dots between them and perhaps one after the last.

Four characters count as the dot between labels, the full stop of ASCII and three others that are
used in its place with East Asian scripts; all of them are written as the first.  An empty label is
refused, except that a name may end in a dot.  The length of the name as a whole is limited as well
as that of its labels, both in the form in ASCII letters.

A fault of a label is the fault of the name, and the first label with a fault decides which one it
is.

* `Domain.toAscii`, `Domain.ofAscii`: from a host name to its form in ASCII letters and back;
* `labels`, `mapLabels`: the labels of a name, and the name with each of them replaced.
-/

namespace LibraryCalls.Web.Domain

/-- The greatest length of a host name in ASCII letters, a last dot aside. -/
def maxLength : Nat := 253

def isDot (c : Char) : Bool :=
  c = '.' || c.toNat = 0x3002 || c.toNat = 0xFF0E || c.toNat = 0xFF61

/-- The labels of a host name, and whether a dot follows the last one. -/
def labels (name : List Char) : List (List Char) × Bool :=
  let parts := Text.splitOn '.' (name.map fun c => if isDot c then '.' else c)
  if parts.getLast? = some [] then (parts.dropLast, true) else (parts, false)

def mapLabels (f : List Char → Except Fault (List Char)) (name : List Char) :
    Except Fault (List Char) := do
  let (parts, isClosed) := labels name
  let parts ← parts.mapM f
  .ok (Text.joinWith '.' (if isClosed then parts ++ [[]] else parts))

def toAscii (name : List Char) : Except Fault (List Char) := do
  let written ← mapLabels Label.toAscii name
  let allowed := if (labels name).2 then maxLength + 1 else maxLength
  if written.length ≤ allowed then .ok written else .error .form

/-- The host name that a host name in ASCII letters stands for. -/
def ofAscii (name : List Char) : Except Fault (List Char) :=
  mapLabels Label.ofAscii name

end LibraryCalls.Web.Domain
