import LibraryCalls.Text.Normal
import LibraryCalls.Web.Domain.Direction
import LibraryCalls.Web.Domain.Joining
import LibraryCalls.Web.Domain.Letter
import LibraryCalls.Web.Domain.Mark
import LibraryCalls.Web.Domain.Punycode
import LibraryCalls.Web.Domain.Script

/-!
# Labels of host names

A host name is made of labels with dots between them.  A label may be written in the letters of any
script, and then also has a form in ASCII letters.

A label has to be in composed form, and without hyphens in the places where they would make it look
like something else.  Its characters are letters of the table, or characters that need certain
neighbours and have them: joiners, the middle dot of Catalan, a Greek sign, Hebrew and Japanese
punctuation, and digits of two scripts that must not be mixed.  Letters that run from right to left
make their own demands.

The form in ASCII letters starts with a mark of four characters, and a label that has it is read
back and checked before it is accepted.  Lengths are those of the written form.

* `Label.check`: the rules that a label has to meet;
* `Label.toAscii`, `Label.ofAscii`: from a label to its form in ASCII letters and back;
* `fits?`: the characters that need neighbours;
* `Domain.Fault`: why a text is no host name.
-/

namespace LibraryCalls.Web.Domain

/-- Why a text is no host name: the form of a label, a character that no label may hold, a character
that may not stand where it does, or letters that run both ways. -/
inductive Fault where
  | form
  | letter
  | neighbour
  | direction
  deriving DecidableEq, Repr

namespace Label

/-- The greatest length of a label in ASCII letters. -/
def maxLength : Nat := 63

/-- What a label in ASCII letters starts with if it stands for other letters. -/
def asciiMark : List Char :=
  "xn--".toList

/-- A mark that takes the vowel of its letter away. -/
def isVirama (c : Char) : Bool :=
  Text.combiningClass c = 9

def isArabicDigit (c : Char) : Bool :=
  0x660 ≤ c.toNat && c.toNat ≤ 0x669

def isPersianDigit (c : Char) : Bool :=
  0x6F0 ≤ c.toNat && c.toNat ≤ 0x6F9

/-- Whether the letters around a place join each other; the ones before it are given last one
first. -/
def isWithinJoin (before after : List Char) : Bool :=
  (before.dropWhile isTransparent).head?.any joinsAfter
    && (after.dropWhile isTransparent).head?.any joinsBefore

/-- Whether a character that needs certain neighbours has them, `none` for one that no neighbours
help.  The characters before it are given last one first. -/
def fits? (label before : List Char) (c : Char) (after : List Char) : Option Bool :=
  let n := c.toNat
  if n = 0x200C then some (before.head?.any isVirama || isWithinJoin before after)
  else if n = 0x200D then some (before.head?.any isVirama)
  else if n = 0xB7 then some (before.head? = some 'l' && after.head? = some 'l')
  else if n = 0x375 then some (after.head?.any isGreek)
  else if n = 0x5F3 ∨ n = 0x5F4 then some (before.head?.any isHebrew)
  else if n = 0x30FB then some (label.any fun d => d ≠ c && isJapanese d)
  else if isArabicDigit c then some (!label.any isPersianDigit)
  else if isPersianDigit c then some (!label.any isArabicDigit)
  else none

/-- The rules for the characters of a label, from one place on. -/
def checkFrom (label before : List Char) : List Char → Except Fault Unit
  | [] => .ok ()
  | c :: after =>
    if isLetter c then checkFrom label (c :: before) after
    else
      match fits? label before c after with
      | none => .error .letter
      | some false => .error .neighbour
      | some true => checkFrom label (c :: before) after

/-- Whether a label is in composed form, neither starts nor ends with a hyphen, does not look like
one in ASCII letters for others and does not start with a mark. -/
def hasForm (label : List Char) : Bool :=
  label ≠ [] && Text.IsNormal label && (label.drop 2).take 2 ≠ ['-', '-']
    && label.head? ≠ some '-' && label.getLast? ≠ some '-' && !label.head?.any isMark

/-- The rules for a label. -/
def check (label : List Char) : Except Fault Unit :=
  if !hasForm label then .error .form
  else do
    checkFrom label [] label
    if runsOneWay label then .ok () else .error .direction

def isAscii (cs : List Char) : Bool :=
  cs.all fun c => c.toNat < 128

/-- The label that a label in ASCII letters stands for. -/
def ofAscii (label : List Char) : Except Fault (List Char) :=
  let label := label.map Char.toLower
  if asciiMark.isPrefixOf label then
    let written := label.drop asciiMark.length
    if written = [] ∨ written.getLast? = some '-' then .error .form
    else
      match Punycode.decode? written with
      | none => .error .form
      | some decoded => (check decoded).map fun _ => decoded
  else (check label).map fun _ => label

/-- A label in ASCII letters.  One that is too long even before the others are written is not
written. -/
def toAscii (label : List Char) : Except Fault (List Char) :=
  if isAscii label then do
    let _ ← ofAscii label
    if label.length ≤ maxLength then .ok label else .error .form
  else do
    check label
    if maxLength < label.length then .error .form
    else
      let written := asciiMark ++ Punycode.encode label
      if written.length ≤ maxLength then .ok written else .error .form

end Label

end LibraryCalls.Web.Domain
