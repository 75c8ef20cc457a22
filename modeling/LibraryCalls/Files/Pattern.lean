import LibraryCalls.Text.Cut

/-!
# Patterns of file names

A pattern is a text in which `*` stands for any characters, `?` for any one of them, and brackets
for one character of a set; every other character stands for itself.

A set in brackets is a row of characters, of ranges with a hyphen between their ends, or of both,
and an exclamation mark at its head turns it round.  Where hyphens stand next to each other, or at
an end of the set, it is not obvious which of them is a character and which one makes a range;
`CharSet.rowsFrom` follows the rule that the first character of a set, and the one after each range,
cannot be the hyphen of a range.

A range whose ends are the wrong way round holds nothing, and its ends go with it, as
`CharSet.closeGap` says.  A bracket that is never closed is an ordinary character.  Matching is by
trying all ends of the text for each star, which is slow for many stars and plain to reason about.

* `CharSet.holds`: the characters of a set;
* `Pattern.ofText`: the pattern that a text denotes;
* `Pattern.fits`: the names that a pattern stands for.
-/

namespace LibraryCalls

open Text

/-- A set of characters: those that stand in a row, and those between the last one of a row and the
first one of the next; or all others. -/
structure CharSet where
  isNegated : Bool
  rows : List (List Char)
  deriving DecidableEq, Repr

namespace CharSet

def all : CharSet :=
  ⟨true, []⟩

def single (c : Char) : CharSet :=
  ⟨false, [[c]]⟩

def isBetween (c : Char) (rows : List Char × List Char) : Bool :=
  match rows.1.getLast?, rows.2.head? with
  | some first, some last => first ≤ c && c ≤ last
  | _, _ => false

def holds (s : CharSet) (c : Char) : Bool :=
  (s.rows.any (·.contains c) || (s.rows.zip s.rows.tail).any (isBetween c)) != s.isNegated

/-- The rows between the hyphens of a text; `row` is what has been read of the first one, last
character first.  A hyphen among the next characters, `least` of them, belongs to the row, and one
among the first two characters of any later row belongs to that. -/
def rowsFrom (row : List Char) (least : Nat) : List Char → List (List Char)
  | [] => [row.reverse]
  | c :: cs =>
    if c = '-' ∧ least = 0 then row.reverse :: rowsFrom [] 2 cs
    else rowsFrom (c :: row) (least - 1) cs

/-- The rows where a hyphen at the very end belongs to the last of them. -/
def closeRows (rows : List (List Char)) : List (List Char) :=
  match rows.reverse with
  | [] :: row :: before => ((row ++ ['-']) :: before).reverse
  | _ => rows

/-- Rows put together where no character lies between them; the two at the ends of the gap go. -/
def closeGap (row : List Char) (rows : List (List Char)) : List (List Char) :=
  match rows with
  | [] => [row]
  | next :: rest =>
    match row.getLast?, next.head? with
    | some first, some last =>
      if last < first then (row.dropLast ++ next.tail) :: rest else row :: next :: rest
    | _, _ => row :: next :: rest

/-- The set that a text between brackets denotes.  An exclamation mark at its head stands for all
other characters. -/
def ofText (inside : List Char) : CharSet :=
  let least := if inside.head? = some '!' then 2 else 1
  match (closeRows (rowsFrom [] least inside)).foldr closeGap [] with
  | ('!' :: row) :: rows => ⟨true, row :: rows⟩
  | rows => ⟨false, rows⟩

end CharSet

namespace Pattern

/-- A part of a pattern: any characters, or one of a set. -/
inductive Piece where
  | any
  | one (set : CharSet)
  deriving DecidableEq, Repr

/-- The text between an opening bracket and the one that closes it, and what follows.  A closing
bracket right after the opening one, or after an exclamation mark there, closes nothing. -/
def cutSet (cs : List Char) : Option (List Char × List Char) :=
  let head :=
    match cs with
    | '!' :: ']' :: _ => 2
    | '!' :: _ => 1
    | ']' :: _ => 1
    | _ => 0
  (cutFirst ']' (cs.drop head)).map fun p => (cs.take head ++ p.1, p.2)

/-- The parts of the pattern that a text denotes from a place on, the next characters skipped,
`skip` of them.  A bracket that is not closed stands for itself. -/
def piecesFrom (skip : Nat) : List Char → List Piece
  | [] => []
  | c :: rest =>
    if 0 < skip then piecesFrom (skip - 1) rest
    else if c = '*' then .any :: piecesFrom 0 rest
    else if c = '?' then .one .all :: piecesFrom 0 rest
    else
      match if c = '[' then cutSet rest else none with
      | some (inside, _) => .one (.ofText inside) :: piecesFrom (inside.length + 1) rest
      | none => .one (.single c) :: piecesFrom 0 rest

def ofText (cs : List Char) : List Piece :=
  piecesFrom 0 cs

/-- The ends of a text, the whole and the empty one included. -/
def ends : List Char → List (List Char)
  | [] => [[]]
  | c :: cs => (c :: cs) :: ends cs

def fits : List Piece → List Char → Bool
  | [], cs => cs.isEmpty
  | .any :: rest, cs => (ends cs).any (fits rest)
  | .one _ :: _, [] => false
  | .one set :: rest, c :: cs => set.holds c && fits rest cs

end Pattern

end LibraryCalls
