import LibraryCalls.Text.Split

/-!
# Addresses of hosts

The written forms of the two kinds of host addresses: four numbers with dots between them, and eight
groups of hexadecimal digits with colons between them.

A host that looks like four rows of digits is meant for an address, and if it is none, then it is no
host at all: `300.1.1.1` is not looked up as a name.  What stands between the rows may be any
character there, since a host with another one in the place of a dot is refused as well rather than
taken for a name.

An address of eight groups may leave out one stretch of zeros, end in an address of the first kind,
and carry the name of a zone behind a percent sign.  Whether an address can be reached is not asked.

* `isDotted`, `isGrouped`: the texts that are addresses of the two kinds;
* `looksDotted`: the texts that can be meant for an address of the first kind only;
* `isOctet`, `isGroup`: what the two kinds are made of;
* `countGroups?`, `isGroupRow`: how many groups there are, with a double colon or without.
-/

namespace LibraryCalls.Web.Address

open Text

/-- The number of an octet in decimal digits, without zeros before it. -/
def isOctet (cs : List Char) : Bool :=
  cs ≠ [] && cs.length ≤ 3 && cs.all Char.isDigit
    && (cs = ['0'] || cs.head? ≠ some '0')
    && cs.foldl (fun n c => 10 * n + (c.toNat - 48)) 0 ≤ 255

def isDotted (cs : List Char) : Bool :=
  let octets := splitOn '.' cs
  octets.length = 4 && octets.all isOctet

/-- Where a reader can be after a character, when it looks for four rows of digits with one
character of any kind between them.  State `2 * k` is before row `k` and state `2 * k + 1` within
it. -/
def dottedSteps (c : Char) (state : Nat) : List Nat :=
  if state % 2 = 0 then (if c.isDigit then [state + 1] else [])
  else (if c.isDigit then [state] else []) ++ (if state < 7 then [state + 1] else [])

/-- Whether a text consists of four rows of digits with one character of any kind between them. -/
def looksDotted (cs : List Char) : Bool :=
  (cs.foldl (fun states c => (states.flatMap (dottedSteps c)).eraseDups) [0]).contains 7

def isHexDigit (c : Char) : Bool :=
  c.isDigit || ('a' ≤ c && c ≤ 'f') || ('A' ≤ c && c ≤ 'F')

def isGroup (cs : List Char) : Bool :=
  cs ≠ [] && cs.length ≤ 4 && cs.all isHexDigit

def groups (cs : List Char) : List (List Char) :=
  if cs = [] then [] else splitOn ':' cs

/-- The number of groups that a row of groups stands for, if each of them is well-formed.  The last
one may be an address of four octets and then stands for two. -/
def countGroups? : List (List Char) → Option Nat
  | [] => some 0
  | [last] => if isGroup last then some 1 else if isDotted last then some 2 else none
  | group :: rest => if isGroup group then (countGroups? rest).map (· + 1) else none

/-- The parts of a text before and after its first double colon. -/
def cutGap : List Char → Option (List Char × List Char)
  | ':' :: ':' :: rest => some ([], rest)
  | c :: rest => (cutGap rest).map fun p => (c :: p.1, p.2)
  | [] => none

/-- Eight groups; a double colon stands for at least one that is zero. -/
def isGroupRow (cs : List Char) : Bool :=
  match cutGap cs with
  | some (before, after) =>
    (groups before).all isGroup
      && (countGroups? (groups after)).any fun n => (groups before).length + n ≤ 7
  | none => countGroups? (groups cs) = some 8

/-- An address of eight groups, perhaps with the name of a zone after a percent sign. -/
def isGrouped (cs : List Char) : Bool :=
  match splitOn '%' cs with
  | [row] => isGroupRow row
  | [row, zone] => isGroupRow row && zone ≠ []
  | _ => false

end LibraryCalls.Web.Address
