/-!
# Octets and text

UTF-8 as a machine that takes one octet at a time.  The lead octet of a character says how many
octets it still owes and between which bounds the next one lies; overlong forms, surrogates and
values above U+10FFFF fall outside the bounds, so no further check is needed.

What is no text is described as exactly as what is: a flaw is a maximal run of octets that begins
like a character and is none, and its kind says whether the lead octet, a later one, or the end of
the octets is to blame.  A strict reader stops at the first flaw and says where it stands; a lenient
one puts the replacement character in its place, one for each flaw.

Files are read strictly, bodies of replies leniently.  That the octets of a text are read back as
the text is proved in `LibraryCalls.Proofs.Text.Utf8`.

* `encode`: the octets of a text;
* `readings`: the octets cut into characters and flaws, every octet in exactly one of them;
* `decode`: the text, or the first flaw and where it stands;
* `decodeLossy`: the text with U+FFFD for each flaw;
* `unifyNewlines`: one line end for all three conventions.
-/

namespace LibraryCalls.Text

abbrev Octets := List UInt8

def encode (text : String) : Octets :=
  text.toList.flatMap String.utf8EncodeChar

/-- Why a run of octets is no character. -/
inductive Flaw where
  /-- The octet cannot begin a character. -/
  | badStart
  /-- A character has begun, and the next octet cannot continue it. -/
  | badContinuation
  /-- The octets end inside a character. -/
  | truncated
  deriving DecidableEq, Repr

/-- A piece of an octet sequence: a character, or a run of octets that is none. -/
inductive Reading where
  | char (c : Char) (width : Nat)
  | flaw (kind : Flaw) (width : Nat)
  deriving DecidableEq, Repr

def Reading.width : Reading → Nat
  | .char _ w => w
  | .flaw _ w => w

/-- A character that has begun: how many octets it owes, the bounds of the next one, the value and
the number of octets so far. -/
structure Pending where
  owed : Nat
  low : Nat
  high : Nat
  value : Nat
  width : Nat
  deriving DecidableEq, Repr

/-- What a lead octet starts: a finished piece, or a character that owes more octets. -/
def startOctet (b : Nat) : Reading ⊕ Pending :=
  if b ≤ 0x7F then .inl (.char (Char.ofNat b) 1)
  else if 0xC2 ≤ b ∧ b ≤ 0xDF then .inr ⟨1, 0x80, 0xBF, b - 0xC0, 1⟩
  else if b = 0xE0 then .inr ⟨2, 0xA0, 0xBF, b - 0xE0, 1⟩
  else if b = 0xED then .inr ⟨2, 0x80, 0x9F, b - 0xE0, 1⟩
  else if 0xE1 ≤ b ∧ b ≤ 0xEF then .inr ⟨2, 0x80, 0xBF, b - 0xE0, 1⟩
  else if b = 0xF0 then .inr ⟨3, 0x90, 0xBF, b - 0xF0, 1⟩
  else if 0xF1 ≤ b ∧ b ≤ 0xF3 then .inr ⟨3, 0x80, 0xBF, b - 0xF0, 1⟩
  else if b = 0xF4 then .inr ⟨3, 0x80, 0x8F, b - 0xF0, 1⟩
  else .inl (.flaw .badStart 1)

/-- The character after one more octet, or nothing when the octet is out of bounds. -/
def Pending.take? (p : Pending) (b : Nat) : Option (Reading ⊕ Pending) :=
  if p.low ≤ b ∧ b ≤ p.high then
    let value := p.value * 64 + (b - 0x80)
    if p.owed ≤ 1 then some (.inl (.char (Char.ofNat value) (p.width + 1)))
    else some (.inr ⟨p.owed - 1, 0x80, 0xBF, value, p.width + 1⟩)
  else none

/-- Cut octets into pieces, from between characters (`none`) or from inside one. -/
def readingsFrom : Option Pending → Octets → List Reading
  | none, [] => []
  | some p, [] => [.flaw .truncated p.width]
  | none, b :: bs =>
    match startOctet b.toNat with
    | .inl r => r :: readingsFrom none bs
    | .inr p => readingsFrom (some p) bs
  | some p, b :: bs =>
    match p.take? b.toNat with
    | some (.inl r) => r :: readingsFrom none bs
    | some (.inr q) => readingsFrom (some q) bs
    | none =>
      .flaw .badContinuation p.width ::
        match startOctet b.toNat with
        | .inl r => r :: readingsFrom none bs
        | .inr q => readingsFrom (some q) bs

/-- The octets of a sequence cut into characters and flaws. -/
def readings (octets : Octets) : List Reading :=
  readingsFrom none octets

/-- Octets that are no text: the first flaw, its octets, and how many octets precede it. -/
structure Undecodable where
  flaw : Flaw
  octets : Octets
  position : Nat
  deriving DecidableEq, Repr

/-- The characters of the pieces, or the first flaw with its position counted from `position`. -/
def charsFrom (position : Nat) : List Reading → Except (Flaw × Nat × Nat) (List Char)
  | [] => .ok []
  | .char c w :: rs => (charsFrom (position + w) rs).map (c :: ·)
  | .flaw kind w :: _ => .error (kind, position, w)

def decode (octets : Octets) : Except Undecodable String :=
  match charsFrom 0 (readings octets) with
  | .ok cs => .ok (String.ofList cs)
  | .error (kind, position, width) =>
    .error ⟨kind, (octets.drop position).take width, position⟩

/-- The text of the octets, each flaw read as the replacement character. -/
def decodeLossy (octets : Octets) : String :=
  String.ofList ((readings octets).map fun
    | .char c _ => c
    | .flaw _ _ => '\uFFFD')

/-- Every line end, of one or two characters, becomes a single line feed. -/
def unifyNewlines : List Char → List Char
  | [] => []
  | '\r' :: '\n' :: cs => '\n' :: unifyNewlines cs
  | c :: cs => (if c = '\r' then '\n' else c) :: unifyNewlines cs

/-- The text of a file: strict UTF-8 with its line ends unified. -/
def decodeFile (octets : Octets) : Except Undecodable String :=
  (decode octets).map fun text => String.ofList (unifyNewlines text.toList)

def hexOctet (b : UInt8) : String :=
  String.ofList [Nat.digitChar (b.toNat / 16), Nat.digitChar (b.toNat % 16)]

def Flaw.message : Flaw → String
  | .badStart => "invalid start byte"
  | .badContinuation => "invalid continuation byte"
  | .truncated => "unexpected end of data"

def Undecodable.message (e : Undecodable) : String :=
  match e.octets with
  | [b] => s!"'utf-8' codec can't decode byte 0x{hexOctet b} in position {e.position}: "
      ++ e.flaw.message
  | octets => s!"'utf-8' codec can't decode bytes in position {e.position}-"
      ++ s!"{e.position + octets.length - 1}: " ++ e.flaw.message

end LibraryCalls.Text
