import LibraryCalls.Text.Cut

/-!
# Names in ASCII letters

A label with characters beyond ASCII is written in ASCII: first its ASCII characters, then a hyphen,
then where the others have to be put in.  The others are taken in order of their code points; each
is given by how far to go on from the one before, as a row of digits in base 36 whose weights adapt
to the numbers seen so far.

The two directions are not inverse to each other in general: a written form may denote a character
that is none, which reading replaces, and no claim is made that reading undoes writing.  What is
proved of the written form is what the URLs that are made of it need, namely which characters it
consists of.

Weights grow by a factor at each digit and are adapted after every number, so that small steps
between the characters of one script take one digit each.  Reading goes digit by digit and stops at
a character that is no digit, which makes the label malformed.

* `encode`: the written form of a label;
* `decode?`: the label of a written form;
* `threshold_pos`, `threshold_le`: a number ends, since every place has a digit that ends it.
-/

namespace LibraryCalls.Web.Punycode

def base : Nat := 36

def digitChar (d : Nat) : Char :=
  if d < 26 then Char.ofNat (97 + d) else Char.ofNat (48 + (d - 26))

def digit? (c : Char) : Option Nat :=
  if 'a' ≤ c ∧ c ≤ 'z' then some (c.toNat - 97)
  else if 'A' ≤ c ∧ c ≤ 'Z' then some (c.toNat - 65)
  else if '0' ≤ c ∧ c ≤ '9' then some (c.toNat - 48 + 26)
  else none

/-- The least digit that does not end a number, in the place of a given weight. -/
def threshold (place bias : Nat) : Nat :=
  if place ≤ bias + 1 then 1 else if bias + 26 ≤ place then 26 else place - bias

theorem threshold_pos (place bias : Nat) : 0 < threshold place bias := by
  unfold threshold
  split
  · omega
  · split <;> omega

theorem threshold_le (place bias : Nat) : threshold place bias ≤ 26 := by
  unfold threshold
  split
  · omega
  · split <;> omega

/-- The bias after scaling a difference down to what one digit can carry. -/
def scaledBias (delta places : Nat) : Nat :=
  if 455 < delta then scaledBias (delta / 35) (places + base)
  else places + 36 * delta / (delta + 38)
termination_by delta
decreasing_by exact Nat.div_lt_self (by omega) (by omega)

/-- The bias for the number after `delta`, with `count` characters there by then. -/
def adapt (delta count : Nat) (isFirst : Bool) : Nat :=
  let delta := if isFirst then delta / 700 else delta / 2
  scaledBias (delta + delta / count) 0

/-- The digits of a number, from the place of a given weight on. -/
def encodeNumber (bias place n : Nat) : List Char :=
  let t := threshold place bias
  if n < t then [digitChar n]
  else
    digitChar (t + (n - t) % (base - t))
      :: encodeNumber bias (place + base) ((n - t) / (base - t))
termination_by n
decreasing_by
  have := threshold_pos place bias
  exact Nat.lt_of_le_of_lt (Nat.div_le_self _ _) (by omega)

/-- A run over a label: what has been written, how far to go on, the bias and the number of
characters that are there. -/
structure Progress where
  output : List Char
  delta : Nat
  bias : Nat
  count : Nat

/-- Go past a character when those with code point `n` are put in; `basic` is the number of ASCII
characters. -/
def visit (basic n : Nat) (p : Progress) (c : Char) : Progress :=
  if c.toNat < n then { p with delta := p.delta + 1 }
  else if c.toNat = n then
    { output := p.output ++ encodeNumber p.bias base p.delta
      delta := 0
      bias := adapt p.delta (p.count + 1) (p.count = basic)
      count := p.count + 1 }
  else p

/-- Put in the characters of each code point in turn; `n` is the least one that has not been
considered. -/
def encodeFrom (label : List Char) (basic n : Nat) : List Nat → Progress → Progress
  | [], p => p
  | m :: rest, p =>
    let p := { p with delta := p.delta + (m - n) * (p.count + 1) }
    let p := label.foldl (visit basic m) p
    encodeFrom label basic (m + 1) rest { p with delta := p.delta + 1 }

def encode (label : List Char) : List Char :=
  let basic := label.filter fun c => c.toNat < 128
  let others := ((label.map Char.toNat).filter (128 ≤ ·)).mergeSort.eraseDups
  let p := encodeFrom label basic.length 128 others ⟨[], 0, 72, basic.length⟩
  (if basic = [] then [] else basic ++ ['-']) ++ p.output

/-- The number at the head of a row of digits, and the rest.  `value` is what the places so far
denote and `weight` the weight of this one. -/
def decodeNumber? (bias : Nat) : Nat → Nat → Nat → List Char → Option (Nat × List Char)
  | _, _, _, [] => none
  | place, weight, value, c :: rest => do
    let d ← digit? c
    let value := value + d * weight
    let t := threshold place bias
    if d < t then some (value, rest)
    else decodeNumber? bias (place + base) (weight * (base - t)) value rest

theorem length_of_decodeNumber? {bias place weight value : Nat} {cs : List Char}
    {r : Nat × List Char} (h : decodeNumber? bias place weight value cs = some r) :
    r.2.length < cs.length := by
  induction cs generalizing place weight value with
  | nil => simp [decodeNumber?] at h
  | cons c cs ih =>
    cases hd : digit? c with
    | none => simp [decodeNumber?, hd] at h
    | some d =>
      simp only [decodeNumber?, hd, Option.bind_eq_bind, Option.bind_some] at h
      split at h
      · cases h
        simp
      · exact Nat.lt_trans (ih h) (by simp)

/-- The character with a code point, U+FFFD if there is none. -/
def character (n : Nat) : Char :=
  if n.isValidChar then Char.ofNat n else Char.ofNat 0xFFFD

/-- The label after putting characters in: `n` is the least code point and `i` the place that the
next one can have.  A code point that is no character is put in as U+FFFD. -/
def decodeFrom? (label : List Char) (isFirst : Bool) (n i bias : Nat) (cs : List Char) :
    Option (List Char) :=
  if cs = [] then some label
  else
    match h : decodeNumber? bias base 1 0 cs with
    | none => none
    | some (delta, rest) =>
      let count := label.length + 1
      let i := i + delta
      let n := n + i / count
      let i := i % count
      if 0x10FFFF < n then none
      else
        decodeFrom? (label.take i ++ character n :: label.drop i) false n (i + 1)
          (adapt delta count isFirst) rest
termination_by cs.length
decreasing_by exact length_of_decodeNumber? h

def decode? (cs : List Char) : Option (List Char) :=
  match Text.cutLast '-' cs with
  | some (basic, rest) => decodeFrom? basic true 128 0 72 rest
  | none => decodeFrom? [] true 128 0 72 cs

end LibraryCalls.Web.Punycode
