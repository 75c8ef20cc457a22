/-!
# Blank characters and trimming

Which characters count as blank, and the removal of blanks at the two ends of a text.  The set is
the one of Unicode's white space together with the four separators U+001C to U+001F; it is wider
than the six characters that `Char.isWhitespace` knows.

Every other notion of white space in this library is defined from this one, by name, where it
differs.  A text is trimmed character by character from either end, so that the blanks inside of it
stay; a text of blanks only is trimmed to nothing.  The facts about trimming that the theory of
calls needs, such as what becomes of blanks around a trimmed text, are in
`LibraryCalls.Proofs.Text.Trim`.

* `isBlank`: membership in the set;
* `trim`: a text without its outer blanks;
* `Trimmed`: the texts that `trim` leaves alone;
* `trimStart`, `trimEnd`: the two halves of `trim`.
-/

namespace LibraryCalls.Text

/-- A blank separates words: tabs and line ends, the file, group, record and unit separators, the
space, and the spaces and line ends of other scripts. -/
def isBlank (c : Char) : Bool :=
  let n := c.toNat
  (0x09 ≤ n && n ≤ 0x0D) || (0x1C ≤ n && n ≤ 0x20) || n == 0x85 || n == 0xA0 || n == 0x1680
    || (0x2000 ≤ n && n ≤ 0x200A) || n == 0x2028 || n == 0x2029 || n == 0x202F || n == 0x205F
    || n == 0x3000

/-- The text from its first character that is not blank. -/
def trimStart (cs : List Char) : List Char :=
  cs.dropWhile isBlank

/-- The text up to its last character that is not blank. -/
def trimEnd (cs : List Char) : List Char :=
  (cs.reverse.dropWhile isBlank).reverse

/-- The text without the blanks at its two ends. -/
def trim (cs : List Char) : List Char :=
  trimEnd (trimStart cs)

theorem trim_nil : trim [] = [] := rfl

/-- A text is trimmed when no blank stands at either end. -/
def Trimmed (cs : List Char) : Prop :=
  (∀ c ∈ cs.head?, isBlank c = false) ∧ (∀ c ∈ cs.getLast?, isBlank c = false)

instance (cs : List Char) : Decidable (Trimmed cs) :=
  decidable_of_iff
    (cs.head?.all (fun c => !isBlank c) = true ∧ cs.getLast?.all (fun c => !isBlank c) = true)
    (by simp [Trimmed, Option.all_eq_true])

end LibraryCalls.Text
