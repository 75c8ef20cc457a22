import LibraryCalls.Json.Decode
import LibraryCalls.Proofs.Json.Reordered

/-!
# Printed values are read again

The text of a plain value is one line, and reading it gives the value back, with the members of its
objects in the order of the text.  What is printed is made of characters, so that a reader finds the
code points of these in front of whatever follows, and no half of a surrogate pair among them.

The readers are structural in a fuel, and so the statement for values is about every fuel that is at
least the length of the text.  It is proved by induction on why the value is plain, with the claim
that the text is read wherever something follows that ends it: a comma, a closing bracket or brace,
the end of the line, or nothing.

Numbers with a fraction or an exponent are left out of this, since they are rounded, and so are
whole numbers that no reader would take.  Characters outside of ASCII stand for themselves in the
text and are found again as they are.

* `escapeChar_cases`: the three ways in which a character is written;
* `readString_renderString`: strings, whatever characters they hold;
* `readScalar_toString`: whole numbers;
* `Reads`: the text of a value is read wherever something follows that ends it;
* `reads_arr`, `reads_obj`, `reads`: lists, objects, and all plain values;
* `decode_print`, `toNat_of_mem_render`: a whole text, and its characters.
-/

namespace LibraryCalls.Json

open Text (points)

variable {cs : List Char} {rest : CodePoints}

/-! ### Strings -/

theorem hexValue?_digitChar_all :
    ∀ d ∈ List.range 16, hexValue? (Nat.digitChar d) = some d := by decide

theorem hexValue?_digitChar {d : Nat} (h : d < 16) : hexValue? (Nat.digitChar d) = some d :=
  hexValue?_digitChar_all d (List.mem_range.2 h)

theorem hexQuad?_hexQuad {n : Nat} (h : n < 0x10000) (p : CodePoint) (rest : CodePoints) :
    hexQuad? (points (hexQuad n) ++ p :: rest) = some (n, p :: rest) := by
  simp only [hexQuad, Text.points_cons, Text.points_nil, List.cons_append, List.nil_append,
    hexQuad?, hexValue?_digitChar (Nat.mod_lt _ (by decide : 0 < 16))]
  congr 2
  omega

/-- **How a character is written**: by a backslash and a letter, by a backslash and its number, or
as it is. -/
theorem escapeChar_cases (c : Char) :
    (∃ e, escapeChar c = ['\\', e] ∧ e ≠ 'u' ∧ 0x20 ≤ e.toNat ∧ simpleEscape? e = some c) ∨
      (escapeChar c = '\\' :: 'u' :: hexQuad c.toNat ∧ c.toNat < 0x20) ∨
      (escapeChar c = [c] ∧ c ≠ '"' ∧ c ≠ '\\' ∧ 0x20 ≤ c.toNat) := by
  by_cases hletter : c ∈ ['"', '\\', '\n', '\r', '\t', '\x08', '\x0c']
  · left
    simp only [List.mem_cons, List.not_mem_nil, or_false] at hletter
    rcases hletter with rfl | rfl | rfl | rfl | rfl | rfl | rfl
    all_goals exact ⟨_, rfl, by decide, by decide, by decide⟩
  · simp only [List.mem_cons, List.not_mem_nil, or_false, not_or] at hletter
    obtain ⟨hquote, hbackslash, hn, hr, ht, hb, hf⟩ := hletter
    by_cases hcontrol : c.toNat < 0x20
    · exact .inr (.inl ⟨by simp [escapeChar, *], hcontrol⟩)
    · exact .inr (.inr ⟨by simp [escapeChar, *], hquote, hbackslash, Nat.le_of_not_lt hcontrol⟩)

/-- The number of a control character is read as that character. -/
theorem readUnicodeEscape_hexQuad {c : Char} (h : c.toNat < 0x20) (p : CodePoint)
    (rest : CodePoints) :
    readUnicodeEscape (.char 'u' :: (points (hexQuad c.toNat) ++ p :: rest))
      = .ok (.char c, p :: rest) := by
  have hhigh : isHighSurrogate c.toNat = false := by
    simp only [isHighSurrogate, Bool.and_eq_false_iff, decide_eq_false_iff_not]
    omega
  have hchar : CodePoint.ofNat c.toNat = .char c := by
    rw [CodePoint.ofNat, dif_neg (by omega), Char.ofNat_toNat]
  rw [readUnicodeEscape, List.drop_succ_cons, List.drop_zero, hexQuad?_hexQuad (by omega)]
  simp [hhigh, hchar]

/-- A character that is no quote, no backslash and no control character stands for itself. -/
theorem readCharacters_plain {c : Char} (hquote : c ≠ '"') (hbackslash : c ≠ '\\')
    (hplain : 0x20 ≤ c.toNat) (opening : CodePoints) (fuel : Nat) (rest : CodePoints) :
    readCharacters opening (fuel + 1) (.char c :: rest)
      = (readCharacters opening fuel rest).map fun r => (.char c :: r.1, r.2) := by
  rw [readCharacters.eq_def]
  simp only
  split
  · next h => exact absurd h (List.cons_ne_nil _ _)
  · next h => exact absurd (CodePoint.char.inj (List.cons.inj h).1) hquote
  · next h => exact absurd (CodePoint.char.inj (List.cons.inj h).1) hbackslash
  · next h => exact absurd (CodePoint.char.inj (List.cons.inj h).1) hbackslash
  · next h => exact absurd (CodePoint.char.inj (List.cons.inj h).1) hbackslash
  · next h =>
    obtain ⟨rfl, rfl⟩ := List.cons.inj h
    exact if_neg (Nat.not_lt.2 hplain)

/-- A backslash and a letter are read as what they stand for. -/
theorem readCharacters_simpleEscape {c e : Char} (hu : e ≠ 'u') (h : simpleEscape? e = some c)
    (opening : CodePoints) (fuel : Nat) (rest : CodePoints) :
    readCharacters opening (fuel + 1) (.char '\\' :: .char e :: rest)
      = (readCharacters opening fuel rest).map fun r => (.char c :: r.1, r.2) := by
  rw [readCharacters, CodePoint.toChar, h]
  exact fun heq => hu (CodePoint.char.inj heq)

/-- **A written character is read as itself**, if its string goes on or ends behind it. -/
theorem readCharacters_escapeChar (opening : CodePoints) (fuel : Nat) (c : Char) (p : CodePoint)
    (rest : CodePoints) :
    readCharacters opening (fuel + 1) (points (escapeChar c) ++ p :: rest)
      = (readCharacters opening fuel (p :: rest)).map fun r => (.char c :: r.1, r.2) := by
  rcases escapeChar_cases c with ⟨e, hc, hu, -, he⟩ | ⟨hc, hcontrol⟩ |
    ⟨hc, hquote, hbackslash, hplain⟩
  · rw [hc]
    exact readCharacters_simpleEscape hu he opening fuel (p :: rest)
  · rw [hc, Text.points_cons, Text.points_cons, List.cons_append, List.cons_append, readCharacters,
      readUnicodeEscape_hexQuad hcontrol]
  · rw [hc]
    exact readCharacters_plain hquote hbackslash hplain opening fuel (p :: rest)

theorem escapeChar_ne_nil (c : Char) : escapeChar c ≠ [] := by
  rcases escapeChar_cases c with ⟨e, hc, -⟩ | ⟨hc, -⟩ | ⟨hc, -⟩
  all_goals
    rw [hc]
    exact List.cons_ne_nil _ _

/-- The characters of a string are read up to its closing quote. -/
theorem readCharacters_escape (opening rest : CodePoints) {fuel : Nat} (h : cs.length < fuel) :
    readCharacters opening fuel (points (cs.flatMap escapeChar) ++ .char '"' :: rest)
      = .ok (points cs, rest) := by
  induction cs generalizing fuel with
  | nil =>
    obtain ⟨fuel, rfl⟩ := Nat.exists_eq_succ_of_ne_zero (Nat.ne_of_gt h)
    rfl
  | cons c cs ih =>
    obtain ⟨fuel, rfl⟩ := Nat.exists_eq_succ_of_ne_zero (Nat.ne_of_gt (Nat.zero_lt_of_lt h))
    have hrest := ih (Nat.lt_of_succ_lt_succ h)
    -- something follows every character: the next one, or the closing quote
    obtain ⟨d, after, hafter⟩ :=
      List.exists_cons_of_ne_nil (l := points (cs.flatMap escapeChar) ++ .char '"' :: rest)
        (by simp)
    rw [List.flatMap_cons, Text.points_append, List.append_assoc, hafter, readCharacters_escapeChar,
      ← hafter, hrest]
    rfl

theorem length_le_length_escape (cs : List Char) : cs.length ≤ (cs.flatMap escapeChar).length := by
  induction cs with
  | nil => exact Nat.le_refl _
  | cons c cs ih =>
    have hpos := List.length_pos_of_ne_nil (escapeChar_ne_nil c)
    rw [List.flatMap_cons, List.length_append, List.length_cons]
    omega

/-- **A written string is read as itself.** -/
theorem readString_renderString (s : String) (rest : CodePoints) :
    readString (points (renderString s) ++ rest) = .ok (s, rest) := by
  have hwritten : points (renderString s) ++ rest
      = .char '"' :: (points (s.toList.flatMap escapeChar) ++ .char '"' :: rest) := by
    simp [renderString]
  have hlength := length_le_length_escape s.toList
  have hfuel : s.toList.length
      < (.char '"' :: (points (s.toList.flatMap escapeChar) ++ .char '"' :: rest)).length := by
    rw [List.length_cons, List.length_append, Text.length_points]
    omega
  rw [hwritten, readString, List.drop_succ_cons, List.drop_zero, readCharacters_escape _ rest hfuel]
  show Except.ok (Textual.ofPoints (points s.toList), rest) = _
  rw [Textual.ofPoints_points, String.ofList_toList]

/-! ### Whole numbers -/

theorem ofDigits_toDigits (n : Nat) : Numeral.ofDigits (Nat.toDigits 10 n) = n := by
  have hfold : ∀ cs init, cs.foldl (fun n c => n * 10 + Numeral.digitValue c) init
      = Nat.ofDigitChars 10 cs init := by
    intro cs init
    rw [Nat.ofDigitChars_eq_foldl]
    simp only [Numeral.digitValue, Nat.mul_comm 10]
    rfl
  rw [Numeral.ofDigits, hfold, Nat.ofDigitChars_ten_toDigits]

theorem head?_toDigits_ne_zero {n : Nat} (h : 0 < n) : (Nat.toDigits 10 n).head? ≠ some '0' := by
  induction n using Nat.strongRecOn with
  | ind n ih =>
    by_cases hn : n < 10
    · have hone : ∀ d ∈ List.range 10, 0 < d → Nat.digitChar d ≠ '0' := by decide
      rw [Nat.toDigits_of_lt_base hn, List.head?_cons]
      exact fun he => hone n (List.mem_range.2 hn) h (Option.some.inj he)
    · rw [Nat.toDigits_of_base_le (by decide) (Nat.le_of_not_lt hn),
        List.head?_append_of_ne_nil _ Nat.toDigits_ne_nil]
      exact ih (n / 10) (by omega) (by omega)

/-- What may follow a value: nothing, the end of the line, a comma, or a closing bracket or brace.
-/
inductive Delimited : CodePoints → Prop
  | nil : Delimited []
  | newline (after : CodePoints) : Delimited (.char '\n' :: after)
  | comma (after : CodePoints) : Delimited (.char ',' :: after)
  | bracket (after : CodePoints) : Delimited (.char ']' :: after)
  | brace (after : CodePoints) : Delimited (.char '}' :: after)

theorem leadingDigits_points (hdigits : ∀ c ∈ cs, isDigit c = true)
    (hrest : leadingDigits rest = ([], rest)) : leadingDigits (points cs ++ rest) = (cs, rest) := by
  induction cs with
  | nil => exact hrest
  | cons c cs ih =>
    rw [Text.points_cons, List.cons_append, leadingDigits, if_pos (hdigits c List.mem_cons_self),
      ih fun d hd => hdigits d (List.mem_cons_of_mem c hd)]

theorem wholeDigits_toDigits (n : Nat) (h : Delimited rest) :
    wholeDigits (points (Nat.toDigits 10 n) ++ rest) = some (Nat.toDigits 10 n, rest) := by
  have hdigits : ∀ c ∈ Nat.toDigits 10 n, isDigit c = true :=
    fun c hc => Nat.isDigit_of_mem_toDigits (by decide) (by decide) hc
  have hrest : leadingDigits rest = ([], rest) := by cases h <;> rfl
  rcases Nat.eq_zero_or_pos n with rfl | hpos
  · rw [Nat.toDigits_zero]
    rfl
  · rw [wholeDigits.eq_def]
    split
    · next after hhead =>
      obtain ⟨c, ds, hds⟩ := List.exists_cons_of_ne_nil (Nat.toDigits_ne_nil (n := n) (b := 10))
      rw [hds, Text.points_cons, List.cons_append] at hhead
      refine absurd ?_ (head?_toDigits_ne_zero hpos)
      rw [hds, List.head?_cons, CodePoint.char.inj (List.cons.inj hhead).1]
    · rw [digits?, leadingDigits_points hdigits hrest]
      exact if_neg Nat.toDigits_ne_nil

/-- The digits of a number that is not too long are read as it. -/
theorem readUnsigned_toDigits (start : CodePoints) (negative : Bool) {n : Nat}
    (hfits : Numeral.width n ≤ Text.maxDigits) (h : Delimited rest) :
    readUnsigned start negative (points (Nat.toDigits 10 n) ++ rest)
      = .ok ((.int (if negative then -n else n) : Json), rest) := by
  have hfraction : fractionDigits rest = none := by cases h <;> rfl
  have hexponent : exponentPart rest = none := by cases h <;> rfl
  simp only [readUnsigned, wholeDigits_toDigits n h, hfraction, hexponent, ofDigits_toDigits]
  exact if_neg (Nat.not_lt.2 hfits)

theorem toList_toString_ofNat (n : Nat) : (toString (Int.ofNat n)).toList = Nat.toDigits 10 n :=
  Nat.toList_repr

theorem toList_toString_negSucc (n : Nat) :
    (toString (Int.negSucc n)).toList = '-' :: Nat.toDigits 10 (n + 1) := by
  show ("-" ++ (n + 1).repr).toList = _
  rw [String.toList_append, Nat.toList_repr]
  rfl

theorem exists_cons_toDigits (n : Nat) :
    ∃ c ds, Nat.toDigits 10 n = c :: ds ∧ isDigit c = true := by
  obtain ⟨c, ds, hds⟩ := List.exists_cons_of_ne_nil (Nat.toDigits_ne_nil (n := n) (b := 10))
  refine ⟨c, ds, hds, ?_⟩
  exact Nat.isDigit_of_mem_toDigits (by decide) (by decide) (hds ▸ List.mem_cons_self)

theorem ne_of_isDigit {c d : Char} (h : isDigit c = true) (hd : isDigit d = false) : c ≠ d := by
  rintro rfl
  rw [h] at hd
  cases hd

/-- A text that begins with no word is read as a number. -/
theorem readScalar_of_no_word {cs : CodePoints}
    (h : ∀ w : String × Json, w ∈ words → (points w.1.toList).isPrefixOf cs = false) :
    (readScalar cs : Except Fault (Json × CodePoints)) = readNumber cs := by
  rw [readScalar]
  split
  · next r hr =>
    obtain ⟨w, hw, hfound⟩ := List.exists_of_findSome?_eq_some hr
    simp [afterWord, h w hw] at hfound
  · rfl

theorem isPrefixOf_cons_of_ne {c d : Char} (h : c ≠ d) (ds : List Char) (es : CodePoints) :
    (points (c :: ds)).isPrefixOf (.char d :: es) = false := by
  rw [Text.points_cons, List.isPrefixOf, beq_false_of_ne fun heq => h (CodePoint.char.inj heq),
    Bool.false_and]

/-- A digit begins no word, -/
theorem readScalar_digit {c : Char} (h : isDigit c = true) (ds : CodePoints) :
    (readScalar (.char c :: ds) : Except Fault (Json × CodePoints))
      = readNumber (.char c :: ds) := by
  refine readScalar_of_no_word fun w hw => ?_
  simp only [words, List.mem_cons, List.not_mem_nil, or_false] at hw
  rcases hw with rfl | rfl | rfl | rfl | rfl | rfl
  all_goals exact isPrefixOf_cons_of_ne (ne_of_isDigit h (by decide)).symm _ _

/-- nor does it behind a minus sign. -/
theorem readScalar_minus {c : Char} (h : isDigit c = true) (ds : CodePoints) :
    (readScalar (.char '-' :: .char c :: ds) : Except Fault (Json × CodePoints))
      = readNumber (.char '-' :: .char c :: ds) := by
  refine readScalar_of_no_word fun w hw => ?_
  simp only [words, List.mem_cons, List.not_mem_nil, or_false] at hw
  rcases hw with rfl | rfl | rfl | rfl | rfl | rfl
  case inr.inr.inr.inr.inr =>
    -- the only word with a minus sign goes on with a letter
    show ((CodePoint.char '-' == .char '-') && (points "Infinity".toList).isPrefixOf _) = false
    rw [show "Infinity".toList = 'I' :: "nfinity".toList from rfl,
      isPrefixOf_cons_of_ne (ne_of_isDigit h (by decide)).symm, Bool.and_false]
  all_goals exact isPrefixOf_cons_of_ne (by decide) _ _

/-- **A written whole number is read as itself**, where something follows that ends it. -/
theorem readScalar_toString {n : Int} (hfits : Numeral.width n.natAbs ≤ Text.maxDigits)
    (h : Delimited rest) :
    readScalar (points (toString n).toList ++ rest) = .ok ((.int n : Json), rest) := by
  cases n with
  | ofNat n =>
    have hwidth : Numeral.width n ≤ Text.maxDigits := hfits
    obtain ⟨c, ds, hds, hdigit⟩ := exists_cons_toDigits n
    rw [toList_toString_ofNat, hds, Text.points_cons, List.cons_append, readScalar_digit hdigit,
      readNumber.eq_def]
    split
    · next hminus =>
      exact absurd (CodePoint.char.inj (List.cons.inj hminus).1) (ne_of_isDigit hdigit (by decide))
    · rw [← List.cons_append, ← Text.points_cons, ← hds, readUnsigned_toDigits _ _ hwidth h]
      rfl
  | negSucc n =>
    have hwidth : Numeral.width (n + 1) ≤ Text.maxDigits := hfits
    obtain ⟨c, ds, hds, hdigit⟩ := exists_cons_toDigits (n + 1)
    rw [toList_toString_negSucc, hds, Text.points_cons, Text.points_cons, List.cons_append,
      List.cons_append, readScalar_minus hdigit, readNumber, ← List.cons_append, ← Text.points_cons,
      ← hds, readUnsigned_toDigits _ _ hwidth h]
    rfl

/-! ### Lists and objects -/

/-- A value is read from its text, with its members in order, wherever something follows that ends
it; as many steps as the text has characters are enough. -/
def Reads (j : Json) : Prop :=
  ∀ (fuel : Nat) (rest : CodePoints), (render j).length ≤ fuel → Delimited rest →
    readValue fuel (points (render j) ++ rest) = .ok (sorted j, rest)

theorem skipSpaces_cons {p : CodePoint} (h : isSpace p = false) (cs : CodePoints) :
    skipSpaces (p :: cs) = p :: cs := by
  rw [skipSpaces, List.dropWhile_cons_of_neg (by rw [h]; exact Bool.false_ne_true)]

/-- The text of a value begins with a character that is neither a space nor a closing bracket nor a
byte order mark. -/
theorem exists_cons_render {j : Json} (h : Plain j) :
    ∃ c cs, render j = c :: cs ∧ isSpace (.char c) = false ∧ c ≠ ']' ∧ c ≠ '\uFEFF' := by
  cases h with
  | null => exact ⟨_, _, rfl, by decide, by decide, by decide⟩
  | bool b => cases b <;> exact ⟨_, _, rfl, by decide, by decide, by decide⟩
  | @int n _ =>
    cases n with
    | ofNat n =>
      obtain ⟨c, ds, hds, hdigit⟩ := exists_cons_toDigits n
      refine ⟨c, ds, by rw [render, toList_toString_ofNat, hds], ?_,
        ne_of_isDigit hdigit (by decide), ne_of_isDigit hdigit (by decide)⟩
      have hspaces : c ≠ ' ' ∧ c ≠ '\t' ∧ c ≠ '\n' ∧ c ≠ '\r' :=
        ⟨ne_of_isDigit hdigit (by decide), ne_of_isDigit hdigit (by decide),
          ne_of_isDigit hdigit (by decide), ne_of_isDigit hdigit (by decide)⟩
      simp [isSpace, hspaces]
    | negSucc n => exact ⟨_, _, toList_toString_negSucc n, by decide, by decide, by decide⟩
  | str s => exact ⟨_, _, rfl, by decide, by decide, by decide⟩
  | arr => exact ⟨_, _, rfl, by decide, by decide, by decide⟩
  | obj => exact ⟨_, _, rfl, by decide, by decide, by decide⟩

/-- Only readings with a step to take are of interest, for no text is empty. -/
theorem Reads.of_succ {j : Json} (h : Plain j)
    (hread : ∀ fuel rest, (render j).length ≤ fuel + 1 → Delimited rest →
      readValue (fuel + 1) (points (render j) ++ rest) = .ok (sorted j, rest)) : Reads j := by
  intro fuel rest hfuel hrest
  obtain ⟨c, cs, hj, -⟩ := exists_cons_render h
  cases fuel with
  | zero =>
    rw [hj] at hfuel
    exact absurd hfuel (Nat.not_succ_le_zero _)
  | succ fuel => exact hread fuel rest hfuel hrest

theorem exists_cons_commaSeparated (c : Char) (cs : List Char) (texts : List (List Char)) :
    ∃ after, commaSeparated ((c :: cs) :: texts) = c :: after := by
  cases texts with
  | nil => exact ⟨cs, rfl⟩
  | cons text texts => exact ⟨_, rfl⟩

theorem skipSpaces_commaSeparated {c : Char} (h : isSpace (.char c) = false) (cs : List Char)
    (texts : List (List Char)) (rest : CodePoints) :
    skipSpaces (points (commaSeparated ((c :: cs) :: texts)) ++ rest)
      = points (commaSeparated ((c :: cs) :: texts)) ++ rest := by
  obtain ⟨after, hafter⟩ := exists_cons_commaSeparated c cs texts
  rw [hafter, Text.points_cons, List.cons_append, skipSpaces_cons h]

/-- The written items of a list are read one by one. -/
theorem readItems_commaSeparated {j : Json} {items : List Json}
    (hreads : ∀ k ∈ j :: items, Plain k ∧ Reads k) (fuel : Nat) (rest : CodePoints)
    (hfuel : (commaSeparated ((j :: items).map render)).length < fuel) :
    readItems fuel (points (commaSeparated ((j :: items).map render)) ++ .char ']' :: rest)
      = .ok ((j :: items).map sorted, rest) := by
  induction items generalizing j fuel with
  | nil =>
    obtain ⟨fuel, rfl⟩ := Nat.exists_eq_succ_of_ne_zero (Nat.ne_of_gt (Nat.zero_lt_of_lt hfuel))
    have hj := (hreads j List.mem_cons_self).2 fuel (.char ']' :: rest) (Nat.le_of_lt_succ hfuel)
      (.bracket rest)
    simp only [List.map_cons, List.map_nil, commaSeparated, readItems, hj]
    rfl
  | cons k items ih =>
    obtain ⟨fuel, rfl⟩ := Nat.exists_eq_succ_of_ne_zero (Nat.ne_of_gt (Nat.zero_lt_of_lt hfuel))
    have hwritten : commaSeparated ((j :: k :: items).map render)
        = render j ++ ',' :: commaSeparated ((k :: items).map render) := rfl
    rw [hwritten, List.length_append, List.length_cons] at hfuel
    have hj := (hreads j List.mem_cons_self).2 fuel
      (.char ',' :: (points (commaSeparated ((k :: items).map render)) ++ .char ']' :: rest))
      (by omega) (.comma _)
    have hitems := ih (j := k) (fun l hl => hreads l (List.mem_cons_of_mem _ hl)) fuel (by omega)
    have hskip : skipSpaces (points (commaSeparated ((k :: items).map render)) ++ .char ']' :: rest)
        = points (commaSeparated ((k :: items).map render)) ++ .char ']' :: rest := by
      obtain ⟨c, cs, hk, hspace, -⟩ :=
        exists_cons_render (hreads k (List.mem_cons_of_mem _ List.mem_cons_self)).1
      rw [List.map_cons, hk, skipSpaces_commaSeparated hspace]
    rw [hwritten, Text.points_append, Text.points_cons, List.append_assoc, List.cons_append,
      readItems, hj]
    show (readItems fuel (skipSpaces _)).map _ = _
    rw [hskip, hitems]
    rfl

theorem reads_arr {items : List Json} (hreads : ∀ k ∈ items, Plain k ∧ Reads k) :
    Reads (.arr items) := by
  refine .of_succ (.arr fun j hj => (hreads j hj).1) fun fuel rest hfuel _ => ?_
  rw [render, renderItems_eq_map, List.length_append, List.length_cons, List.length_singleton]
    at hfuel
  rw [render, renderItems_eq_map, sorted, sortedItems_eq_map, List.cons_append, Text.points_cons,
    Text.points_append, List.cons_append, List.append_assoc, Text.points_cons, Text.points_nil,
    List.singleton_append]
  cases items with
  | nil => rfl
  | cons j items =>
    obtain ⟨c, cs, hj, hspace, hbracket, -⟩ := exists_cons_render (hreads j List.mem_cons_self).1
    obtain ⟨after, hafter⟩ := exists_cons_commaSeparated c cs (items.map render)
    have hitems := readItems_commaSeparated hreads fuel rest (by omega)
    rw [List.map_cons, hj, hafter, Text.points_cons, List.cons_append] at hitems ⊢
    rw [readValue, skipSpaces_cons hspace]
    split
    · next hempty => exact absurd (CodePoint.char.inj (List.cons.inj hempty).1) hbracket
    · rw [hitems]
      rfl

/-- The members of an object as they are written, in the order in which they stand. -/
def memberTexts (members : List (String × Json)) : List (List Char) :=
  members.map fun m => renderMember (m.1, render m.2)

/-- The text of a member is its name, a colon and the text of its value. -/
theorem readMembers_renderMember {m : String × Json} (hplain : Plain m.2) (hreads : Reads m.2)
    {fuel : Nat} (hfuel : (render m.2).length ≤ fuel) :
    (∀ rest, readMembers (fuel + 1) (points (renderMember (m.1, render m.2)) ++ .char '}' :: rest)
      = .ok ([(m.1, sorted m.2)], rest)) ∧
    ∀ p rest, isSpace p = false →
      readMembers (fuel + 1) (points (renderMember (m.1, render m.2)) ++ .char ',' :: p :: rest)
        = (readMembers fuel (p :: rest)).map fun r => ((m.1, sorted m.2) :: r.1, r.2) := by
  -- the name, the colon and the value are read in the same way, whatever follows
  have hname : ∀ rest, readString (points (renderMember (m.1, render m.2)) ++ rest)
      = .ok (m.1, .char ':' :: (points (render m.2) ++ rest)) := by
    intro rest
    rw [renderMember, Text.points_append, Text.points_cons, List.append_assoc, List.cons_append,
      readString_renderString]
  have hvalue : ∀ rest, Delimited rest →
      readValue fuel (skipSpaces (points (render m.2) ++ rest)) = .ok (sorted m.2, rest) := by
    intro rest hrest
    obtain ⟨c, cs, hc, hspace, -⟩ := exists_cons_render hplain
    rw [hc, Text.points_cons, List.cons_append, skipSpaces_cons hspace, ← List.cons_append,
      ← Text.points_cons, ← hc]
    exact hreads fuel rest hfuel hrest
  have hcolon : ∀ cs, skipSpaces (.char ':' :: cs) = .char ':' :: cs := skipSpaces_cons (by decide)
  have hfirst : ∀ rest, ∃ cs, points (renderMember (m.1, render m.2)) ++ rest = .char '"' :: cs :=
    fun _ => ⟨_, rfl⟩
  constructor
  · intro rest
    obtain ⟨cs, hcs⟩ := hfirst (.char '}' :: rest)
    rw [hcs, readMembers, ← hcs, hname]
    simp only [hcolon, hvalue _ (.brace rest),
      skipSpaces_cons (by decide : isSpace (.char '}') = false)]
  · intro p rest hspace
    obtain ⟨cs, hcs⟩ := hfirst (.char ',' :: p :: rest)
    rw [hcs, readMembers, ← hcs, hname]
    simp only [hcolon, hvalue _ (.comma (p :: rest)), skipSpaces_cons hspace,
      skipSpaces_cons (by decide : isSpace (.char ',') = false)]

/-- The written members of an object are read one by one. -/
theorem readMembers_commaSeparated {m : String × Json} {members : List (String × Json)}
    (hreads : ∀ n ∈ m :: members, Plain n.2 ∧ Reads n.2) (fuel : Nat) (rest : CodePoints)
    (hfuel : (commaSeparated (memberTexts (m :: members))).length < fuel) :
    readMembers fuel (points (commaSeparated (memberTexts (m :: members))) ++ .char '}' :: rest)
      = .ok ((m :: members).map (Prod.map id sorted), rest) := by
  induction members generalizing m fuel with
  | nil =>
    obtain ⟨fuel, rfl⟩ := Nat.exists_eq_succ_of_ne_zero (Nat.ne_of_gt (Nat.zero_lt_of_lt hfuel))
    obtain ⟨hplain, hm⟩ := hreads m List.mem_cons_self
    have hlength : (render m.2).length ≤ fuel := by
      simp only [memberTexts, List.map_cons, List.map_nil, commaSeparated, renderMember,
        List.length_append, List.length_cons] at hfuel
      omega
    exact (readMembers_renderMember hplain hm hlength).1 rest
  | cons n members ih =>
    obtain ⟨fuel, rfl⟩ := Nat.exists_eq_succ_of_ne_zero (Nat.ne_of_gt (Nat.zero_lt_of_lt hfuel))
    obtain ⟨hplain, hm⟩ := hreads m List.mem_cons_self
    have hwritten : commaSeparated (memberTexts (m :: n :: members))
        = renderMember (m.1, render m.2) ++ ',' :: commaSeparated (memberTexts (n :: members)) :=
      rfl
    rw [hwritten, renderMember, List.length_append, List.length_append, List.length_cons,
      List.length_cons] at hfuel
    have hlength : (render m.2).length ≤ fuel := by
      simp only at hfuel
      omega
    have hmembers := ih (m := n) (fun l hl => hreads l (List.mem_cons_of_mem _ hl)) fuel (by omega)
    obtain ⟨after, hafter⟩ := exists_cons_commaSeparated '"'
      (n.1.toList.flatMap escapeChar ++ ['"'] ++ ':' :: render n.2) (memberTexts members)
    have hfirst : commaSeparated (memberTexts (n :: members)) = '"' :: after := hafter
    rw [hfirst, Text.points_cons, List.cons_append] at hmembers
    rw [hwritten, hfirst, Text.points_append, Text.points_cons, Text.points_cons, List.append_assoc,
      List.cons_append, List.cons_append,
      (readMembers_renderMember hplain hm hlength).2 _ _ (by decide), hmembers]
    rfl

theorem reads_obj {members : List (String × Json)} (hdistinct : (Assoc.keys members).Nodup)
    (hreads : ∀ m ∈ members, Plain m.2 ∧ Reads m.2) : Reads (.obj members) := by
  refine .of_succ (.obj hdistinct fun m hm => (hreads m hm).1) fun fuel rest hfuel _ => ?_
  have hwritten : render (.obj members)
      = '{' :: commaSeparated (memberTexts (members.mergeSort memberOrder)) ++ ['}'] :=
    render_obj members
  have hsortedDistinct : (Assoc.keys (members.mergeSort memberOrder)).Nodup :=
    (keys_mergeSort_perm members).nodup_iff.2 hdistinct
  have hsortedReads : ∀ m ∈ members.mergeSort memberOrder, Plain m.2 ∧ Reads m.2 :=
    fun m hm => hreads m (List.mem_mergeSort.1 hm)
  rw [hwritten, List.length_append, List.length_cons, List.length_singleton] at hfuel
  rw [hwritten, sorted_obj, List.cons_append, Text.points_cons, Text.points_append,
    List.cons_append, List.append_assoc, Text.points_cons, Text.points_nil, List.singleton_append]
  generalize members.mergeSort memberOrder = ordered at *
  cases ordered with
  | nil => rfl
  | cons m ordered =>
    obtain ⟨after, hafter⟩ := exists_cons_commaSeparated '"'
      (m.1.toList.flatMap escapeChar ++ ['"'] ++ ':' :: render m.2) (memberTexts ordered)
    have hfirst : commaSeparated (memberTexts (m :: ordered)) = '"' :: after := hafter
    have hmembers := readMembers_commaSeparated hsortedReads fuel rest (by omega)
    rw [hfirst, Text.points_cons, List.cons_append] at hmembers ⊢
    rw [readValue, skipSpaces_cons (by decide)]
    show (readMembers fuel _).map _ = _
    rw [hmembers]
    show Except.ok (Json.obj (Assoc.ofPairs _), rest) = _
    rw [show Assoc.ofPairs ((m :: ordered).map (Prod.map id sorted)) = _ from
      Assoc.setAll_of_nodup (m := []) (by rwa [List.nil_append, keys_map_values])]
    rfl

/-! ### Plain values -/

/-- A value that begins with no quote, bracket or brace is a single word or number. -/
theorem readValue_of_head {c : Char} (hquote : c ≠ '"') (hbracket : c ≠ '[') (hbrace : c ≠ '{')
    (fuel : Nat) (cs : CodePoints) :
    (readValue (fuel + 1) (.char c :: cs) : Except Fault (Json × CodePoints))
      = readScalar (.char c :: cs) := by
  rw [readValue]
  all_goals
    intro rest hcs
    have hc := CodePoint.char.inj (List.cons.inj hcs).1
    first
      | exact hquote hc
      | exact hbracket hc
      | exact hbrace hc

theorem reads_int {n : Int} (hfits : Numeral.width n.natAbs ≤ Text.maxDigits) :
    Reads (.int n) := by
  refine .of_succ (.int hfits) fun fuel rest _ hrest => ?_
  have hread := readScalar_toString hfits hrest
  show readValue (fuel + 1) (points (toString n).toList ++ rest) = .ok (.int n, rest)
  cases n with
  | ofNat n =>
    obtain ⟨c, ds, hds, hdigit⟩ := exists_cons_toDigits n
    rw [toList_toString_ofNat, hds, Text.points_cons, List.cons_append] at hread ⊢
    rw [readValue_of_head (ne_of_isDigit hdigit (by decide)) (ne_of_isDigit hdigit (by decide))
      (ne_of_isDigit hdigit (by decide)), hread]
  | negSucc n =>
    rw [toList_toString_negSucc, Text.points_cons, List.cons_append] at hread ⊢
    rw [readValue_of_head (by decide) (by decide) (by decide), hread]

/-- **Every plain value is read from its text.**  The induction is on why the value is plain, which
follows how values are built. -/
theorem reads {j : Json} (h : Plain j) : Reads j := by
  induction h with
  | null => exact .of_succ .null fun _ _ _ _ => rfl
  | bool b => exact .of_succ (.bool b) fun _ _ _ _ => by cases b <;> rfl
  | int hfits => exact reads_int hfits
  | str s =>
    refine .of_succ (.str s) fun fuel rest _ _ => ?_
    show (readString (points (renderString s) ++ rest)).map _ = _
    rw [readString_renderString]
    rfl
  | arr hplain ih => exact reads_arr fun j hj => ⟨hplain j hj, ih j hj⟩
  | obj hdistinct hplain ih => exact reads_obj hdistinct fun m hm => ⟨hplain m hm, ih m hm⟩

/-- **A text with nothing but blanks behind the value is the value**, with its members in order. -/
theorem readText_render {j : Json} (h : Plain j) (hrest : Delimited rest)
    (hblank : skipSpaces rest = []) : readText (points (render j) ++ rest) = .ok (sorted j) := by
  obtain ⟨c, cs, hj, hspace, -, hmark⟩ := exists_cons_render h
  have hfuel : (render j).length ≤ 2 * (points (render j) ++ rest).length + 2 := by
    rw [List.length_append, Text.length_points]
    omega
  have hread := reads h _ rest hfuel hrest
  rw [hj, Text.points_cons, List.cons_append] at hread ⊢
  rw [readText.eq_def]
  split
  · next hbom => exact absurd (CodePoint.char.inj (List.cons.inj hbom).1) hmark
  · rw [skipSpaces_cons hspace, hread]
    simp only [hblank]

/-- **Reading undoes printing**, but for the order of members. -/
theorem decode_print {j : Json} (h : Plain j) : decode j.print = .ok (sorted j) := by
  have hread := readText_render h .nil rfl
  rw [List.append_nil] at hread
  rw [decode, print, Textual.toPoints_string, String.toList_ofList, hread]
  rfl

/-- A printed line is read as well. -/
theorem decode_print_newline {j : Json} (h : Plain j) :
    decode (j.print ++ "\n") = .ok (sorted j) := by
  have hread := readText_render h (.newline []) rfl
  rw [decode, print, Textual.toPoints_string, String.toList_append, String.toList_ofList,
    Text.points_append]
  show (readText (points (render j) ++ [.char '\n'])).mapError _ = _
  rw [hread]
  rfl

/-! ### Characters -/

theorem le_toNat_digitChar : ∀ d ∈ List.range 16, 0x20 ≤ (Nat.digitChar d).toNat := by decide

theorem toNat_of_mem_escapeChar {c d : Char} (h : d ∈ escapeChar c) : 0x20 ≤ d.toNat := by
  rcases escapeChar_cases c with ⟨e, hc, -, hplain, -⟩ | ⟨hc, -⟩ | ⟨hc, -, -, hplain⟩
  · rw [hc, List.mem_cons, List.mem_singleton] at h
    rcases h with rfl | rfl
    · decide
    · exact hplain
  · have hdigit : ∀ n, 0x20 ≤ (Nat.digitChar (n % 16)).toNat := fun n =>
      le_toNat_digitChar _ (List.mem_range.2 (Nat.mod_lt _ (by decide)))
    simp only [hc, hexQuad, List.mem_cons, List.not_mem_nil, or_false] at h
    rcases h with rfl | rfl | rfl | rfl | rfl | rfl
    · decide
    · decide
    all_goals exact hdigit _
  · rw [hc, List.mem_singleton] at h
    exact h ▸ hplain

theorem toNat_of_mem_renderString {s : String} {c : Char} (h : c ∈ renderString s) :
    0x20 ≤ c.toNat := by
  simp only [renderString, List.cons_append, List.mem_cons, List.mem_append, List.mem_flatMap,
    List.not_mem_nil, or_false] at h
  rcases h with rfl | ⟨d, -, hd⟩ | rfl
  · decide
  · exact toNat_of_mem_escapeChar hd
  · decide

theorem mem_of_mem_commaSeparated {texts : List (List Char)} {c : Char}
    (h : c ∈ commaSeparated texts) : c = ',' ∨ ∃ text ∈ texts, c ∈ text := by
  induction texts with
  | nil => exact absurd h List.not_mem_nil
  | cons text texts ih =>
    cases texts with
    | nil => exact .inr ⟨text, List.mem_cons_self, h⟩
    | cons text' texts =>
      rw [commaSeparated, List.mem_append, List.mem_cons] at h
      · rcases h with htext | hcomma | hrest
        · exact .inr ⟨text, List.mem_cons_self, htext⟩
        · exact .inl hcomma
        · exact (ih hrest).imp_right fun ⟨t, ht, hc⟩ => ⟨t, List.mem_cons_of_mem _ ht, hc⟩
      · exact List.cons_ne_nil _ _

theorem le_toNat_of_all (h : cs.all (fun c => 0x20 ≤ c.toNat) = true) : ∀ c ∈ cs, 0x20 ≤ c.toNat :=
  fun c hc => of_decide_eq_true (List.all_eq_true.1 h c hc)

/-- **No character of a text is a control character**: it is one line, and holds no tab and no
terminal sequence. -/
theorem toNat_of_mem_render {j : Json} (h : Plain j) : ∀ c ∈ render j, 0x20 ≤ c.toNat := by
  induction h with
  | null => exact le_toNat_of_all (by decide)
  | bool b => cases b <;> exact le_toNat_of_all (by decide)
  | @int n _ =>
    have hdigits : ∀ n, ∀ c ∈ Nat.toDigits 10 n, 0x20 ≤ c.toNat := by
      intro n c hc
      have hdigit := Nat.isDigit_of_mem_toDigits (by decide) (by decide) hc
      have hzero := Char.isDigit_iff_toNat.1 hdigit
      exact Nat.le_trans (by decide) hzero.1
    cases n with
    | ofNat n =>
      rw [render, toList_toString_ofNat]
      exact hdigits n
    | negSucc n =>
      rw [render, toList_toString_negSucc]
      exact List.forall_mem_cons.2 ⟨by decide, hdigits (n + 1)⟩
  | str s => exact fun c hc => toNat_of_mem_renderString hc
  | @arr items _ ih =>
    intro c hc
    rw [render, renderItems_eq_map, List.cons_append, List.mem_cons, List.mem_append,
      List.mem_singleton] at hc
    rcases hc with rfl | hc | rfl
    · decide
    · obtain rfl | ⟨text, htext, hc⟩ := mem_of_mem_commaSeparated hc
      · decide
      · obtain ⟨j, hj, rfl⟩ := List.mem_map.1 htext
        exact ih j hj c hc
    · decide
  | @obj members _ _ ih =>
    intro c hc
    rw [render_obj, List.cons_append, List.mem_cons, List.mem_append, List.mem_singleton] at hc
    rcases hc with rfl | hc | rfl
    · decide
    · obtain rfl | ⟨text, htext, hc⟩ := mem_of_mem_commaSeparated hc
      · decide
      · obtain ⟨m, hm, rfl⟩ := List.mem_map.1 htext
        rw [renderMember, List.mem_append, List.mem_cons] at hc
        rcases hc with hname | rfl | hvalue
        · exact toNat_of_mem_renderString hname
        · decide
        · exact ih m (List.mem_mergeSort.1 hm) c hvalue
    · decide

end LibraryCalls.Json
