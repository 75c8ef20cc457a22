import LibraryCalls.Json.Decode
import Mathlib.Data.List.TakeWhile

/-!
# Readers stay within their text

A reader of JSON leaves an end of the text that it is given, and places a fault at one.  It
complains about the digits of a whole number only if that many stand in the text in a row.

The statement about a single reader has three parts, one for each way in which it can end, and it is
kept under composition: what is read behind a part of a text is read within the text.  So each
reader is treated by the readers it calls, and the three that call each other by an induction on the
fuel they share.

Its use is to trace the one fault that is about digits back to the text: if no long row of digits
stands there, this fault cannot come up, whatever else is wrong.

* `Oversized`: a row of digits in a text, longer than a whole number may be;
* `Within`, `Within.cases`: what can come of reading a text;
* `within_readString`, `within_readScalar`, `within_readers`: every reader stays within its text,
  whatever type of texts the strings in it become;
* `within_readText`, `decode_oversized`: the same for a whole text.
-/

namespace LibraryCalls.Json

open Text (points)

/-- A row of `n` digits stands in the text, and that is more than a whole number may have. -/
def Oversized (cs : CodePoints) (n : Nat) : Prop :=
  Text.maxDigits < n ∧
    ∃ digits, points digits <:+: cs ∧ digits.length = n ∧ ∀ c ∈ digits, isDigit c = true

/-- What can come of reading a text: the rest is an end of it, a problem stands at an end of it, and
a number that is too long stands in it. -/
def Within {α : Type} (cs : CodePoints) : Except Fault (α × CodePoints) → Prop
  | .ok (_, rest) => rest <:+ cs
  | .error (.malformed _ remaining) => remaining <:+ cs
  | .error (.oversizedInteger n) => Oversized cs n

variable {τ α γ : Type} {cs text : CodePoints}

theorem Oversized.mono {n : Nat} (h : Oversized cs n) (hsuffix : cs <:+ text) :
    Oversized text n := by
  obtain ⟨hlt, digits, hinfix, hdigits⟩ := h
  exact ⟨hlt, digits, hinfix.trans hsuffix.isInfix, hdigits⟩

/-- Reading an end of a text is reading within the text. -/
theorem Within.mono {x : Except Fault (α × CodePoints)} (h : Within cs x) (hsuffix : cs <:+ text) :
    Within text x := by
  match x, h with
  | .ok (_, rest), h => exact List.IsSuffix.trans h hsuffix
  | .error (.malformed _ _), h => exact List.IsSuffix.trans h hsuffix
  | .error (.oversizedInteger _), h => exact Oversized.mono h hsuffix

theorem Within.map {x : Except Fault (α × CodePoints)} (h : Within cs x) (f : α → γ) :
    Within cs (x.map fun r => (f r.1, r.2)) := by
  match x, h with
  | .ok _, h => exact h
  | .error (.malformed _ _), h => exact h
  | .error (.oversizedInteger _), h => exact h

/-- **How a reading within a text ends**: with a fault, which stays where it is when it ends a
longer reading as well, or with a rest that is an end of the text. -/
theorem Within.cases {x : Except Fault (α × CodePoints)} (h : Within cs x) :
    (∃ e, x = .error e ∧ ∀ γ : Type, Within cs (.error e : Except Fault (γ × CodePoints))) ∨
      ∃ a rest, x = .ok (a, rest) ∧ rest <:+ cs := by
  match x, h with
  | .ok (a, rest), h => exact .inr ⟨a, rest, rfl, h⟩
  | .error (.malformed problem remaining), h => exact .inl ⟨_, rfl, fun _ => h⟩
  | .error (.oversizedInteger n), h => exact .inl ⟨_, rfl, fun _ => h⟩

theorem skipSpaces_suffix (cs : CodePoints) : skipSpaces cs <:+ cs :=
  List.dropWhile_suffix isSpace

/-! ### Strings -/

theorem hexQuad?_suffix {n : Nat} {rest : CodePoints} (h : hexQuad? cs = some (n, rest)) :
    rest <:+ cs := by
  rw [hexQuad?.eq_def] at h
  split at h
  · split at h
    · cases h
      exact ⟨[_, _, _, _], rfl⟩
    · cases h
  · cases h

theorem within_readUnicodeEscape (cs : CodePoints) : Within cs (readUnicodeEscape cs) := by
  rw [readUnicodeEscape]
  cases hhigh : hexQuad? (cs.drop 1) with
  | none => exact List.suffix_rfl
  | some first =>
    obtain ⟨high, rest⟩ := first
    have hrest : rest <:+ cs := (hexQuad?_suffix hhigh).trans (List.drop_suffix 1 cs)
    simp only
    split
    · split
      · next more =>
        have hmore : more <:+ cs :=
          (List.suffix_append [CodePoint.char '\\', .char 'u'] more).trans hrest
        cases hlow : hexQuad? more with
        | none => exact (List.suffix_append [CodePoint.char '\\'] (.char 'u' :: more)).trans hrest
        | some second =>
          obtain ⟨low, after⟩ := second
          simp only
          split
          · exact (hexQuad?_suffix hlow).trans hmore
          · exact hrest
      · exact hrest
    · exact hrest

theorem within_readCharacters (opening : CodePoints) (fuel : Nat) (cs : CodePoints)
    (h : cs <:+ opening) : Within opening (readCharacters opening fuel cs) := by
  induction fuel generalizing cs with
  | zero => exact List.suffix_rfl
  | succ fuel ih =>
    rw [readCharacters.eq_def]
    simp only
    split
    · exact List.suffix_rfl
    · next rest => exact (List.suffix_cons (.char '"') rest).trans h
    · exact List.suffix_rfl
    · next rest =>
      have hu : .char 'u' :: rest <:+ opening := (List.suffix_cons (.char '\\') _).trans h
      rcases ((within_readUnicodeEscape (.char 'u' :: rest)).mono hu).cases with
        ⟨e, hread, hfault⟩ | ⟨c, after, hread, hafter⟩
      · rw [hread]
        exact hfault _
      · rw [hread]
        exact (ih _ hafter).map _
    · next e rest _ =>
      cases simpleEscape? e.toChar with
      | none => exact h
      | some c =>
        have hrest : rest <:+ opening := (List.suffix_append [CodePoint.char '\\', e] rest).trans h
        exact (ih _ hrest).map _
    · next c rest _ _ _ _ =>
      split
      · exact h
      · exact (ih _ ((List.suffix_cons c rest).trans h)).map _

theorem within_readString [Textual τ] (cs : CodePoints) :
    Within cs (readString cs : Except Fault (τ × CodePoints)) :=
  (within_readCharacters cs cs.length (cs.drop 1) (List.drop_suffix 1 cs)).map _

/-! ### Numbers -/

/-- The digits that are read stand at the head of the text, and the rest after them. -/
theorem leadingDigits_eq (cs : CodePoints) :
    cs = points (leadingDigits cs).1 ++ (leadingDigits cs).2 ∧
      ∀ c ∈ (leadingDigits cs).1, isDigit c = true := by
  induction cs with
  | nil => exact ⟨rfl, fun c hc => absurd hc List.not_mem_nil⟩
  | cons p rest ih =>
    obtain ⟨hrest, hdigits⟩ := ih
    cases p with
    | half offset => exact ⟨rfl, fun c hc => absurd hc List.not_mem_nil⟩
    | char c =>
      rw [leadingDigits]
      split
      · next hc => exact ⟨congrArg (.char c :: ·) hrest, List.forall_mem_cons.2 ⟨hc, hdigits⟩⟩
      · exact ⟨rfl, fun c hc => absurd hc List.not_mem_nil⟩

theorem digits?_eq_some {ds : List Char} {rest : CodePoints} (h : digits? cs = some (ds, rest)) :
    cs = points ds ++ rest ∧ ∀ c ∈ ds, isDigit c = true := by
  rw [digits?] at h
  simp only at h
  split at h
  · cases h
  · cases h
    exact leadingDigits_eq cs

/-- The digits of the whole part stand at the head of the text, and the rest after them. -/
theorem wholeDigits_eq_some {ds : List Char} {rest : CodePoints}
    (h : wholeDigits cs = some (ds, rest)) :
    cs = points ds ++ rest ∧ ∀ c ∈ ds, isDigit c = true := by
  rw [wholeDigits.eq_def] at h
  split at h
  · cases h
    exact ⟨rfl, List.forall_mem_singleton.2 rfl⟩
  · exact digits?_eq_some h

theorem digits?_suffix {ds : List Char} {rest : CodePoints} (h : digits? cs = some (ds, rest)) :
    rest <:+ cs :=
  (digits?_eq_some h).1 ▸ List.suffix_append (points ds) rest

theorem fractionDigits_suffix {ds : List Char} {rest : CodePoints}
    (h : fractionDigits cs = some (ds, rest)) : rest <:+ cs := by
  rw [fractionDigits.eq_def] at h
  split at h
  · exact (digits?_suffix h).trans (List.suffix_cons (CodePoint.char '.') _)
  · cases h

theorem exponentSign_suffix (cs : CodePoints) : (exponentSign cs).2 <:+ cs := by
  rw [exponentSign.eq_def]
  split
  · exact List.suffix_cons (CodePoint.char '-') _
  · exact List.suffix_cons (CodePoint.char '+') _
  · exact List.suffix_rfl

theorem exponentPart_suffix {e : Int} {rest : CodePoints} (h : exponentPart cs = some (e, rest)) :
    rest <:+ cs := by
  rw [exponentPart.eq_def] at h
  split at h
  · next p rest' =>
    simp only at h
    split at h
    · obtain ⟨⟨ds, after⟩, hdigits, hrest⟩ := Option.map_eq_some_iff.1 h
      obtain ⟨-, rfl⟩ := Prod.mk.inj hrest
      exact ((digits?_suffix hdigits).trans (exponentSign_suffix rest')).trans
        (List.suffix_cons p rest')
    · cases h
  · cases h

/-- **Numbers**: the one reader that complains about digits. -/
theorem within_readUnsigned (start : CodePoints) (negative : Bool) (h : cs <:+ start) :
    Within start (readUnsigned start negative cs : Except Fault (Json τ × CodePoints)) := by
  rw [readUnsigned]
  cases hwhole : wholeDigits cs with
  | none => exact List.suffix_rfl
  | some first =>
    obtain ⟨whole, rest⟩ := first
    obtain ⟨rfl, hdigits⟩ := wholeDigits_eq_some hwhole
    have hrest : rest <:+ start := (List.suffix_append (points whole) rest).trans h
    simp only
    split
    · split
      · next hlt =>
        exact Oversized.mono
          ⟨hlt, whole, (List.prefix_append (points whole) rest).isInfix, rfl, hdigits⟩ h
      · exact hrest
    · next hexponent => exact (exponentPart_suffix hexponent).trans hrest
    · next fraction after hfraction =>
      have hafter : after <:+ start := (fractionDigits_suffix hfraction).trans hrest
      cases hexponent : exponentPart after with
      | none => exact hafter
      | some last =>
        obtain ⟨e, final⟩ := last
        exact (exponentPart_suffix hexponent).trans hafter

theorem within_readNumber (cs : CodePoints) :
    Within cs (readNumber cs : Except Fault (Json τ × CodePoints)) := by
  rw [readNumber.eq_def]
  split
  · exact within_readUnsigned _ true (List.suffix_cons (CodePoint.char '-') _)
  · exact within_readUnsigned _ false List.suffix_rfl

/-! ### Values -/

theorem afterWord_suffix {word : String} {rest : CodePoints} (h : afterWord word cs = some rest) :
    rest <:+ cs := by
  rw [afterWord] at h
  split at h
  · cases h
    exact List.drop_suffix _ cs
  · cases h

theorem within_readScalar (cs : CodePoints) :
    Within cs (readScalar cs : Except Fault (Json τ × CodePoints)) := by
  rw [readScalar]
  split
  · next r hword =>
    obtain ⟨⟨w, j⟩, -, hr⟩ := List.exists_of_findSome?_eq_some hword
    obtain ⟨rest, hrest, rfl⟩ := Option.map_eq_some_iff.1 hr
    exact afterWord_suffix hrest
  · exact within_readNumber cs

theorem suffix_of_skipSpaces {p : CodePoint} {rest : CodePoints} (h : skipSpaces cs = p :: rest) :
    rest <:+ cs :=
  (h ▸ List.suffix_cons p rest).trans (skipSpaces_suffix cs)

theorem Within.skipSpaces {x : Except Fault (α × CodePoints)} (h : Within (skipSpaces cs) x)
    (hsuffix : cs <:+ text) : Within text x :=
  h.mono ((skipSpaces_suffix cs).trans hsuffix)

section

variable (τ) [DecidableEq τ] [Textual τ]

/-- The reader of values stays within its text. -/
def ValuesWithin (fuel : Nat) : Prop :=
  ∀ cs, Within cs (readValue fuel cs : Except Fault (Json τ × CodePoints))

def ItemsWithin (fuel : Nat) : Prop :=
  ∀ cs, Within cs (readItems fuel cs : Except Fault (List (Json τ) × CodePoints))

def MembersWithin (fuel : Nat) : Prop :=
  ∀ cs, Within cs (readMembers fuel cs : Except Fault (List (τ × Json τ) × CodePoints))

end

variable [DecidableEq τ] [Textual τ] {fuel : Nat}

/-- A value, if the readers of lists and objects stay within their text one level down. -/
theorem valuesWithin_succ (hitems : ItemsWithin τ fuel) (hmembers : MembersWithin τ fuel) :
    ValuesWithin τ (fuel + 1) := by
  intro cs
  rw [readValue.eq_def]
  simp only
  split
  · exact (within_readString _).map _
  · next rest =>
    have hrest : rest <:+ .char '[' :: rest := List.suffix_cons _ rest
    split
    · next after hafter => exact (suffix_of_skipSpaces hafter).trans hrest
    · exact ((hitems _).skipSpaces hrest).map _
  · next rest =>
    have hrest : rest <:+ .char '\x7b' :: rest := List.suffix_cons _ rest
    split
    · next after hafter => exact (suffix_of_skipSpaces hafter).trans hrest
    · exact ((hmembers _).skipSpaces hrest).map fun members => obj (Assoc.ofPairs members)
  · exact within_readScalar cs

theorem itemsWithin_succ (hvalues : ValuesWithin τ fuel) (hitems : ItemsWithin τ fuel) :
    ItemsWithin τ (fuel + 1) := by
  intro cs
  rw [readItems]
  rcases (hvalues cs).cases with ⟨e, hread, hfault⟩ | ⟨item, rest, hread, hrest⟩
  · rw [hread]
    exact hfault _
  · rw [hread]
    simp only
    split
    · next after hafter => exact (suffix_of_skipSpaces hafter).trans hrest
    · next after hafter =>
      exact ((hitems _).skipSpaces ((suffix_of_skipSpaces hafter).trans hrest)).map _
    · exact (skipSpaces_suffix rest).trans hrest

theorem membersWithin_succ (hvalues : ValuesWithin τ fuel) (hmembers : MembersWithin τ fuel) :
    MembersWithin τ (fuel + 1) := by
  intro cs
  rw [readMembers.eq_def]
  simp only
  split
  · next quoted =>
    have hname : Within _ (readString (.char '"' :: quoted) : Except Fault (τ × CodePoints)) :=
      within_readString _
    rcases hname.cases with ⟨e, hread, hfault⟩ | ⟨name, rest, hread, hrest⟩
    · rw [hread]
      exact hfault _
    · rw [hread]
      simp only
      split
      · next after hafter =>
        have hcolon : after <:+ .char '"' :: quoted := (suffix_of_skipSpaces hafter).trans hrest
        rcases ((hvalues (skipSpaces after)).skipSpaces hcolon).cases with
          ⟨e, hread, hfault⟩ | ⟨value, rest, hread, hrest⟩
        · rw [hread]
          exact hfault _
        · rw [hread]
          simp only
          split
          · next last hlast => exact (suffix_of_skipSpaces hlast).trans hrest
          · next last hlast =>
            exact ((hmembers _).skipSpaces ((suffix_of_skipSpaces hlast).trans hrest)).map _
          · exact (skipSpaces_suffix rest).trans hrest
      · exact (skipSpaces_suffix rest).trans hrest
  · exact List.suffix_rfl

/-- **Values, lists and objects.**  The induction is on the bound that the three readers share. -/
theorem within_readers (fuel : Nat) :
    ValuesWithin τ fuel ∧ ItemsWithin τ fuel ∧ MembersWithin τ fuel := by
  induction fuel with
  | zero => exact ⟨fun cs => List.suffix_rfl, fun cs => List.suffix_rfl, fun cs => List.suffix_rfl⟩
  | succ fuel ih =>
    obtain ⟨hvalues, hitems, hmembers⟩ := ih
    exact ⟨valuesWithin_succ hitems hmembers, itemsWithin_succ hvalues hitems,
      membersWithin_succ hvalues hmembers⟩

/-! ### Whole texts -/

/-- **A whole text**: its value, a problem at an end of it, or a number in it that is too long. -/
theorem within_readText (cs : CodePoints) :
    Within cs ((readText cs : Except Fault (Json τ)).map
      fun value => (value, ([] : CodePoints))) := by
  rw [readText.eq_def]
  split
  · exact List.suffix_rfl
  · have hvalue : ValuesWithin τ (2 * cs.length + 2) := (within_readers _).1
    rcases ((hvalue (skipSpaces cs)).skipSpaces List.suffix_rfl).cases with
      ⟨e, hread, hfault⟩ | ⟨value, rest, hread, hrest⟩
    · rw [hread]
      exact hfault _
    · rw [hread]
      simp only
      split
      · exact List.nil_suffix
      · exact (skipSpaces_suffix rest).trans hrest

/-- **A whole number is too long** only if that many digits stand in the text in a row. -/
theorem decode_oversized {text : τ} {n : Nat} (h : decode text = .error (.oversizedInteger n)) :
    Oversized (Textual.toPoints text) n := by
  have hwithin : Within _ ((readText (Textual.toPoints text) : Except Fault (Json τ)).map _) :=
    within_readText _
  rw [decode] at h
  cases hread : (readText (Textual.toPoints text) : Except Fault (Json τ)) with
  | ok value => rw [hread] at h; cases h
  | error fault =>
    rw [hread] at h hwithin
    cases fault with
    | malformed problem remaining => cases h
    | oversizedInteger m =>
      cases h
      exact hwithin

end LibraryCalls.Json
