import LibraryCalls.Call.Scan
import LibraryCalls.Proofs.Text.Trim

/-!
# Runs of the value machine

`scanValue` reads up to the first character at which the machine stops or fails.  This module cuts
such a run in two: the text that the machine passes over, and what ends the run.

The modes of the machine are five, and what it does with a character depends on the mode and the
character only; most lemmas are a case analysis over these, done once here and cited by name from
then on.  Runs compose: passing over two texts one behind the other is passing over the first and
then over the second from the mode that was reached.

That a pair of brackets is proper is the one assumption of the whole theory of calls.  It excludes
brackets that are blanks, quotes, backslashes, commas or equals signs, and allows the two to be the
same character.

* `Brackets.Proper`: the brackets whose characters mean nothing else to the machine;
* `Mode.pass`: the run over a text at which the machine neither stops nor fails;
* `scanValue_eq_ok_iff`: a run succeeds exactly when the machine passes over the text up to a
  character at which it stops, or up to the end;
* `scanValue_add`: the position at which a run begins only moves the positions it reports;
* `pass_blank`, `pass_bare`: what becomes of blanks around a value, and of a value without quotes.
-/

namespace LibraryCalls

open Text

/-! ### Characters that may end an argument -/

namespace Call

/-- A character that the machine and `trim` have no other use for, so that it may be a bracket. -/
structure Delimiter (c : Char) : Prop where
  not_blank : isBlank c = false
  ne_quote : c ≠ '"'
  ne_backslash : c ≠ '\\'
  ne_comma : c ≠ ','
  ne_equals : c ≠ '='

instance (c : Char) : Decidable (Delimiter c) :=
  decidable_of_iff
    (isBlank c = false ∧ c ≠ '"' ∧ c ≠ '\\' ∧ c ≠ ',' ∧ c ≠ '=')
    ⟨fun h => ⟨h.1, h.2.1, h.2.2.1, h.2.2.2.1, h.2.2.2.2⟩,
      fun h => ⟨h.not_blank, h.ne_quote, h.ne_backslash, h.ne_comma, h.ne_equals⟩⟩

/-- Terminators that end a value wherever it stands outside quotes: no blanks, and none of the
characters that the machine or the search for a name looks at first. -/
structure Terminating (terminators : List Char) : Prop where
  not_blank : ∀ t ∈ terminators, isBlank t = false
  ne_quote : ∀ t ∈ terminators, t ≠ '"'
  ne_backslash : ∀ t ∈ terminators, t ≠ '\\'
  ne_equals : ∀ t ∈ terminators, t ≠ '='

theorem Terminating.blank_not_mem {terminators : List Char} (h : Terminating terminators)
    {c : Char} (hc : isBlank c = true) : c ∉ terminators := by
  intro hm
  rw [h.not_blank c hm] at hc
  exact Bool.noConfusion hc

end Call

namespace Brackets

/-- Brackets that a call may be written with: neither is a blank, a quote, a backslash, a comma or
an equals sign.  They may be one and the same character. -/
structure Proper (b : Brackets) : Prop where
  opening : Call.Delimiter b.opening
  closing : Call.Delimiter b.closing

instance (b : Brackets) : Decidable b.Proper :=
  decidable_of_iff (Call.Delimiter b.opening ∧ Call.Delimiter b.closing)
    ⟨fun h => ⟨h.1, h.2⟩, fun h => ⟨h.opening, h.closing⟩⟩

theorem round_proper : round.Proper := by decide

theorem square_proper : square.Proper := by decide

theorem mem_terminators {b : Brackets} {c : Char} :
    c ∈ b.terminators ↔ c = b.closing ∨ c = ',' := by
  simp [terminators]

theorem Proper.terminating {b : Brackets} (h : b.Proper) : Call.Terminating b.terminators := by
  constructor <;> intro t ht <;> rcases mem_terminators.1 ht with rfl | rfl
  · exact h.closing.not_blank
  · decide
  · exact h.closing.ne_quote
  · decide
  · exact h.closing.ne_backslash
  · decide
  · exact h.closing.ne_equals
  · decide

end Brackets

namespace Call

variable {terminators : List Char}

/-! ### Passing over a text -/

/-- The run over a text at which the machine neither stops nor fails: the characters it keeps and
the mode it reaches. -/
def Mode.pass (terminators : List Char) : Mode → List Char → Option (List Char × Mode)
  | mode, [] => some ([], mode)
  | mode, c :: cs =>
    match mode.act terminators c with
    | .keep next => (next.pass terminators cs).map fun r => (c :: r.1, r.2)
    | .skip next => next.pass terminators cs
    | .stop => none
    | .reject => none

theorem pass_keep {mode next : Mode} {c : Char} (h : mode.act terminators c = .keep next)
    {cs kept : List Char} {final : Mode} (hp : next.pass terminators cs = some (kept, final)) :
    mode.pass terminators (c :: cs) = some (c :: kept, final) := by
  rw [Mode.pass, h]
  simp only [hp, Option.map_some]

theorem pass_skip {mode next : Mode} {c : Char} (h : mode.act terminators c = .skip next)
    (cs : List Char) : mode.pass terminators (c :: cs) = next.pass terminators cs := by
  rw [Mode.pass, h]

/-- **Two runs in a row.** -/
theorem pass_append {mode mid final : Mode} {p q kept kept' : List Char}
    (hp : mode.pass terminators p = some (kept, mid))
    (hq : mid.pass terminators q = some (kept', final)) :
    mode.pass terminators (p ++ q) = some (kept ++ kept', final) := by
  induction p generalizing mode kept with
  | nil =>
    obtain ⟨rfl, rfl⟩ : [] = kept ∧ mode = mid := by simpa [Mode.pass] using hp
    exact hq
  | cons c p ih =>
    rw [Mode.pass] at hp
    cases hact : mode.act terminators c with
    | keep next =>
      simp only [hact, Option.map_eq_some_iff] at hp
      obtain ⟨⟨rest, m⟩, hrest, heq⟩ := hp
      obtain ⟨rfl, rfl⟩ := Prod.mk.inj heq
      exact pass_keep hact (ih hrest)
    | skip next =>
      simp only [hact] at hp
      rw [List.cons_append, pass_skip hact]
      exact ih hp
    | stop => simp [hact] at hp
    | reject => simp [hact] at hp

/-! ### Runs of `scanValue` -/

/-- A run goes on from where the text passed over ends. -/
theorem scanValue_append {mode mid : Mode} {p kept : List Char}
    (h : mode.pass terminators p = some (kept, mid)) (pos : Nat) (cs : List Char) :
    scanValue terminators mode pos (p ++ cs)
      = (scanValue terminators mid (pos + p.length) cs).map fun r => (kept ++ r.1, r.2) := by
  induction p generalizing mode pos kept with
  | nil =>
    obtain ⟨rfl, rfl⟩ : [] = kept ∧ mode = mid := by simpa [Mode.pass] using h
    cases hv : scanValue terminators mode pos cs <;> simp [hv, Except.map]
  | cons c p ih =>
    have hlen : pos + (c :: p).length = pos + 1 + p.length := by
      rw [List.length_cons]
      omega
    rw [Mode.pass] at h
    rw [List.cons_append, scanValue, hlen]
    cases hact : mode.act terminators c with
    | keep next =>
      simp only [hact, Option.map_eq_some_iff] at h
      obtain ⟨⟨rest, m⟩, hrest, heq⟩ := h
      obtain ⟨rfl, rfl⟩ := Prod.mk.inj heq
      simp only [ih hrest (pos + 1)]
      cases scanValue terminators m (pos + 1 + p.length) cs <;> rfl
    | skip next =>
      simp only [hact] at h
      exact ih h (pos + 1)
    | stop => simp [hact] at h
    | reject => simp [hact] at h

/-- **What a successful run is.**  The machine passes over the text up to a character at which it
stops, which it leaves behind, or up to the end. -/
theorem scanValue_eq_ok_iff {mode : Mode} {pos resume : Nat} {cs kept : List Char} :
    scanValue terminators mode pos cs = .ok (kept, resume) ↔
      ∃ p rest mid, cs = p ++ rest ∧ mode.pass terminators p = some (kept, mid) ∧
        (∀ t ∈ rest.head?, mid.act terminators t = .stop) ∧
        resume = pos + p.length + (rest.take 1).length := by
  constructor
  · intro h
    induction cs generalizing mode pos kept with
    | nil =>
      obtain ⟨rfl, rfl⟩ : [] = kept ∧ pos = resume := by simpa [scanValue] using h
      exact ⟨[], [], mode, rfl, rfl, by simp, rfl⟩
    | cons c cs ih =>
      rw [scanValue] at h
      cases hact : mode.act terminators c with
      | keep next =>
        simp only [hact] at h
        cases hv : scanValue terminators next (pos + 1) cs with
        | error e => simp [hv, Except.map] at h
        | ok r =>
          obtain ⟨kept', stop⟩ := r
          obtain ⟨rfl, rfl⟩ : c :: kept' = kept ∧ stop = resume := by
            simpa [hv, Except.map] using h
          obtain ⟨p, rest, mid, rfl, hp, hstop, rfl⟩ := ih hv
          refine ⟨c :: p, rest, mid, rfl, pass_keep hact hp, hstop, ?_⟩
          rw [List.length_cons]
          omega
      | skip next =>
        simp only [hact] at h
        obtain ⟨p, rest, mid, rfl, hp, hstop, rfl⟩ := ih h
        refine ⟨c :: p, rest, mid, rfl, (pass_skip hact p).trans hp, hstop, ?_⟩
        rw [List.length_cons]
        omega
      | stop =>
        simp only [hact] at h
        obtain ⟨rfl, rfl⟩ : [] = kept ∧ pos + 1 = resume := by simpa using h
        exact ⟨[], c :: cs, mode, rfl, rfl, by simpa using hact, rfl⟩
      | reject => simp [hact] at h
  · rintro ⟨p, rest, mid, rfl, hp, hstop, rfl⟩
    rw [scanValue_append hp]
    cases rest with
    | nil => simp [scanValue, Except.map]
    | cons t rest =>
      have ht : mid.act terminators t = .stop := hstop t rfl
      simp [scanValue, ht, Except.map]

/-- A run that begins `k` positions further on reports every position `k` further on. -/
theorem scanValue_add (mode : Mode) (pos k : Nat) (cs : List Char) :
    scanValue terminators mode (pos + k) cs =
      match scanValue terminators mode pos cs with
      | .ok (kept, resume) => .ok (kept, resume + k)
      | .error e => .error ⟨e.char, e.position + k⟩ := by
  induction cs generalizing mode pos with
  | nil => rfl
  | cons c cs ih =>
    rw [scanValue, scanValue]
    cases hact : mode.act terminators c with
    | keep next =>
      simp only [show pos + k + 1 = pos + 1 + k from by omega, ih]
      cases scanValue terminators next (pos + 1) cs <;> rfl
    | skip next =>
      simp only [show pos + k + 1 = pos + 1 + k from by omega, ih]
    | stop => simp only [show pos + k + 1 = pos + 1 + k from by omega]
    | reject => rfl

/-! ### Where the machine stops -/

def Mode.quoted : Mode → Bool
  | .body => true
  | .escape => true
  | _ => false

theorem act_terminator (hT : Terminating terminators) {mode : Mode} (hm : mode.quoted = false)
    {t : Char} (ht : t ∈ terminators) : mode.act terminators t = .stop := by
  have hq := hT.ne_quote t ht
  have hb := hT.ne_backslash t ht
  cases mode with
  | lead => simp [Mode.act, hq, hb, ht]
  | bare => simp [Mode.act, hq, hb, ht]
  | tail => simp [Mode.act, hq, hb, ht]
  | body => simp [Mode.quoted] at hm
  | escape => simp [Mode.quoted] at hm

/-! ### Phases -/

theorem pass_skip_all {mode : Mode} {cs : List Char}
    (h : ∀ c ∈ cs, mode.act terminators c = .skip mode) :
    mode.pass terminators cs = some ([], mode) := by
  induction cs with
  | nil => rfl
  | cons c cs ih =>
    rw [pass_skip (h c List.mem_cons_self)]
    exact ih fun d hd => h d (List.mem_cons_of_mem c hd)

theorem pass_keep_all {mode : Mode} {cs : List Char}
    (h : ∀ c ∈ cs, mode.act terminators c = .keep mode) :
    mode.pass terminators cs = some (cs, mode) := by
  induction cs with
  | nil => rfl
  | cons c cs ih =>
    exact pass_keep (h c List.mem_cons_self) (ih fun d hd => h d (List.mem_cons_of_mem c hd))

/-- Blanks that end no argument are dropped before a value and after its closing quote. -/
theorem pass_blank_of_not_mem {mode : Mode} (hm : mode = .lead ∨ mode = .tail) {ws : List Char}
    (h : Blank ws) (hws : ∀ c ∈ ws, c ∉ terminators) :
    mode.pass terminators ws = some ([], mode) := by
  apply pass_skip_all
  intro c hc
  have hblank : isBlank c = true := h c hc
  have hq : c ≠ '"' := ne_of_isBlank hblank (by decide)
  have hb : c ≠ '\\' := ne_of_isBlank hblank (by decide)
  have ht : c ∉ terminators := hws c hc
  rcases hm with rfl | rfl <;> simp [Mode.act, hq, hb, ht, hblank]

theorem pass_blank (hT : Terminating terminators) {mode : Mode}
    (hm : mode = .lead ∨ mode = .tail) {ws : List Char} (h : Blank ws) :
    mode.pass terminators ws = some ([], mode) :=
  pass_blank_of_not_mem hm h fun c hc => hT.blank_not_mem (h c hc)

/-- Inside a value without quotes every character is kept that is neither a quote nor a
terminator. -/
theorem pass_bare {cs : List Char} (h : ∀ c ∈ cs, c ≠ '"' ∧ c ∉ terminators) :
    Mode.bare.pass terminators cs = some (cs, .bare) := by
  apply pass_keep_all
  intro c hc
  obtain ⟨hq, ht⟩ := h c hc
  by_cases hb : c = '\\' <;> simp [Mode.act, hb, hq, ht]

end Call

end LibraryCalls
