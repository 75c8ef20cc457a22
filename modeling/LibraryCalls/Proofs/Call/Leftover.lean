import Mathlib
import LibraryCalls.Call.Render
import LibraryCalls.Proofs.Call.Enclosed
import LibraryCalls.Proofs.Call.Written

/-!
# What is left when the arguments end

The walk through the arguments of a call ends at the first scan that finds none.  Such a scan need
not have reached the end of the text: it gives up at the first slot without a value, and whatever
stands behind that slot is never read.

There are two reasons for a scan to find nothing: nothing but blanks is left, or an empty slot
stands in the way, which may be quotes around blanks as well as nothing at all.  In the second case
the text behind the slot is lost without a fault.  To tell the two apart one looks at what the
machine drops on its way: a run that keeps only blanks and meets no quote has met only blanks.

So the text that was not read consists of blanks alone exactly if it holds neither a quote nor a
terminator.

* `Argument.stop`, `Argument.leftover`: where a walk ends, and the text from there on;
* `mem_of_pass`: what becomes of the characters that the machine passes over;
* `slot_of_scan_none`: a scan that finds no argument has stood before an empty slot;
* `leftover_of_parse`: what is left of a call that was read, and when nothing but blanks is.
-/

namespace LibraryCalls

open Text Call

/-! ### Characters that are lost -/

namespace Call

variable {terminators : List Char}

/-- The machine stops only at terminators. -/
theorem mem_of_act_stop {mode : Mode} {t : Char} (h : mode.act terminators t = .stop) :
    t ∈ terminators := by
  cases mode <;> grind [Mode.act]

/-- The machine skips nothing but blanks, quotes and backslashes. -/
theorem of_act_skip {mode next : Mode} {c : Char} (h : mode.act terminators c = .skip next) :
    isBlank c = true ∨ c = '"' ∨ c = '\\' := by
  cases mode <;> grind [Mode.act]

/-- Before a value, the machine skips what it does not keep, unless a quote opens the value. -/
theorem act_lead_of_ne_quote {c : Char} (hq : c ≠ '"') :
    (∃ next, Mode.lead.act terminators c = .keep next ∧ isBlank c = false) ∨
      (Mode.lead.act terminators c = .skip .lead ∧ isBlank c = true) ∨
      Mode.lead.act terminators c = .stop := by
  have hslash : isBlank '\\' = false := by decide
  grind [Mode.act]

/-- **Nothing else is lost.**  Each character that the machine passes over is kept, or it is a
blank, a quote or a backslash. -/
theorem mem_of_pass {mode final : Mode} {p kept : List Char}
    (h : mode.pass terminators p = some (kept, final)) :
    ∀ c ∈ p, c ∈ kept ∨ isBlank c = true ∨ c = '"' ∨ c = '\\' := by
  induction p generalizing mode kept with
  | nil => simp
  | cons d p ih =>
    rw [Mode.pass] at h
    cases hact : mode.act terminators d with
    | keep next =>
      simp only [hact, Option.map_eq_some_iff] at h
      obtain ⟨⟨rest, m⟩, hrest, heq⟩ := h
      obtain ⟨rfl, rfl⟩ := Prod.mk.inj heq
      intro c hc
      rcases List.mem_cons.1 hc with rfl | hc
      · exact .inl List.mem_cons_self
      · exact (ih hrest c hc).imp_left (List.mem_cons_of_mem d)
    | skip next =>
      simp only [hact] at h
      intro c hc
      rcases List.mem_cons.1 hc with rfl | hc
      · exact .inr (of_act_skip hact)
      · exact ih h c hc
    | stop => simp [hact] at h
    | reject => simp [hact] at h

/-- A run that keeps only blanks and has met no quote has met only blanks: a backslash before a
value is kept. -/
theorem blank_of_pass {final : Mode} {p kept : List Char}
    (h : Mode.lead.pass terminators p = some (kept, final)) (hkept : Blank kept)
    (hquote : '"' ∉ p) : Blank p := by
  induction p generalizing kept with
  | nil => exact blank_nil
  | cons c p ih =>
    have hc : c ≠ '"' := fun heq => hquote (heq ▸ List.mem_cons_self)
    have hp : '"' ∉ p := fun hm => hquote (List.mem_cons_of_mem c hm)
    rw [Mode.pass] at h
    rcases @act_lead_of_ne_quote terminators c hc with
      ⟨next, hact, hno⟩ | ⟨hact, hblank⟩ | hact
    · simp only [hact, Option.map_eq_some_iff] at h
      obtain ⟨r, -, heq⟩ := h
      obtain ⟨rfl, -⟩ := Prod.mk.inj heq
      have hblank : isBlank c = true := hkept c List.mem_cons_self
      rw [hno] at hblank
      exact Bool.noConfusion hblank
    · simp only [hact] at h
      intro d hd
      rcases List.mem_cons.1 hd with rfl | hd
      · exact hblank
      · exact ih h hkept hp d hd
    · simp [hact] at h

end Call

/-! ### Where a walk ends -/

namespace Argument

variable {terminators : List Char}

/-- The position from which the last scan of a walk was made: where the last argument left off, or
the beginning. -/
def stop (terminators source : List Char) : Nat :=
  ((scanFrom terminators source 0).1.getLast?.map (·.resume)).getD 0

/-- The text that the last scan of a walk had before it. -/
def leftover (terminators source : List Char) : List Char :=
  source.drop (stop terminators source)

theorem leftover_of_none {cs : List Char} (h : scan terminators cs 0 = .ok none) :
    leftover terminators cs = cs := by
  rw [leftover, stop, scanFrom_eq, h]
  rfl

/-- A walk that has read one argument ends where the walk through the rest does. -/
theorem leftover_of_some {cs : List Char} {r : Scanned}
    (h : scan terminators cs 0 = .ok (some r)) :
    leftover terminators cs = leftover terminators (cs.drop r.resume) := by
  have hstop : stop terminators cs = r.resume + stop terminators (cs.drop r.resume) := by
    rw [stop, stop, scanFrom_eq, h]
    simp only [scanFrom_shift cs r.resume, List.getLast?_cons, List.getLast?_map]
    cases (scanFrom terminators (cs.drop r.resume) 0).1.getLast? with
    | none => rfl
    | some q => exact Nat.add_comm q.resume r.resume
  rw [leftover, leftover, hstop, List.drop_drop]

/-- **A walk without a fault ends at a scan that finds no argument.** -/
theorem scan_leftover {cs : List Char} {args : List Argument}
    (h : scanAll terminators cs = .ok args) :
    scan terminators (leftover terminators cs) 0 = .ok none := by
  induction args generalizing cs with
  | nil =>
    have hnone := scanAll_eq_nil_iff.1 h
    rw [leftover_of_none hnone]
    exact hnone
  | cons a args ih =>
    obtain ⟨resume, hscan, hrest⟩ := scanAll_eq_cons_iff.1 h
    rw [leftover_of_some hscan]
    exact ih hrest

/-! ### What a scan that finds nothing has read -/

/-- A slot without a value: blanks, or quotes around blanks. -/
structure EmptySlot (slot : List Char) : Prop where
  void : ∀ c ∈ slot, isBlank c = true ∨ c = '"' ∨ c = '\\'
  blank : '"' ∉ slot → Blank slot

/-- **A scan that finds no argument** has no `=` before it, and an empty slot that ends with the
text or at a terminator.  What stands behind that terminator plays no part. -/
theorem slot_of_scan_none {cs : List Char} (h : scan terminators cs 0 = .ok none) :
    '=' ∉ cs ∧ ∃ slot rest, cs = slot ++ rest ∧ EmptySlot slot ∧ Ends terminators rest := by
  obtain ⟨hno, kept, resume, hscan, htrim⟩ := scan_eq_none_iff.1 h
  have hkept : Blank kept := trim_eq_nil_iff.1 htrim
  obtain ⟨slot, rest, mode, rfl, hpass, hstop, -⟩ := scanValue_eq_ok_iff.1 hscan
  refine ⟨hno, slot, rest, rfl, ⟨?_, blank_of_pass hpass hkept⟩, ?_⟩
  · intro c hc
    rcases mem_of_pass hpass c hc with hc | hc
    · exact .inl (hkept c hc)
    · exact hc
  · intro t ht
    exact mem_of_act_stop (hstop t ht)

/-- Nothing but blanks is left exactly when no quote and no terminator is. -/
theorem blank_iff_of_scan_none (hT : Terminating terminators) {cs : List Char}
    (h : scan terminators cs 0 = .ok none) :
    Blank cs ↔ '"' ∉ cs ∧ ∀ t ∈ terminators, t ∉ cs := by
  constructor
  · intro hblank
    exact ⟨hblank.not_mem (by decide), fun t ht => hblank.not_mem (hT.not_blank t ht)⟩
  · rintro ⟨hquote, hfree⟩
    obtain ⟨-, slot, rest, rfl, hslot, hends⟩ := slot_of_scan_none h
    cases rest with
    | nil =>
      rw [List.append_nil] at hquote ⊢
      exact hslot.blank hquote
    | cons t rest =>
      have ht : t ∈ terminators := hends t rfl
      exact absurd (List.mem_append_right slot List.mem_cons_self) (hfree t ht)

end Argument

/-! ### What is left of a call -/

namespace Call

open Argument

/-- **What is left of a call.**  The scan that ends the arguments of a call has no `=` before it, so
only positional arguments can be left.  It stands before an empty slot, and more than blanks is left
exactly when there is a quote, a comma or a closing bracket. -/
theorem leftover_of_parse (b : Brackets) (hb : b.Proper) (text : String)
    (name source : List Char) (call : Call) (hcut : cut b text.toList = (name, some source))
    (h : parse b text = .ok call) :
    '=' ∉ leftover b.terminators source ∧
      (∃ slot rest, leftover b.terminators source = slot ++ rest ∧ EmptySlot slot ∧
        Ends b.terminators rest) ∧
      (Blank (leftover b.terminators source) ↔
        '"' ∉ leftover b.terminators source ∧
          ∀ t ∈ b.terminators, t ∉ leftover b.terminators source) := by
  have hnone := scan_leftover (scanAll_of_parse hcut h)
  obtain ⟨hno, hslot⟩ := slot_of_scan_none hnone
  exact ⟨hno, hslot, blank_iff_of_scan_none hb.terminating hnone⟩

/-- Two commas in a row end the arguments, and the last one is not read. -/
theorem leftover_slot :
    Brackets.round.Proper ∧
      cut .round "lib(a=1,,b)".toList = ("lib".toList, some "a=1,,b".toList) ∧
      parse .round "lib(a=1,,b)" = .ok ⟨"lib", [⟨"a", "1"⟩]⟩ ∧
      leftover Brackets.round.terminators "a=1,,b".toList = ",b".toList ∧
      ¬ Blank (leftover Brackets.round.terminators "a=1,,b".toList) := by
  have hcut : cut .round "lib(a=1,,b)".toList = ("lib".toList, some "a=1,,b".toList) := by cbv
  have hread : parse .round "lib(a=1,,b)" = .ok ⟨"lib", [⟨"a", "1"⟩]⟩ := by cbv
  have hleft : leftover Brackets.round.terminators "a=1,,b".toList = ",b".toList := by cbv
  refine ⟨Brackets.round_proper, hcut, hread, hleft, ?_⟩
  rw [(leftover_of_parse .round Brackets.round_proper _ _ _ _ hcut hread).2.2, hleft]
  simp [Brackets.terminators]

/-- An empty value is written with quotes around nothing.  They end the arguments when the call is
read again, and what stands behind them is lost without a fault. -/
theorem leftover_not_blank :
    render .round ⟨"lib", [⟨"", "a"⟩, ⟨"", ""⟩, ⟨"", "b"⟩]⟩ = "lib(a, \"\", b)" ∧
      cut .round "lib(a, \"\", b)".toList = ("lib".toList, some "a, \"\", b".toList) ∧
      parse .round "lib(a, \"\", b)" = .ok ⟨"lib", [⟨"", "a"⟩]⟩ ∧
      ¬ Blank (leftover Brackets.round.terminators "a, \"\", b".toList) := by
  have hleft : leftover Brackets.round.terminators "a, \"\", b".toList
      = " \"\", b".toList := by cbv
  refine ⟨by decide, by cbv, by cbv, ?_⟩
  rw [hleft]
  decide

end Call

end LibraryCalls
