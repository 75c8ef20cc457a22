import Mathlib
import LibraryCalls.Proofs.Call.Walk

/-!
# The culprit of a faulty call

A call is faulty when a scan meets a character that may not stand behind the closing quote of a
value. The fault names this character and its position, and no other character has a part in it: the
text before it can be scanned, and whatever stands behind it changes nothing.

A failing run is taken apart like a successful one: the text that the machine passes over, in some
mode, and then one character that it does not take in this mode.  Only the last mode takes offence,
and only a closing quote leads there, so that a quote stands somewhere before the culprit.

Positions are those of the whole text between the brackets.  Since the machine goes by one character
at a time and a scan depends on what stands before it only through the label, a text that agrees up
to the culprit, and in where its name ends, has the same fault.

* `scanValue_eq_error_iff`, `scan_eq_error_iff`: a run of the machine, and a scan, that fail;
* `Faulty`: a text in which a scan fails, in its parts;
* `Blames`: what a fault says of the text in which it was met;
* `blames_of_scan`: every scan that fails gives such a fault;
* `culprit_of_parse`: the same for a call.
-/

namespace LibraryCalls

open Text

/-! ### The machine -/

namespace Call

variable {terminators : List Char}

/-- The machine takes offence only behind a closing quote. -/
theorem of_act_reject {mode : Mode} {c : Char} (h : mode.act terminators c = .reject) :
    mode = .tail ∧ isBlank c = false ∧ c ≠ '"' ∧ c ≠ '\\' ∧ c ∉ terminators := by
  cases mode <;> grind [Mode.act]

/-- **What a failing run is.**  The machine passes over the text before some character, and does not
take that one. -/
theorem scanValue_eq_error_iff {mode : Mode} {pos : Nat} {cs : List Char} {e : Culprit} :
    scanValue terminators mode pos cs = .error e ↔
      ∃ passed rest kept, cs = passed ++ e.char :: rest ∧
        mode.pass terminators passed = some (kept, .tail) ∧
        Mode.tail.act terminators e.char = .reject ∧ e.position = pos + passed.length := by
  constructor
  · intro h
    induction cs generalizing mode pos with
    | nil => simp [scanValue] at h
    | cons c cs ih =>
      rw [scanValue] at h
      cases hact : mode.act terminators c with
      | keep next =>
        simp only [hact] at h
        cases hv : scanValue terminators next (pos + 1) cs with
        | ok r => simp [hv, Except.map] at h
        | error e' =>
          obtain rfl : e' = e := by simpa [hv, Except.map] using h
          obtain ⟨passed, rest, kept, rfl, hpass, hreject, hpos⟩ := ih hv
          refine ⟨c :: passed, rest, c :: kept, rfl, pass_keep hact hpass, hreject, ?_⟩
          rw [hpos, List.length_cons]
          omega
      | skip next =>
        simp only [hact] at h
        obtain ⟨passed, rest, kept, rfl, hpass, hreject, hpos⟩ := ih h
        refine ⟨c :: passed, rest, kept, rfl, (pass_skip hact passed).trans hpass, hreject, ?_⟩
        rw [hpos, List.length_cons]
        omega
      | stop => simp [hact] at h
      | reject =>
        obtain rfl : ⟨c, pos⟩ = e := by simpa [hact] using h
        obtain ⟨rfl, -⟩ := of_act_reject hact
        exact ⟨[], cs, [], rfl, rfl, hact, rfl⟩
  · rintro ⟨passed, rest, kept, rfl, hpass, hreject, hpos⟩
    rw [scanValue_append hpass, scanValue]
    simp only [hreject, Except.map, ← hpos]

/-- A run of the machine over a text that it passes over. -/
theorem scanValue_of_pass {mode mid : Mode} {passed kept : List Char}
    (h : mode.pass terminators passed = some (kept, mid)) (pos : Nat) :
    scanValue terminators mode pos passed = .ok (kept, pos + passed.length) :=
  scanValue_eq_ok_iff.2 ⟨passed, [], mid, (List.append_nil passed).symm, h, by simp, rfl⟩

/-- Only a quote leads to the mode in which a value has ended. -/
theorem quote_mem_of_pass {mode : Mode} (hmode : mode = .lead ∨ mode = .bare)
    {passed kept : List Char} (h : mode.pass terminators passed = some (kept, .tail)) :
    '"' ∈ passed := by
  induction passed generalizing mode kept with
  | nil => rcases hmode with rfl | rfl <;> simp [Mode.pass] at h
  | cons c passed ih =>
    by_cases hquote : c = '"'
    · exact hquote ▸ List.mem_cons_self
    · refine List.mem_cons_of_mem c ?_
      rw [Mode.pass] at h
      cases hact : mode.act terminators c with
      | keep next =>
        simp only [hact, Option.map_eq_some_iff] at h
        obtain ⟨⟨kept', final⟩, hpass, heq⟩ := h
        obtain ⟨-, rfl⟩ := Prod.mk.inj heq
        refine ih ?_ hpass
        rcases hmode with rfl | rfl <;> grind [Mode.act]
      | skip next =>
        simp only [hact] at h
        refine ih ?_ h
        rcases hmode with rfl | rfl <;> grind [Mode.act]
      | stop => simp [hact] at h
      | reject => simp [hact] at h

end Call

/-! ### One scan -/

namespace Argument

open Call

variable {terminators : List Char}

/-- What stands before the value of the first argument of a text: its name and the first `=`, or
nothing when there is no `=`. -/
def IsLabel (label cs : List Char) : Prop :=
  (∃ name, label = name ++ ['='] ∧ '=' ∉ name) ∨ (label = [] ∧ '=' ∉ cs)

theorem exists_label (cs : List Char) : ∃ label value, cs = label ++ value ∧ IsLabel label cs := by
  rcases equals_cases cs with hno | ⟨before, after, rfl, hbefore⟩
  · exact ⟨[], cs, rfl, .inr ⟨rfl, hno⟩⟩
  · exact ⟨before ++ ['='], after, by simp, .inl ⟨before, rfl, hbefore⟩⟩

/-- A text may go on differently behind the label. -/
theorem IsLabel.of_append {label value : List Char} (h : IsLabel label (label ++ value))
    {value' : List Char} (hequals : '=' ∈ label ++ value ∨ '=' ∉ label ++ value') :
    IsLabel label (label ++ value') := by
  rcases h with hname | ⟨rfl, hno⟩
  · exact .inl hname
  · exact .inr ⟨rfl, hequals.resolve_left hno⟩

theorem split_of_isLabel {label value : List Char} (h : IsLabel label (label ++ value)) :
    ∃ name?, split (label ++ value) 0 = (name?, label.length, value) := by
  rcases h with ⟨name, rfl, hname⟩ | ⟨rfl, hno⟩
  · refine ⟨some (trim name), ?_⟩
    rw [List.append_assoc, List.singleton_append, split_of_equals hname, List.length_append]
    rfl
  · exact ⟨none, split_of_not_mem hno⟩

/-- **A scan fails** exactly when the machine fails behind the label. -/
theorem scan_eq_error_iff {label value : List Char} (h : IsLabel label (label ++ value))
    {e : SyntaxError} :
    scan terminators (label ++ value) 0 = .error e ↔
      scanValue terminators .lead label.length value = .error ⟨e.char, e.position⟩ ∧
        e.source = String.ofList (label ++ value) := by
  obtain ⟨name?, hsplit⟩ := split_of_isLabel h
  rw [scan, hsplit]
  cases hv : scanValue terminators .lead label.length value with
  | error culprit =>
    simp only [hv]
    constructor
    · intro he
      obtain rfl := Except.error.inj he
      exact ⟨rfl, rfl⟩
    · rintro ⟨heq, hsource⟩
      obtain rfl := Except.error.inj heq
      rw [← hsource]
  | ok r =>
    simp only [hv, reduceCtorEq, false_and, iff_false]
    split_ifs <;> simp

/-- A text in which a scan from position `start` on fails, in its parts: behind the label the
machine passes over the text up to some character, and does not take that one. -/
structure Faulty (terminators source : List Char) (start : Nat) (e : SyntaxError) where
  label : List Char
  passed : List Char
  rest : List Char
  kept : List Char
  text : source.drop start = label ++ (passed ++ e.char :: rest)
  isLabel : IsLabel label (source.drop start)
  pass : Mode.lead.pass terminators passed = some (kept, .tail)
  reject : Mode.tail.act terminators e.char = .reject
  position : e.position = start + (label ++ passed).length
  source_eq : e.source = String.ofList source

/-- **A scan from a position fails** exactly when the text has these parts. -/
theorem scan_from_eq_error_iff {source : List Char} {start : Nat} {e : SyntaxError} :
    scan terminators source start = .error e ↔ Nonempty (Faulty terminators source start e) := by
  rw [scan_shift]
  constructor
  · intro h
    cases hscan : scan terminators (source.drop start) 0 with
    | ok found => cases found <;> simp [hscan] at h
    | error here =>
      simp only [hscan] at h
      obtain rfl := Except.error.inj h
      obtain ⟨label, value, htext, hlabel⟩ := exists_label (source.drop start)
      rw [htext] at hscan hlabel
      obtain ⟨hvalue, -⟩ := (scan_eq_error_iff hlabel).1 hscan
      obtain ⟨passed, rest, kept, rfl, hpass, hreject, hpos⟩ := scanValue_eq_error_iff.1 hvalue
      refine ⟨⟨label, passed, rest, kept, htext, htext ▸ hlabel, hpass, hreject, ?_, rfl⟩⟩
      simp only at hpos ⊢
      rw [hpos, List.length_append, Nat.add_comm]
  · rintro ⟨⟨label, passed, rest, kept, htext, hlabel, hpass, hreject, hpos, hsource⟩⟩
    rw [htext] at hlabel ⊢
    have hvalue : scanValue terminators .lead label.length (passed ++ e.char :: rest)
        = .error ⟨e.char, label.length + passed.length⟩ :=
      scanValue_eq_error_iff.2 ⟨passed, rest, kept, rfl, hpass, hreject, rfl⟩
    have hscan : scan terminators (label ++ (passed ++ e.char :: rest)) 0
        = .error ⟨e.char, label.length + passed.length, _⟩ :=
      (scan_eq_error_iff hlabel).2 ⟨hvalue, rfl⟩
    obtain ⟨char, position, source'⟩ := e
    simp only at hpos hsource
    rw [hscan, hpos, hsource, List.length_append, Nat.add_comm start]

/-! ### What a fault says -/

namespace Faulty

variable {source : List Char} {start : Nat} {e : SyntaxError}

theorem getElem?_source (f : Faulty terminators source start e) (i : Nat) :
    source[start + i]? = (f.label ++ (f.passed ++ e.char :: f.rest))[i]? := by
  rw [← f.text, List.getElem?_drop]

theorem char_at (f : Faulty terminators source start e) : source[e.position]? = some e.char := by
  rw [f.position, f.getElem?_source, ← List.append_assoc]
  simp

theorem quote_before (f : Faulty terminators source start e) :
    ∃ q, start ≤ q ∧ q < e.position ∧ source[q]? = some '"' := by
  obtain ⟨i, hi⟩ := List.mem_iff_getElem?.1 (quote_mem_of_pass (.inl rfl) f.pass)
  obtain ⟨hlt, -⟩ := List.getElem?_eq_some_iff.1 hi
  have hpos := f.position
  rw [List.length_append] at hpos
  refine ⟨start + (f.label.length + i), by omega, by omega, ?_⟩
  rw [f.getElem?_source, List.getElem?_append_right (by omega), Nat.add_sub_cancel_left,
    List.getElem?_append_left hlt, hi]

/-- Another text with the same label and the same text behind it. -/
theorem isLabel_append (f : Faulty terminators source start e) {value : List Char}
    (hequals : '=' ∈ source.drop start ∨ '=' ∉ f.label ++ value) :
    IsLabel f.label (f.label ++ value) := by
  have hlabel := f.isLabel
  rw [f.text] at hlabel hequals
  exact hlabel.of_append hequals

/-- The text before the culprit can be scanned. -/
theorem none_before (f : Faulty terminators source start e) :
    ∃ found, scan terminators (source.take e.position) start = .ok found := by
  have hlength : e.position - start = (f.label ++ f.passed).length := by
    have := f.position
    omega
  have hcut : (source.take e.position).drop start = f.label ++ f.passed := by
    rw [List.drop_take, hlength, f.text, ← List.append_assoc, List.take_left]
  have hlabel : IsLabel f.label (f.label ++ f.passed) := by
    apply f.isLabel_append
    by_cases hequals : '=' ∈ f.label ++ f.passed
    · left
      rw [f.text, ← List.append_assoc]
      exact List.mem_append_left _ hequals
    · exact .inr hequals
  rw [scan_shift, hcut]
  cases hscan : scan terminators (f.label ++ f.passed) 0 with
  | ok found => cases found <;> exact ⟨_, rfl⟩
  | error here =>
    obtain ⟨hvalue, -⟩ := (scan_eq_error_iff hlabel).1 hscan
    rw [scanValue_of_pass f.pass] at hvalue
    exact absurd hvalue (by simp)

/-- The culprit is met in every text that goes the same way so far, provided that the name ends
where it did. -/
theorem determined (f : Faulty terminators source start e) {other : List Char}
    (hshare : other.take (e.position + 1) = source.take (e.position + 1))
    (hequals : '=' ∈ source.drop start ∨ '=' ∉ other.drop start) :
    scan terminators other start = .error ⟨e.char, e.position, String.ofList other⟩ := by
  have hlength : e.position + 1 - start = (f.label ++ (f.passed ++ [e.char])).length := by
    have := f.position
    simp only [List.length_append, List.length_singleton] at this ⊢
    omega
  have hbegin : (other.drop start).take (e.position + 1 - start)
      = f.label ++ (f.passed ++ [e.char]) := by
    have htext : source.drop start = (f.label ++ (f.passed ++ [e.char])) ++ f.rest := by
      rw [f.text]
      simp
    rw [← List.drop_take, hshare, List.drop_take, hlength, htext, List.take_left]
  have hother : other.drop start = f.label ++
      (f.passed ++ e.char :: (other.drop start).drop (e.position + 1 - start)) := by
    rw [← List.singleton_append, ← List.append_assoc f.passed, ← List.append_assoc, ← hbegin,
      List.take_append_drop]
  refine scan_from_eq_error_iff.2
    ⟨⟨f.label, f.passed, _, f.kept, hother, ?_, f.pass, f.reject, f.position, rfl⟩⟩
  rw [hother] at hequals ⊢
  exact f.isLabel_append hequals

end Faulty

/-- What a fault says of the text in which a scan from position `start` on has met it. -/
structure Blames (terminators source : List Char) (start : Nat) (e : SyntaxError) : Prop where
  met : scan terminators source start = .error e
  source_eq : e.source = String.ofList source
  char_at : source[e.position]? = some e.char
  not_blank : isBlank e.char = false
  ne_quote : e.char ≠ '"'
  ne_backslash : e.char ≠ '\\'
  not_mem : e.char ∉ terminators
  /-- The argument in which it was met has a quote before it. -/
  quote_before : ∃ q, start ≤ q ∧ q < e.position ∧ source[q]? = some '"'
  /-- The text before it can be scanned. -/
  none_before : ∃ found, scan terminators (source.take e.position) start = .ok found
  /-- It is met in every text that goes the same way so far, once an `=` has ended the name; without
  an `=`, in those that hold none either. -/
  determined : ∀ other : List Char,
    other.take (e.position + 1) = source.take (e.position + 1) →
    ('=' ∈ source.drop start ∨ '=' ∉ other.drop start) →
    scan terminators other start = .error ⟨e.char, e.position, String.ofList other⟩

/-- **Every scan that fails** gives a fault that says this. -/
theorem blames_of_scan {source : List Char} {start : Nat} {e : SyntaxError}
    (h : scan terminators source start = .error e) : Blames terminators source start e := by
  obtain ⟨f⟩ := scan_from_eq_error_iff.1 h
  obtain ⟨-, hblank, hquote, hbackslash, hterm⟩ := of_act_reject f.reject
  exact ⟨h, f.source_eq, f.char_at, hblank, hquote, hbackslash, hterm, f.quote_before,
    f.none_before, fun other => f.determined⟩

end Argument

/-! ### The fault of a call -/

namespace Call

open Argument

/-- The text of a call in which `source` stands between the brackets: behind the first opening one,
up to the last closing one behind that, or to the end of the text when there is none. -/
def Between (b : Brackets) (text before source : List Char) : Prop :=
  b.opening ∉ before ∧
    ((∃ tail, text = before ++ b.opening :: (source ++ b.closing :: tail) ∧ b.closing ∉ tail) ∨
      (text = before ++ b.opening :: source ∧ b.closing ∉ source))

theorem between_of_cut {b : Brackets} {text name source : List Char}
    (h : cut b text = (name, some source)) : ∃ before, Between b text before source := by
  rw [cut] at h
  cases hopen : cutFirst b.opening text with
  | none => simp [hopen] at h
  | some q =>
    obtain ⟨before, after⟩ := q
    obtain ⟨rfl, hbefore⟩ := cutFirst_eq_some_iff.1 hopen
    simp only [hopen] at h
    cases hclose : cutLast b.closing after with
    | none =>
      simp only [hclose] at h
      obtain rfl := Option.some.inj (Prod.mk.inj h).2
      exact ⟨before, hbefore, .inr ⟨rfl, cutLast_eq_none_iff.1 hclose⟩⟩
    | some q =>
      obtain ⟨inside, tail⟩ := q
      obtain ⟨rfl, htail⟩ := cutLast_eq_some_iff.1 hclose
      simp only [hclose] at h
      obtain rfl := Option.some.inj (Prod.mk.inj h).2
      exact ⟨before, hbefore, .inl ⟨tail, rfl, htail⟩⟩

/-- The text between the brackets begins behind the opening one. -/
theorem Between.getElem? {b : Brackets} {text before source : List Char}
    (h : Between b text before source) {i : Nat} {c : Char} (hi : source[i]? = some c) :
    text[before.length + 1 + i]? = some c := by
  obtain ⟨hlt, -⟩ := List.getElem?_eq_some_iff.1 hi
  have hbehind : ∀ behind : List Char,
      (before ++ b.opening :: (source ++ behind))[before.length + 1 + i]? = some c := by
    intro behind
    rw [List.getElem?_append_right (by omega), Nat.add_assoc, Nat.add_sub_cancel_left,
      Nat.add_comm 1, List.getElem?_cons_succ, List.getElem?_append_left hlt, hi]
  rcases h.2 with ⟨tail, rfl, -⟩ | ⟨rfl, -⟩
  · exact hbehind _
  · simpa using hbehind []

/-- **The fault of a call points at its culprit.**  It is met by the last scan of the walk through
the arguments, and it says of the text between the brackets what every fault says: its character
stands there at its position, and at the same distance behind the opening bracket in the text of the
call. -/
theorem culprit_of_parse (b : Brackets) (text : String) (e : SyntaxError)
    (h : parse b text = .error e) :
    ∃ before source scans start, Between b text.toList before source ∧
      Walk b.terminators source 0 scans start ∧ Blames b.terminators source start e ∧
      e.char ≠ ',' ∧ e.char ≠ b.closing ∧
      text.toList[before.length + 1 + e.position]? = some e.char := by
  rcases hcut : cut b text.toList with ⟨name, source?⟩
  cases source? with
  | none => simp [parse, hcut] at h
  | some source =>
    obtain ⟨before, hbetween⟩ := between_of_cut hcut
    obtain ⟨scans, start, hwalk, ⟨-, hok⟩ | ⟨e', hscan, herror⟩⟩ := exists_walk_of_cut hcut
    · simp [hok] at h
    · obtain rfl := Except.error.inj (herror.symm.trans h)
      have hblames := blames_of_scan hscan
      have hterm := hblames.not_mem
      rw [Brackets.mem_terminators, not_or] at hterm
      exact ⟨before, source, scans, start, hbetween, hwalk, hblames, hterm.2, hterm.1,
        hbetween.getElem? hblames.char_at⟩

/-- The second argument of a call goes on behind its closing quote. -/
theorem culprit_of_parse_second :
    parse .round "lib(a=1, b=\"x\" y, c)" = .error ⟨'y', 11, "a=1, b=\"x\" y, c"⟩ ∧
      ∃ before source scans start,
        Between .round "lib(a=1, b=\"x\" y, c)".toList before source ∧
        Walk Brackets.round.terminators source 0 scans start ∧
        Blames Brackets.round.terminators source start ⟨'y', 11, "a=1, b=\"x\" y, c"⟩ ∧
        'y' ≠ ',' ∧ 'y' ≠ Brackets.round.closing ∧
        "lib(a=1, b=\"x\" y, c)".toList[before.length + 1 + 11]? = some 'y' := by
  have hfault : parse .round "lib(a=1, b=\"x\" y, c)"
      = .error ⟨'y', 11, "a=1, b=\"x\" y, c"⟩ := by cbv
  exact ⟨hfault, culprit_of_parse .round _ _ hfault⟩

end Call

end LibraryCalls
