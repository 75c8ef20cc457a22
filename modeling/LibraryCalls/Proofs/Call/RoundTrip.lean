import Mathlib
import LibraryCalls.Call.Render
import LibraryCalls.Proofs.Call.Enclosed
import LibraryCalls.Proofs.Call.Written

/-!
# Reading back what was written

`Call.render` writes one text for each call.  Reading that text gives the call back for the calls
that can be written at all, and for no others.

The rendered form of a value is one of the written forms of `LibraryCalls.Proofs.Call.Written`, so
that reading it back needs no new argument about the machine.  The difficulty is in the other
direction.  If an argument without a name is followed by an equals sign, that sign ends a name when
the text is read, and the list that comes back is another one; a count of the characters that are
kept shows that it cannot be the same by chance.

Both directions together make the condition exact.  It needs no inspection of the text: it speaks of
the names and values of the call alone.

* `Brackets.written`: the rendered form of a value is one of its written forms;
* `Writable`: the argument lists that can be written;
* `scanAll_renderAll`: a writable list is read back;
* `writable_of_scanAll_renderAll`: a list that is read back is writable;
* `parse_render_eq_self_iff`: the calls that are read back;
* `parse_render_of_parse`: which calls are read back when they were read before.
-/

namespace LibraryCalls

open Text

/-! ### Rendered values -/

namespace Call

/-- A character between quotes, behind a backslash if it needs one. -/
def QuotedChar.ofChar (c : Char) : QuotedChar :=
  if h : c = '\\' ∨ c = '"' then .escaped c
  else .plain c (fun hq => h (.inr hq)) (fun hb => h (.inl hb))

theorem QuotedChar.char_ofChar (c : Char) : (ofChar c).char = c := by
  rw [ofChar]
  split <;> rfl

theorem flatMap_ofChar (cs : List Char) :
    (cs.map QuotedChar.ofChar).flatMap QuotedChar.text = escapeValue cs := by
  induction cs with
  | nil => rfl
  | cons c cs ih =>
    rw [List.map_cons, List.flatMap_cons, ih, escapeValue, QuotedChar.ofChar]
    by_cases h : c = '\\' ∨ c = '"'
    · rw [dif_pos h, if_pos h]
      rfl
    · rw [dif_neg h, if_neg h]
      rfl

theorem map_char_ofChar (cs : List Char) :
    (cs.map QuotedChar.ofChar).map QuotedChar.char = cs := by
  induction cs with
  | nil => rfl
  | cons c cs ih => rw [List.map_cons, List.map_cons, ih, QuotedChar.char_ofChar]

end Call

namespace Brackets

variable {b : Brackets}

/-- What a character is that needs no quotes. -/
theorem isPlain_iff {c : Char} :
    b.isPlain c = true ↔
      isBlank c = false ∧ c ≠ '"' ∧ c ≠ '\\' ∧ c ∉ b.terminators ∧ c ≠ b.opening := by
  rw [mem_terminators]
  simp only [isPlain, Bool.not_eq_true', Bool.or_eq_false_iff, decide_eq_false_iff_not, not_or]
  tauto

/-- A value of plain characters, written without quotes. -/
def bareWritten (b : Brackets) (value : List Char) (h : value.all b.isPlain) :
    Call.WrittenValue b.terminators :=
  have hplain : ∀ c ∈ value, b.isPlain c = true := List.all_eq_true.1 h
  .bare value (trimmed_of_not_blank fun c hc => (isPlain_iff.1 (hplain c hc)).1)
    (fun c hc => ⟨(isPlain_iff.1 (hplain c hc)).2.1, (isPlain_iff.1 (hplain c hc)).2.2.2.1⟩)
    (fun c hc => (isPlain_iff.1 (hplain c (List.mem_of_mem_head? hc))).2.2.1)

/-- The written form that `renderValue` chooses. -/
def written (b : Brackets) (value : List Char) : Call.WrittenValue b.terminators :=
  if h : value ≠ [] ∧ value.all b.isPlain then b.bareWritten value h.2
  else .quoted (value.map Call.QuotedChar.ofChar)

theorem text_written (value : List Char) : (b.written value).text = b.renderValue value := by
  rw [written, renderValue]
  split
  · rfl
  · rw [Call.WrittenValue.text, Call.flatMap_ofChar]

theorem value_written (value : List Char) : (b.written value).value = trim value := by
  rw [written]
  split
  · rename_i h
    have hplain : ∀ c ∈ value, b.isPlain c = true := List.all_eq_true.1 h.2
    exact (trim_of_trimmed (trimmed_of_not_blank fun c hc => (isPlain_iff.1 (hplain c hc)).1)).symm
  · rw [Call.WrittenValue.value, Call.map_char_ofChar]

def padded (b : Brackets) (ws : Call.Blanks) (value : List Char) :
    Call.PaddedValue b.terminators :=
  ⟨ws, b.written value, ⟨[], blank_nil⟩⟩

theorem text_padded (ws : Call.Blanks) (value : List Char) :
    (b.padded ws value).text = ws.1 ++ b.renderValue value := by
  rw [Call.PaddedValue.text, padded, text_written, List.append_nil]

theorem value_padded (ws : Call.Blanks) (value : List Char) :
    (b.padded ws value).value = trim value := value_written value

/-- A rendered value is quoted, or it is a value of plain characters. -/
theorem renderValue_cases (b : Brackets) (value : List Char) :
    (∃ rest, b.renderValue value = '"' :: rest) ∨
      (b.renderValue value = value ∧ value ≠ [] ∧ ∀ c ∈ value, b.isPlain c = true) := by
  rw [renderValue]
  split
  · rename_i h
    exact .inr ⟨rfl, h.1, List.all_eq_true.1 h.2⟩
  · exact .inl ⟨_, rfl⟩

theorem mem_escapeValue_iff {c : Char} (hc : c ≠ '\\') {cs : List Char} :
    c ∈ escapeValue cs ↔ c ∈ cs := by
  induction cs with
  | nil => exact Iff.rfl
  | cons d cs ih =>
    rw [escapeValue]
    split <;> simp [ih, hc]

theorem mem_renderValue_iff {c : Char} (hq : c ≠ '"') (hc : c ≠ '\\') {value : List Char} :
    c ∈ b.renderValue value ↔ c ∈ value := by
  rw [renderValue]
  split
  · exact Iff.rfl
  · simp [mem_escapeValue_iff hc, hq]

end Brackets

/-! ### Argument lists that can be written -/

namespace Argument

open Call

variable {b : Brackets}

structure IsNamed (a : Argument) : Prop where
  name_ne : a.name ≠ ""
  name_trimmed : Trimmed a.name.toList
  name_no_equals : '=' ∉ a.name.toList

structure IsPositional (a : Argument) : Prop where
  name_eq : a.name = ""
  value_ne : a.value ≠ ""
  value_no_equals : '=' ∉ a.value.toList

/-- A list of arguments that can be written: trimmed values, the named arguments first. -/
structure Writable (args : List Argument) : Prop where
  value_trimmed : ∀ a ∈ args, Trimmed a.value.toList
  blocks : ∃ named positional, args = named ++ positional ∧ (∀ a ∈ named, a.IsNamed) ∧
    ∀ a ∈ positional, a.IsPositional

/-! ### The text of an argument list -/

/-- What `renderAll` writes behind the first argument. -/
def renderRest (b : Brackets) : List Argument → List Char
  | [] => []
  | a :: rest => ',' :: ' ' :: renderAll b (a :: rest)

theorem renderAll_cons (a : Argument) (args : List Argument) :
    renderAll b (a :: args) = a.render b ++ renderRest b args := by
  cases args with
  | nil => exact (List.append_nil _).symm
  | cons c rest => rfl

theorem ends_renderRest (args : List Argument) : Ends b.terminators (renderRest b args) := by
  cases args with
  | nil => exact ends_nil
  | cons a rest => exact ends_cons (Brackets.mem_terminators.2 (.inr rfl)) _

theorem tail_renderRest (args : List Argument) :
    ∃ ws, Blank ws ∧ (renderRest b args).tail = ws ++ renderAll b args := by
  cases args with
  | nil => exact ⟨[], blank_nil, rfl⟩
  | cons a rest => exact ⟨[' '], by decide, rfl⟩

theorem equals_mem_renderRest_iff {args : List Argument} :
    '=' ∈ renderRest b args ↔ '=' ∈ renderAll b args := by
  cases args with
  | nil => exact Iff.rfl
  | cons a rest => simp [renderRest]

theorem render_of_name {a : Argument} (h : a.name ≠ "") :
    a.render b = a.name.toList ++ '=' :: b.renderValue a.value.toList := by
  rw [render]
  exact if_neg h

theorem render_of_no_name {a : Argument} (h : a.name = "") :
    a.render b = b.renderValue a.value.toList := by
  rw [render]
  exact if_pos h

/-- One scan reads a rendered argument with a name. -/
theorem scan_render_named (hb : b.Proper) {ws : List Char} (hws : Blank ws) {a : Argument}
    (hname : a.name ≠ "") (hno : '=' ∉ a.name.toList) {rest : List Char}
    (hrest : Ends b.terminators rest) :
    scan b.terminators (ws ++ a.render b ++ rest) 0
      = .ok (some ⟨⟨String.ofList (trim a.name.toList), String.ofList (trim a.value.toList)⟩,
          (ws ++ a.render b).length + (rest.take 1).length⟩) := by
  have hno' : '=' ∉ ws ++ a.name.toList := by
    rw [List.mem_append]
    rintro (hm | hm)
    · exact hws.not_mem (by decide) hm
    · exact hno hm
  have hscan := scan_name_padded hb.terminating hno' (b.padded ⟨[], blank_nil⟩ a.value.toList) hrest
  rw [Brackets.text_padded, Brackets.value_padded, trim_blank_append hws, List.nil_append,
    List.append_assoc ws, ← render_of_name hname] at hscan
  exact hscan

/-- One scan reads a rendered argument without a name, if no `=` follows. -/
theorem scan_render_positional (hb : b.Proper) {ws : List Char} (hws : Blank ws) {a : Argument}
    (hname : a.name = "") {rest : List Char} (hrest : Ends b.terminators rest)
    (hno : '=' ∉ ws ++ a.render b ++ rest) :
    scan b.terminators (ws ++ a.render b ++ rest) 0
      = .ok (if trim a.value.toList = [] then none
          else some ⟨⟨"", String.ofList (trim a.value.toList)⟩,
            (ws ++ a.render b).length + (rest.take 1).length⟩) := by
  have htext : ws ++ a.render b = (b.padded ⟨ws, hws⟩ a.value.toList).text := by
    rw [Brackets.text_padded, render_of_no_name hname]
  rw [htext] at hno ⊢
  rw [scan_padded hb.terminating _ hrest hno, Brackets.value_padded]

/-! ### Reading back -/

theorem equals_mem_render_of_no_name {a : Argument} (h : a.name = "") :
    '=' ∈ a.render b ↔ '=' ∈ a.value.toList := by
  rw [render_of_no_name h]
  exact Brackets.mem_renderValue_iff (by decide) (by decide)

theorem equals_not_mem_renderAll {args : List Argument} (h : ∀ a ∈ args, a.IsPositional) :
    '=' ∉ renderAll b args := by
  induction args with
  | nil => exact List.not_mem_nil
  | cons a args ih =>
    have ha := h a List.mem_cons_self
    rw [renderAll_cons, List.mem_append, equals_mem_renderRest_iff,
      equals_mem_render_of_no_name ha.name_eq]
    rintro (hm | hm)
    · exact ha.value_no_equals hm
    · exact ih (fun c hc => h c (List.mem_cons_of_mem a hc)) hm

theorem eq_mk_trim {a : Argument} (hn : Trimmed a.name.toList) (hv : Trimmed a.value.toList) :
    ⟨String.ofList (trim a.name.toList), String.ofList (trim a.value.toList)⟩ = a := by
  rw [trim_of_trimmed hn, trim_of_trimmed hv, String.ofList_toList, String.ofList_toList]

theorem IsPositional.trim_ne_nil {a : Argument} (h : a.IsPositional)
    (hv : Trimmed a.value.toList) : trim a.value.toList ≠ [] := by
  rw [trim_of_trimmed hv]
  intro hnil
  exact h.value_ne (String.toList_eq_nil_iff.1 hnil)

/-- **Positional arguments are read back.** -/
theorem scanAll_renderAll_positional (hb : b.Proper) {args : List Argument}
    (hpos : ∀ a ∈ args, a.IsPositional) (htrim : ∀ a ∈ args, Trimmed a.value.toList)
    {ws : List Char} (hws : Blank ws) :
    scanAll b.terminators (ws ++ renderAll b args) = .ok args := by
  induction args generalizing ws with
  | nil =>
    rw [renderAll, List.append_nil]
    exact scanAll_blank hb.terminating hws
  | cons a args ih =>
    have ha := hpos a List.mem_cons_self
    have hv := htrim a List.mem_cons_self
    have hno : '=' ∉ ws ++ a.render b ++ renderRest b args := by
      rw [List.append_assoc, ← renderAll_cons, List.mem_append]
      rintro (hm | hm)
      · exact hws.not_mem (by decide) hm
      · exact equals_not_mem_renderAll hpos hm
    have hscan := scan_render_positional hb hws ha.name_eq (ends_renderRest args) hno
    have heq : (⟨"", String.ofList (trim a.value.toList)⟩ : Argument) = a := by
      rw [trim_of_trimmed hv, String.ofList_toList, ← ha.name_eq]
    rw [if_neg (ha.trim_ne_nil hv), heq] at hscan
    rw [renderAll_cons, ← List.append_assoc]
    obtain ⟨ws', hws', htail⟩ := tail_renderRest (b := b) args
    refine scanAll_cons hscan ?_
    rw [htail]
    exact ih (fun c hc => hpos c (List.mem_cons_of_mem a hc))
      (fun c hc => htrim c (List.mem_cons_of_mem a hc)) hws'

/-- **A writable list is read back.** -/
theorem scanAll_renderAll (hb : b.Proper) {args : List Argument} (h : Writable args)
    {ws : List Char} (hws : Blank ws) :
    scanAll b.terminators (ws ++ renderAll b args) = .ok args := by
  obtain ⟨htrim, named, positional, rfl, hnamed, hpos⟩ := h
  induction named generalizing ws with
  | nil => exact scanAll_renderAll_positional hb hpos htrim hws
  | cons a named ih =>
    have ha := hnamed a List.mem_cons_self
    have hv := htrim a List.mem_cons_self
    have hscan := scan_render_named hb hws ha.name_ne ha.name_no_equals
      (ends_renderRest (named ++ positional))
    rw [eq_mk_trim ha.name_trimmed hv] at hscan
    rw [List.cons_append, renderAll_cons, ← List.append_assoc]
    obtain ⟨ws', hws', htail⟩ := tail_renderRest (b := b) (named ++ positional)
    refine scanAll_cons hscan ?_
    rw [htail]
    exact ih hws' (fun c hc => htrim c (List.mem_cons_of_mem a hc))
      (fun c hc => hnamed c (List.mem_cons_of_mem a hc))

/-! ### Nothing else is read back -/

/-- After a scan that has read `text` and what ends it, the arguments that follow are those of the
rest. -/
theorem scanAll_tail_of_cons {text rest : List Char} {terminators : List Char} {a c : Argument}
    {args : List Argument}
    (hscan : scan terminators (text ++ rest) 0
      = .ok (some ⟨c, text.length + (rest.take 1).length⟩))
    (h : scanAll terminators (text ++ rest) = .ok (a :: args)) :
    c = a ∧ scanAll terminators rest.tail = .ok args := by
  obtain ⟨resume, hs, hargs⟩ := scanAll_eq_cons_iff.1 h
  rw [hscan] at hs
  obtain ⟨rfl, rfl⟩ : c = a ∧ text.length + (rest.take 1).length = resume := by simpa using hs
  rw [drop_past] at hargs
  exact ⟨rfl, hargs⟩

/-- A rendered value with nothing but blanks before its first `=` begins with that `=`, and what is
read behind it is shorter than the value. -/
theorem trim_kept_ne_value (hb : b.Proper) {ws before after rest value kept : List Char}
    {resume : Nat} (hws : Blank ws) (hbefore : Blank before) (hrest : Ends b.terminators rest)
    (htext : ws ++ b.renderValue value ++ rest = before ++ '=' :: after)
    (hscan : scanValue b.terminators .lead (before.length + 1) after = .ok (kept, resume)) :
    trim kept ≠ value := by
  -- without the blanks on both sides the two texts begin with the value and with the `=`
  have hstart := congrArg trimStart htext
  rw [List.append_assoc, trimStart, trimStart, List.dropWhile_append_of_pos hws,
    List.dropWhile_append_of_pos hbefore, List.dropWhile_cons_of_neg (by decide)] at hstart
  rcases b.renderValue_cases value with ⟨quoted, hq⟩ | ⟨hv, hne, hplain⟩
  · rw [hq, List.cons_append, List.dropWhile_cons_of_neg (by decide)] at hstart
    exact absurd (List.cons.inj hstart).1 (by decide)
  · cases value with
    | nil => exact absurd rfl hne
    | cons c cs =>
      have hc := Brackets.isPlain_iff.1 (hplain c List.mem_cons_self)
      rw [hv, List.cons_append, List.dropWhile_cons_of_neg (by simp [hc.1])] at hstart
      obtain ⟨rfl, rfl⟩ := List.cons.inj hstart
      have hcs : cs.all b.isPlain := List.all_eq_true.2 fun d hd =>
        hplain d (List.mem_cons_of_mem _ hd)
      let padded : PaddedValue b.terminators :=
        ⟨⟨[], blank_nil⟩, b.bareWritten cs hcs, ⟨[], blank_nil⟩⟩
      have htext' : padded.text = cs := List.append_nil cs
      obtain ⟨kept', hscan', hkept'⟩ := padded.scanValue hb.terminating hrest (before.length + 1)
      rw [htext', hscan] at hscan'
      obtain ⟨rfl, -⟩ := Prod.mk.inj (Except.ok.inj hscan')
      rw [hkept']
      intro heq
      have hlen : cs.length = ('=' :: cs).length := congrArg List.length heq
      rw [List.length_cons] at hlen
      omega

/-- An argument without a name is not read back when an `=` follows. -/
theorem not_scanAll_of_equals (hb : b.Proper) {ws rest : List Char} (hws : Blank ws)
    (hrest : Ends b.terminators rest) {a : Argument} (hname : a.name = "") {args : List Argument}
    (hmem : '=' ∈ ws ++ a.render b ++ rest) :
    scanAll b.terminators (ws ++ a.render b ++ rest) ≠ .ok (a :: args) := by
  intro h
  obtain ⟨resume, hs, -⟩ := scanAll_eq_cons_iff.1 h
  rcases scan_eq_some_iff.1 hs with ⟨before, after, kept, htext, -, hscan, ha⟩ | ⟨hno, -⟩
  · have hn : a.name = String.ofList (trim before) := congrArg Argument.name ha
    have hv : a.value = String.ofList (trim kept) := congrArg Argument.value ha
    have hbefore : Blank before := by
      rw [← trim_eq_nil_iff, ← String.ofList_eq_empty_iff, ← hn]
      exact hname
    rw [render_of_no_name hname] at htext
    refine trim_kept_ne_value hb hws hbefore hrest htext hscan ?_
    rw [hv, String.toList_ofList]
  · exact hno hmem

theorem mem_renderAll {c : Char} {a : Argument} {args : List Argument} (ha : a ∈ args)
    (hc : c ∈ a.render b) : c ∈ renderAll b args := by
  induction args with
  | nil => exact absurd ha List.not_mem_nil
  | cons d args ih =>
    rw [renderAll_cons, List.mem_append]
    rcases List.mem_cons.1 ha with rfl | ha
    · exact .inl hc
    · have hmem := ih ha
      obtain ⟨ws, -, htail⟩ := tail_renderRest (b := b) args
      exact .inr (List.mem_of_mem_tail (by rw [htail]; exact List.mem_append_right ws hmem))

theorem Writable.isPositional {args : List Argument} (h : Writable args)
    (hno : '=' ∉ renderAll b args) : ∀ a ∈ args, a.IsPositional := by
  obtain ⟨-, named, positional, rfl, hnamed, hpos⟩ := h
  intro a ha
  rcases List.mem_append.1 ha with hn | hp
  · exfalso
    apply hno
    apply mem_renderAll ha
    rw [render_of_name (hnamed a hn).name_ne]
    exact List.mem_append_right _ List.mem_cons_self
  · exact hpos a hp

/-- **A list that is read back is writable.** -/
theorem writable_of_scanAll_renderAll (hb : b.Proper) {args : List Argument} {ws : List Char}
    (hws : Blank ws) (h : scanAll b.terminators (ws ++ renderAll b args) = .ok args) :
    Writable args := by
  induction args generalizing ws with
  | nil => exact ⟨by simp, [], [], rfl, by simp, by simp⟩
  | cons a args ih =>
    have hclean := clean_of_scanAll h
    have ha := hclean a List.mem_cons_self
    have htrim : ∀ c ∈ a :: args, Trimmed c.value.toList := fun c hc => (hclean c hc).value_trimmed
    have hends := ends_renderRest (b := b) args
    obtain ⟨ws', hws', htail⟩ := tail_renderRest (b := b) args
    rw [renderAll_cons, ← List.append_assoc] at h
    by_cases hname : a.name = ""
    · by_cases hmem : '=' ∈ ws ++ a.render b ++ renderRest b args
      · exact absurd h (not_scanAll_of_equals hb hws hends hname hmem)
      · -- no `=` is left, so every argument from here on is positional
        have hscan := scan_render_positional hb hws hname hends hmem
        by_cases hnil : trim a.value.toList = []
        · rw [if_pos hnil] at hscan
          rw [scanAll_of_none hscan] at h
          exact absurd h (by simp)
        · rw [if_neg hnil] at hscan
          obtain ⟨-, hrest⟩ := scanAll_tail_of_cons hscan h
          rw [htail] at hrest
          have hpos := (ih hws' hrest).isPositional (b := b) fun hm => hmem
            (List.mem_append_right _ (equals_mem_renderRest_iff.2 hm))
          have hvalue : '=' ∉ a.value.toList := fun hm => hmem
            (List.mem_append_left _ (List.mem_append_right ws
              ((equals_mem_render_of_no_name hname).2 hm)))
          have hne : a.value ≠ "" := by
            intro he
            rw [he] at hnil
            exact hnil rfl
          refine ⟨htrim, [], a :: args, rfl, by simp, ?_⟩
          intro c hc
          rcases List.mem_cons.1 hc with rfl | hc
          · exact ⟨hname, hne, hvalue⟩
          · exact hpos c hc
    · have hscan := scan_render_named hb hws hname ha.name_no_equals hends
      obtain ⟨-, hrest⟩ := scanAll_tail_of_cons hscan h
      rw [htail] at hrest
      obtain ⟨-, named, positional, rfl, hnamed, hpos⟩ := ih hws' hrest
      refine ⟨htrim, a :: named, positional, rfl, ?_, hpos⟩
      intro c hc
      rcases List.mem_cons.1 hc with rfl | hc
      · exact ⟨hname, ha.name_trimmed, ha.name_no_equals⟩
      · exact hnamed c hc

/-! ### Arguments that were read before -/

/-- Arguments of which only the last ones lack a name, and those can be written. -/
def NamedFirst (args : List Argument) : Prop :=
  ∃ named positional, args = named ++ positional ∧ (∀ a ∈ named, a.name ≠ "") ∧
    ∀ a ∈ positional, a.IsPositional

/-- Arguments that were read are clean, so the order of their names is all they need. -/
theorem writable_of_clean {args : List Argument} (hclean : ∀ a ∈ args, a.Clean)
    (h : NamedFirst args) : Writable args := by
  obtain ⟨named, positional, rfl, hnamed, hpos⟩ := h
  refine ⟨fun a ha => (hclean a ha).value_trimmed, named, positional, rfl, ?_, hpos⟩
  intro a ha
  have hc := hclean a (List.mem_append_left positional ha)
  exact ⟨hnamed a ha, hc.name_trimmed, hc.name_no_equals⟩

theorem Writable.no_equals {args : List Argument} (h : Writable args) {a : Argument}
    (ha : a ∈ args) (hname : a.name = "") : '=' ∉ a.value.toList := by
  obtain ⟨-, named, positional, rfl, hnamed, hpos⟩ := h
  rcases List.mem_append.1 ha with hn | hp
  · exact absurd hname (hnamed a hn).name_ne
  · exact (hpos a hp).value_no_equals

end Argument

/-! ### Reading back a call -/

namespace Call

open Argument

variable {b : Brackets}

theorem render_eq_enclose (call : Call) :
    call.render b = b.enclose call.name.toList (renderAll b call.arguments) := by
  rw [render, Brackets.enclose, List.append_assoc, List.cons_append]

/-- A name without an opening bracket is read back when it is trimmed, the arguments when they can
be written. -/
theorem parse_render_of_no_opening (hb : b.Proper) {call : Call}
    (hname : b.opening ∉ call.name.toList) :
    parse b (call.render b) = .ok call ↔
      Trimmed call.name.toList ∧ Writable call.arguments := by
  have hargs : scanAll b.terminators (renderAll b call.arguments) = .ok call.arguments ↔
      Writable call.arguments :=
    ⟨writable_of_scanAll_renderAll hb blank_nil, fun h => scanAll_renderAll hb h blank_nil⟩
  rw [render_eq_enclose, parse_enclose_eq_ok_iff hname, hargs, ← trim_eq_self_iff]
  constructor
  · rintro ⟨hn, h⟩
    refine ⟨?_, h⟩
    rw [hn, String.toList_ofList] at hname ⊢
    exact trim_of_trimmed (trimmed_trim _)
  · rintro ⟨hn, h⟩
    exact ⟨by rw [hn, String.ofList_toList], h⟩

/-- **The calls that are read back.**  Reading the text that `render` writes gives the call again
exactly when its name is trimmed and holds no opening bracket, its values are trimmed, and its
arguments are named ones followed by positional ones that can be written. -/
theorem parse_render_eq_self_iff (b : Brackets) (hb : b.Proper) (call : Call) :
    parse b (call.render b) = .ok call ↔
      Trimmed call.name.toList ∧ b.opening ∉ call.name.toList ∧ Writable call.arguments := by
  constructor
  · intro h
    have hname : b.opening ∉ call.name.toList := (clean_of_parse h).2.1
    obtain ⟨htrim, hargs⟩ := (parse_render_of_no_opening hb hname).1 h
    exact ⟨htrim, hname, hargs⟩
  · rintro ⟨htrim, hname, hargs⟩
    exact (parse_render_of_no_opening hb hname).2 ⟨htrim, hargs⟩

/-- A name with a closing bracket and a comma, a value that needs quotes and escapes, and an opening
bracket that closes too. -/
theorem parse_render_bars :
    Brackets.Proper ⟨'|', '|'⟩ ∧
      parse ⟨'|', '|'⟩ (render ⟨'|', '|'⟩ ⟨"lib", [⟨"a|,", "say \"|\" \\"⟩, ⟨"", "x y"⟩]⟩)
        = .ok ⟨"lib", [⟨"a|,", "say \"|\" \\"⟩, ⟨"", "x y"⟩]⟩ := by
  refine ⟨by decide, (parse_render_eq_self_iff _ (by decide) _).2 ⟨by decide, by decide, ?_⟩⟩
  exact ⟨by decide, [⟨"a|,", "say \"|\" \\"⟩], [⟨"", "x y"⟩], rfl,
    by simpa using ⟨by decide, by decide, by decide⟩, by simpa using ⟨rfl, by decide, by decide⟩⟩

/-- **Reading, writing and reading again.**  A call that was read is read again from its rendered
text when all its arguments without a name come last, hold no `=` and are not empty.  It never is
when an argument without a name holds `=`, because its rendered text is cut there. -/
theorem parse_render_of_parse (b : Brackets) (hb : b.Proper) (text : String) (call : Call)
    (h : parse b text = .ok call) :
    (NamedFirst call.arguments → parse b (call.render b) = .ok call) ∧
      ((∃ a ∈ call.arguments, a.name = "" ∧ '=' ∈ a.value.toList) →
        parse b (call.render b) ≠ .ok call) := by
  obtain ⟨htrim, hname, hclean⟩ := clean_of_parse h
  have hiff := parse_render_of_no_opening hb hname
  constructor
  · intro hfirst
    exact hiff.2 ⟨htrim, writable_of_clean hclean hfirst⟩
  · rintro ⟨a, ha, hempty, hequals⟩ hback
    exact (hiff.1 hback).2.no_equals ha hempty hequals

/-- A value behind an empty name may hold `=`, and is then split at it when it is read again. -/
theorem reparse_lone_equals :
    parse .round "lib(=a=b)" = .ok ⟨"lib", [⟨"", "a=b"⟩]⟩ ∧
      parse .round (render .round ⟨"lib", [⟨"", "a=b"⟩]⟩) ≠ .ok ⟨"lib", [⟨"", "a=b"⟩]⟩ := by
  have hread : parse .round (render .round ⟨"lib", [⟨"", "a=b"⟩]⟩)
      = .ok ⟨"lib", [⟨"a", "b"⟩]⟩ := by cbv
  refine ⟨by cbv, ?_⟩
  rw [hread]
  simp

/-- A call that is read from a loosely written text, and again from its rendered one. -/
theorem reparse_loose :
    Brackets.round.Proper ∧
      parse .round " lib ( a = \"x, y\" ) z )" = .ok ⟨"lib", [⟨"a", "x, y"⟩, ⟨"", "z"⟩]⟩ ∧
      parse .round (render .round ⟨"lib", [⟨"a", "x, y"⟩, ⟨"", "z"⟩]⟩)
        = .ok ⟨"lib", [⟨"a", "x, y"⟩, ⟨"", "z"⟩]⟩ := by
  have hread : parse .round " lib ( a = \"x, y\" ) z )"
      = .ok ⟨"lib", [⟨"a", "x, y"⟩, ⟨"", "z"⟩]⟩ := by cbv
  refine ⟨Brackets.round_proper, hread,
    (parse_render_of_parse .round Brackets.round_proper _ _ hread).1 ?_⟩
  exact ⟨[⟨"a", "x, y"⟩], [⟨"", "z"⟩], rfl, by simp, by simpa using ⟨rfl, by decide, by decide⟩⟩

end Call

end LibraryCalls
