import Mathlib
import LibraryCalls.Proofs.Library.Lines
import LibraryCalls.Proofs.Placeholder.Names

/-!
# What a definition injects

A definition without entries injects nothing.  The strict policy refuses the first entry that holds
a placeholder without a value; otherwise the code has one statement for each entry.  A statement can
be read back from its text: no opening is the beginning of another one, and what stands between the
opening and the closing is the entry, whatever it holds.

Statements are told apart by their openings, of which there are three; since none begins another
one, a line belongs to at most one kind of statement, and its entry is what is left between the
opening and the closing.  This holds for entries with any characters in them, quotes and brackets
included, as the closing is looked for at the end of the line only.

The result puts together what is known of both policies, of mappings that are given and of those
that are not, and of the lines of the code.  Line ends are the one thing that has to be excluded.

* `Statement.text_injective`, `Statement.ofText?_eq_some_iff`: statements and their texts;
* `injection_of_refused`, `injection_of_accepted`: the two ways a definition with entries can end;
* `exists_lines_of_plain`: without a line end in entries and values, the lines are the statements;
* `injectionOf_outcome`: all of it, and the statements read back from the lines of the code.
-/

namespace LibraryCalls

open Text Placeholder

/-! ### Reading statements -/

/-- The text between an opening and a closing one. -/
def between? (opening closing line : List Char) : Option String :=
  (opening.isPrefixOf? line).bind fun rest => (closing.isSuffixOf? rest).map String.ofList

theorem between?_eq_some_iff {opening closing line : List Char} {entry : String} :
    between? opening closing line = some entry ↔ line = opening ++ entry.toList ++ closing := by
  simp only [between?, Option.bind_eq_some_iff, Option.map_eq_some_iff,
    List.isPrefixOf?_eq_some_iff_append_eq, List.isSuffixOf?_eq_some_iff_append_eq]
  constructor
  · rintro ⟨rest, rfl, cs, rfl, rfl⟩
    rw [String.toList_ofList, List.append_assoc]
  · rintro rfl
    exact ⟨entry.toList ++ closing, by rw [List.append_assoc], entry.toList, rfl,
      String.ofList_toList⟩

namespace Statement

def kinds : List Statement :=
  [.repository "", .dependency "", .import_ ""]

/-- The statement with this text, if there is one. -/
def ofText? (line : List Char) : Option Statement :=
  kinds.findSome? fun kind =>
    (between? kind.opening.toList kind.closing.toList line).map kind.withEntry

theorem opening_withEntry (s : Statement) (entry : String) :
    (s.withEntry entry).opening = s.opening := by
  cases s <;> rfl

theorem closing_withEntry (s : Statement) (entry : String) :
    (s.withEntry entry).closing = s.closing := by
  cases s <;> rfl

theorem withEntry_entry (s : Statement) : s.withEntry s.entry = s := by
  cases s <;> rfl

theorem exists_kind (s : Statement) : ∃ kind ∈ kinds, kind.withEntry s.entry = s := by
  cases s with
  | repository e => exact ⟨.repository "", by simp [kinds], rfl⟩
  | dependency e => exact ⟨.dependency "", by simp [kinds], rfl⟩
  | import_ e => exact ⟨.import_ "", by simp [kinds], rfl⟩

/-- **No opening is the beginning of another one.** -/
theorem withEntry_of_opening_prefix {s s' : Statement}
    (h : s.opening.toList <+: s'.opening.toList) : s.withEntry s'.entry = s' := by
  cases s <;> cases s' <;> first | rfl | exact absurd h (by simp only [opening]; decide)

/-- **Statements with the same text are the same**, whatever their entries hold. -/
theorem text_injective {s s' : Statement} (h : s.text = s'.text) : s = s' := by
  have htext := congrArg String.toList h
  rw [toList_text, toList_text, List.append_assoc, List.append_assoc] at htext
  -- both openings begin the same text, so that one of them begins the other
  have hkind : s.withEntry s'.entry = s' := by
    rcases List.prefix_or_prefix_of_prefix (List.prefix_append s.opening.toList _)
      (htext ▸ List.prefix_append s'.opening.toList _) with hprefix | hprefix
    · exact withEntry_of_opening_prefix hprefix
    · rw [← withEntry_of_opening_prefix hprefix]
      cases s <;> cases s' <;> rfl
  have hentry : s.entry = s'.entry := by
    rw [← hkind, opening_withEntry, closing_withEntry, entry_withEntry] at htext
    exact String.toList_inj.1 (List.append_cancel_right (List.append_cancel_left htext))
  rw [← hkind, ← hentry, withEntry_entry]

/-- **A statement is read back from its text.** -/
theorem ofText?_eq_some_iff {line : List Char} {s : Statement} :
    ofText? line = some s ↔ line = s.text.toList := by
  have hsound : ∀ s, ofText? line = some s → line = s.text.toList := by
    intro s h
    obtain ⟨kind, -, hkind⟩ := List.exists_of_findSome?_eq_some h
    obtain ⟨entry, hentry, rfl⟩ := Option.map_eq_some_iff.1 hkind
    rw [toList_text, opening_withEntry, closing_withEntry, entry_withEntry]
    exact between?_eq_some_iff.1 hentry
  refine ⟨hsound s, ?_⟩
  rintro rfl
  obtain ⟨kind, hmem, hkind⟩ := exists_kind s
  have hfound : between? kind.opening.toList kind.closing.toList s.text.toList = some s.entry := by
    rw [between?_eq_some_iff, toList_text, ← hkind, opening_withEntry, closing_withEntry,
      entry_withEntry]
  have hsome : (ofText? s.text.toList).isSome := by
    rw [ofText?, List.findSome?_isSome_iff]
    exact ⟨kind, hmem, by rw [hfound]; rfl⟩
  obtain ⟨s', hs'⟩ := Option.isSome_iff_exists.1 hsome
  rw [hs', text_injective (String.toList_inj.1 (hsound s' hs'))]

/-- An entry that looks like the end of its statement and the beginning of another one. -/
example : ofText? "@file:DependsOn(\"a\")import b\")".toList =
    some (.dependency "a\")import b") := by
  cbv

end Statement

/-! ### Outcomes -/

namespace Definition

variable {policy : Policy} {mapping : Assoc String String} {d : Definition} {entry : String}

/-- The statements of a definition with the values put in, kind by kind. -/
theorem filled_eq (mapping : Assoc String String) (d : Definition) :
    d.filled mapping
      = d.repositories.map (fun e => Statement.repository (Placeholder.fill mapping e))
        ++ d.dependencies.map (fun e => Statement.dependency (Placeholder.fill mapping e))
        ++ d.imports.map (fun e => Statement.import_ (Placeholder.fill mapping e)) := by
  rw [filled, statements, List.map_append, List.map_append, List.map_map, List.map_map,
    List.map_map]
  rfl

theorem exists_mem_of_mem_inserted {value : String} (h : value ∈ inserted mapping entry) :
    ∃ name, (name, value) ∈ mapping := by
  obtain ⟨piece, -, hvalue⟩ := List.mem_filterMap.1 h
  obtain ⟨name, -, hget⟩ := Option.bind_eq_some_iff.1 hvalue
  exact ⟨name, Assoc.mem_of_get? hget⟩

/-- **The statements are read back from the lines of their code**, if no entry and no value holds a
line end; behind the last line end stands nothing. -/
theorem exists_lines_of_plain (hentries : ∀ e ∈ d.entries, '\n' ∉ e.toList)
    (hvalues : ∀ p ∈ mapping, '\n' ∉ p.2.toList) :
    ∃ lines, splitOn '\n' (code (d.filled mapping)).toList = lines ++ [[]] ∧
      lines.map Statement.ofText? = (d.filled mapping).map some := by
  have hinserted : ∀ e ∈ d.entries, ∀ value ∈ inserted mapping e, '\n' ∉ value.toList := by
    intro e _ value hvalue
    obtain ⟨name, hmem⟩ := exists_mem_of_mem_inserted hvalue
    exact hvalues _ hmem
  refine ⟨_, (splitOn_code_filled_iff hentries).2 hinserted, ?_⟩
  rw [List.map_map]
  exact List.map_congr_left fun s _ => Statement.ofText?_eq_some_iff.2 rfl

/-- The lines of the code, kind by kind. -/
theorem code_filled (mapping : Assoc String String) (d : Definition) :
    code (d.filled mapping) = String.join
      (d.repositories.map (fun e => "@file:Repository(\"" ++ Placeholder.fill mapping e ++ "\")\n")
        ++ d.dependencies.map
            (fun e => "@file:DependsOn(\"" ++ Placeholder.fill mapping e ++ "\")\n")
        ++ d.imports.map (fun e => "import " ++ Placeholder.fill mapping e ++ "\n")) := by
  have hline : ∀ s : Statement, s.line = s.opening ++ s.entry ++ (s.closing ++ "\n") := by
    intro s
    rw [Statement.line, Statement.text_eq, String.append_assoc]
  have hquoted : "\")" ++ "\n" = "\")\n" := by decide
  have hplain : "" ++ "\n" = "\n" := by decide
  have hrepository : ∀ e, (Statement.repository e).line = "@file:Repository(\"" ++ e ++ "\")\n" :=
    fun e => (hline _).trans (congrArg _ hquoted)
  have hdependency : ∀ e, (Statement.dependency e).line = "@file:DependsOn(\"" ++ e ++ "\")\n" :=
    fun e => (hline _).trans (congrArg _ hquoted)
  have himport : ∀ e, (Statement.import_ e).line = "import " ++ e ++ "\n" :=
    fun e => (hline _).trans (congrArg _ hplain)
  simp only [code, filled_eq, List.map_append, List.map_map, Function.comp_def, hrepository,
    hdependency, himport]

/-- **The first entry with a placeholder without a value is refused.** -/
theorem injection_of_refused
    (h : d.entries.find? (fun e => missing mapping e ≠ []) = some entry) :
    d.injection .strict mapping = .error ⟨missing mapping entry, entry⟩ := by
  rw [injection_strict, findSome?_unresolved?, h]
  rfl

/-- **Without such an entry, or under the lenient policy, there is code** for the entries. -/
theorem injection_of_accepted (h : policy = .strict → ∀ e ∈ d.entries, missing mapping e = []) :
    d.injection policy mapping
      = .ok (if d.entries = [] then none else some (code (d.filled mapping))) := by
  cases policy with
  | lenient => exact injection_lenient mapping d
  | strict =>
    have hnone : d.entries.find? (fun e => missing mapping e ≠ []) = none := by
      simpa using h rfl
    rw [injection_strict, findSome?_unresolved?, hnone]
    exact injection_lenient mapping d

/-- Under either policy an entry is refused or there is code. -/
theorem injection_cases (policy : Policy) (mapping : Assoc String String) (d : Definition) :
    (∃ entry, policy = .strict ∧
        d.entries.find? (fun e => missing mapping e ≠ []) = some entry) ∨
      (policy = .strict → ∀ e ∈ d.entries, missing mapping e = []) := by
  cases policy with
  | lenient => exact .inr fun h => by cases h
  | strict =>
    cases h : d.entries.find? fun e => missing mapping e ≠ [] with
    | some entry => exact .inl ⟨entry, rfl, rfl⟩
    | none => exact .inr fun _ => by simpa using h

/-- **Only a definition without entries injects nothing.** -/
theorem injection_eq_none_iff : d.injection policy mapping = .ok none ↔ d.entries = [] := by
  rcases injection_cases policy mapping d with ⟨entry, rfl, hfind⟩ | haccepted
  · rw [injection_of_refused hfind]
    refine iff_of_false (fun h => by cases h) fun hnil => ?_
    rw [hnil] at hfind
    cases hfind
  · rw [injection_of_accepted haccepted]
    split
    · next hnil => exact iff_of_true rfl hnil
    · next hne => exact iff_of_false (fun h => by cases h) hne

theorem eq_code_of_injection {c : String} (h : d.injection policy mapping = .ok (some c)) :
    c = code (d.filled mapping) := by
  rcases injection_cases policy mapping d with ⟨entry, rfl, hfind⟩ | haccepted
  · rw [injection_of_refused hfind] at h
    cases h
  · rw [injection_of_accepted haccepted] at h
    split at h
    · cases h
    · exact (Option.some.inj (Except.ok.inj h)).symm

/-- **What a definition injects**, under either policy and with values or without.  There is no code
exactly when there is no entry.  The strict policy refuses the first entry, in the order of
repositories, dependencies and imports, that holds a placeholder without a value, and names those
placeholders.  In all other cases there is one line for each entry, with the values put in; and if
neither the entries nor the values hold line ends, the lines read back give the kinds of the entries
and their texts with the values put in. -/
theorem injectionOf_outcome (policy : Policy) (given : Option (Assoc String String))
    (d : Definition) :
    let mapping := given.getD []
    let entries := d.repositories ++ d.dependencies ++ d.imports
    let valueless := fun entry => (names entry).filter fun name => name ∉ mapping.keys
    (d.injectionOf policy given = .ok none ↔
        d.repositories = [] ∧ d.dependencies = [] ∧ d.imports = []) ∧
      (policy = .strict → ∀ entry, entries.find? (fun e => valueless e ≠ []) = some entry →
        d.injectionOf policy given = .error ⟨valueless entry, entry⟩) ∧
      (entries ≠ [] → (policy = .strict → ∀ e ∈ entries, valueless e = []) →
        (∀ e ∈ entries, substitute policy mapping e = .ok (fill mapping e)) ∧
        d.injectionOf policy given = .ok (some (String.join
          (d.repositories.map (fun e => "@file:Repository(\"" ++ fill mapping e ++ "\")\n")
            ++ d.dependencies.map (fun e => "@file:DependsOn(\"" ++ fill mapping e ++ "\")\n")
            ++ d.imports.map (fun e => "import " ++ fill mapping e ++ "\n"))))) ∧
      ∀ code, d.injectionOf policy given = .ok (some code) →
        (∀ e ∈ entries, '\n' ∉ e.toList) → (∀ p ∈ mapping, '\n' ∉ p.2.toList) →
        ∃ lines, splitOn '\n' code.toList = lines ++ [[]] ∧
          lines.map Statement.ofText? =
            (d.repositories.map (fun e => Statement.repository (fill mapping e))
              ++ d.dependencies.map (fun e => Statement.dependency (fill mapping e))
              ++ d.imports.map (fun e => Statement.import_ (fill mapping e))).map some := by
  intro mapping entries valueless
  have hvalueless : valueless = missing mapping :=
    funext fun entry => (missing_eq_filter_keys mapping entry).symm
  clear_value valueless
  subst hvalueless
  refine ⟨?_, ?_, fun hne haccepted => ⟨fun e he => ?_, ?_⟩, ?_⟩
  · rw [injectionOf, injection_eq_none_iff, Definition.entries, List.append_eq_nil_iff,
      List.append_eq_nil_iff, and_assoc]
  · rintro rfl entry hfind
    exact injection_of_refused hfind
  · cases policy with
    | lenient => rfl
    | strict => rw [substitute, if_pos (haccepted rfl e he)]
  · have hentries : d.entries ≠ [] := hne
    rw [injectionOf, injection_of_accepted haccepted, if_neg hentries, code_filled]
  · intro c hcode hentries hvalues
    rw [eq_code_of_injection hcode, ← filled_eq]
    exact exists_lines_of_plain hentries hvalues

/-- A value that closes its quotes and looks like a placeholder, and a placeholder without a value.
-/
theorem injectionOf_outcome_quoted :
    let d : Definition := ⟨["r/$\x7ba\x7d"], ["g:$\x7ba\x7d:$\x7bb\x7d"], ["p.*"], [], [], []⟩
    let given : Option (Assoc String String) := some [("a", "$\x7bc\x7d\")")]
    d.injectionOf .strict none = .error ⟨["a"], "r/$\x7ba\x7d"⟩ ∧
      d.injectionOf .strict given = .error ⟨["b"], "g:$\x7ba\x7d:$\x7bb\x7d"⟩ ∧
      ∃ code, d.injectionOf .lenient given = .ok (some code) ∧
        ∃ lines, splitOn '\n' code.toList = lines ++ [[]] ∧
          lines.map Statement.ofText? = [some (.repository "r/$\x7bc\x7d\")"),
            some (.dependency "g:$\x7bc\x7d\"):$\x7bb\x7d"), some (.import_ "p.*")] := by
  intro d given
  refine ⟨?_, ?_, ?_⟩
  · obtain ⟨-, hrefused, -⟩ := injectionOf_outcome .strict none d
    exact (hrefused rfl "r/$\x7ba\x7d" (by cbv)).trans (by cbv)
  · obtain ⟨-, hrefused, -⟩ := injectionOf_outcome .strict given d
    exact (hrefused rfl "g:$\x7ba\x7d:$\x7bb\x7d" (by cbv)).trans (by cbv)
  · obtain ⟨-, -, haccepted, hread⟩ := injectionOf_outcome .lenient given d
    obtain ⟨-, hcode⟩ := haccepted (by decide) (by decide)
    obtain ⟨lines, hlines, hstatements⟩ := hread _ hcode (by decide) (by decide)
    exact ⟨_, hcode, lines, hlines, hstatements.trans (by cbv)⟩

end Definition

end LibraryCalls
