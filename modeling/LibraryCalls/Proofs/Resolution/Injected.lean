import Mathlib
import LibraryCalls.Proofs.Library.Lines
import LibraryCalls.Proofs.Resolution.Order

/-!
# The lines that a call injects

The values of a call are put into the entries of its library as they are.  The code keeps one line
for each entry, and two double quotes around each quoted entry, as long as the values bring in no
line end and no double quote; nothing else keeps them out.

A value may hold anything, a line end, a quote, a backslash or the closing of the statement it is
put into.  With the first two ruled out for the values and for the entries of the library, the code
has the expected number of lines, and in each line the quotes are those of the statement.

That the condition on the values is needed is shown by a single call whose value closes its quotes
and goes on with a statement of its own on the next line.

* `code_of_resolve`: the code of a call is that of its library's own definition;
* `resolve_code_lines`: when it has one line for each entry, and only the quotes of its statements;
* `resolve_code_extra_line`: a value that closes its quotes and adds a statement.
-/

namespace LibraryCalls

open Resolution Placeholder Text

variable {descriptors : Assoc String Descriptor} {host : Option Host} {policy : Policy}
  {text : String} {r : Resolved} {d : Descriptor}

/-- Without extra producers the code of a call is that of its library's own definition. -/
theorem code_of_resolve (h : (resolve descriptors host [] policy text).outcome = .ok r)
    (hfound : descriptors.get? r.name = some d) :
    String.join r.initCode = Definition.code (d.definition.filled r.arguments) := by
  obtain ⟨descriptor, found, hbind, hcollect, hdefinitions, hcode, -⟩ :=
    outcome_resolve_eq_ok_iff_collect.1 h
  obtain ⟨-, -, hknown, -⟩ := bindCall_eq_ok_iff.1 hbind
  obtain rfl : descriptor = d := Option.some.inj (hknown.symm.trans hfound)
  obtain rfl : [] = found := Except.ok.inj hcollect
  rw [hcode, hdefinitions, fragments]
  by_cases hentries : descriptor.definition.entries = []
  · -- no entry, no statement: the code is empty on both sides
    have hstatements : descriptor.definition.statements = [] := by
      rw [← List.map_eq_nil_iff, Definition.map_entry_statements, hentries]
    simp [hentries, Definition.filled, hstatements, Definition.code, String.join]
  · simp [hentries, String.join]

/-- **The lines that a call injects**, for a library whose entries hold no line end and no double
quote.  The code is made of one statement for each entry, in order, with the values put in.  These
statements are its lines exactly when no value that is put in holds a line end, and every statement
that quotes its entry has only its own two quotes exactly when no value between them holds one. -/
theorem resolve_code_lines (hresolve : (resolve descriptors host [] policy text).outcome = .ok r)
    (hfound : descriptors.get? r.name = some d)
    (hplain : ∀ entry ∈ d.definition.entries, '\n' ∉ entry.toList ∧ '"' ∉ entry.toList) :
    let statements := d.definition.filled r.arguments
    let code := String.join r.initCode
    code = Definition.code statements ∧
      (splitOn '\n' code.toList = statements.map (fun s => s.text.toList) ++ [[]] ↔
        ∀ entry ∈ d.definition.entries,
          ∀ value ∈ inserted r.arguments entry, '\n' ∉ value.toList) ∧
      ((∀ s ∈ statements, s.isQuoted = true → s.text.toList.count '"' = 2) ↔
        ∀ entry ∈ d.definition.repositories ++ d.definition.dependencies,
          ∀ value ∈ inserted r.arguments entry, '"' ∉ value.toList) := by
  intro statements code
  have hcode : code = Definition.code statements := code_of_resolve hresolve hfound
  refine ⟨hcode, ?_, ?_⟩
  · rw [hcode]
    exact Definition.splitOn_code_filled_iff fun entry hentry => (hplain entry hentry).1
  · exact Definition.count_quote_filled_iff fun entry hentry => (hplain entry hentry).2

/-- A value with a comma, a bracket and a backslash, put into a repository and a dependency. -/
theorem resolve_code_lines_quoted :
    let definition : Definition := ⟨["r/$\x7bv\x7d"], ["g:a:$\x7bv\x7d"], ["p.*"], [], [], []⟩
    let d : Descriptor := ⟨none, none, none, [("v", "")], definition⟩
    let value := "1),\\x"
    let r : Resolved := ⟨"lib", [("v", value)], [definition],
      ["@file:Repository(\"r/1),\\x\")\n@file:DependsOn(\"g:a:1),\\x\")\nimport p.*\n"]⟩
    (resolve [("lib", d)] none [] .strict "lib(\"1),\\\\x\")").outcome = .ok r ∧
      (∀ entry ∈ definition.entries, '\n' ∉ entry.toList ∧ '"' ∉ entry.toList) ∧
      splitOn '\n' (String.join r.initCode).toList
        = (definition.filled r.arguments).map (fun s => s.text.toList) ++ [[]] ∧
      ∀ s ∈ definition.filled r.arguments, s.isQuoted = true → s.text.toList.count '"' = 2 := by
  intro definition d value r
  have hparse : Call.parse .round "lib(\"1),\\\\x\")" = .ok ⟨"lib", [⟨"", value⟩]⟩ := by cbv
  have hbind : bindCall [("lib", d)] "lib(\"1),\\\\x\")" = .ok ("lib", d, [("v", value)]) :=
    bindCall_eq_ok_iff.2 ⟨_, hparse, rfl, rfl⟩
  have hfill : Definition.fillStatements .strict [("v", value)] definition.statements
      = .ok [.repository "r/1),\\x", .dependency "g:a:1),\\x", .import_ "p.*"] := by cbv
  have hcode : injections .strict r.arguments r.definitions = .ok r.initCode := by
    rw [injections, Definition.injection, hfill]
    rfl
  have hresolve : (resolve [("lib", d)] none [] .strict "lib(\"1),\\\\x\")").outcome = .ok r :=
    outcome_resolve_eq_ok_iff.2 ⟨d, hbind, rfl, hcode⟩
  have hplain : ∀ entry ∈ definition.entries, '\n' ∉ entry.toList ∧ '"' ∉ entry.toList := by decide
  have hvalues : definition.entries.map (inserted r.arguments) = [[value], [value], []] := by cbv
  have hinserted : ∀ entry ∈ definition.entries, ∀ v ∈ inserted r.arguments entry, v = value := by
    intro entry hentry v hv
    have hrow := hvalues ▸ List.mem_map_of_mem (f := inserted r.arguments) hentry
    simp only [List.mem_cons, List.not_mem_nil, or_false] at hrow
    rcases hrow with hrow | hrow | hrow <;> simp_all
  obtain ⟨-, hlines, hquotes⟩ := resolve_code_lines hresolve rfl hplain
  refine ⟨hresolve, hplain, hlines.2 fun entry hentry v hv => ?_,
    hquotes.2 fun entry hentry v hv => ?_⟩
  · rw [hinserted entry hentry v hv]
    decide
  · rw [hinserted entry (List.mem_append_left _ hentry) v hv]
    decide

/-- **A value can add a line.**  The library has one dependency with one placeholder; the value
given for it closes the quotes of its statement and starts another one on a line of its own. -/
theorem resolve_code_extra_line :
    let definition : Definition := ⟨[], ["g:a:$\x7bv\x7d"], [], [], [], []⟩
    let d : Descriptor := ⟨none, none, none, [("v", "")], definition⟩
    let text := "lib(\"1\\\")\n@file:DependsOn(\\\"x\")"
    let value := "1\")\n@file:DependsOn(\"x"
    (∀ entry ∈ definition.entries, '\n' ∉ entry.toList ∧ '"' ∉ entry.toList) ∧
      definition.entries.length = 1 ∧
      ∃ r, (resolve [("lib", d)] none [] .strict text).outcome = .ok r ∧
        r.arguments = [("v", value)] ∧
        r.initCode = ["@file:DependsOn(\"g:a:1\")\n@file:DependsOn(\"x\")\n"] ∧
        (String.join r.initCode).toList.count '\n' = 2 ∧
        (String.join r.initCode).toList.count '"' = 4 := by
  intro definition d text value
  have hparse : Call.parse .round text = .ok ⟨"lib", [⟨"", value⟩]⟩ := by cbv
  have hbind : bindCall [("lib", d)] text = .ok ("lib", d, [("v", value)]) :=
    bindCall_eq_ok_iff.2 ⟨_, hparse, rfl, rfl⟩
  have hfill : Definition.fillStatements .strict [("v", value)] definition.statements
      = .ok [.dependency "g:a:1\")\n@file:DependsOn(\"x"] := by cbv
  have hcode : injections .strict [("v", value)] [definition]
      = .ok ["@file:DependsOn(\"g:a:1\")\n@file:DependsOn(\"x\")\n"] := by
    rw [injections, Definition.injection, hfill]
    rfl
  refine ⟨by decide, rfl, ⟨"lib", [("v", value)], [definition], _⟩, ?_, rfl, rfl, by decide,
    by decide⟩
  exact outcome_resolve_eq_ok_iff.2 ⟨d, hbind, rfl, hcode⟩

end LibraryCalls
