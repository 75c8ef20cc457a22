import LibraryCalls.Library.Injection

/-!
# Injected code under the two policies

The lenient policy always gives code.  The strict one gives the same code, or refuses the first
entry that holds a placeholder without a value.

The two policies are compared statement by statement.  A text that the strict policy accepts is
filled in the same way under both, and one that it refuses is reported with its missing names and
with itself; the first refusal ends the run.  So the strict policy is described by a search for the
first entry that it refuses and by the lenient policy where there is none.

Whether a text is refused depends on the keys of the mapping alone, which is where the theory of
placeholders comes in.

* `Placeholder.unresolved?`: why the strict policy refuses a text, if it does;
* `findSome?_unresolved?_eq_some_iff`, `findSome?_unresolved?`: the first of several texts that it
  refuses;
* `Definition.entries`: the texts of a definition that go through substitution, in order;
* `fillStatements_strict`, `injection_strict`: the strict policy in terms of the lenient one;
* `fillStatements_lenient`, `injection_lenient`: what the lenient one gives.
-/

namespace LibraryCalls

namespace Placeholder

/-- Why the strict policy refuses a text, if it does. -/
def unresolved? (mapping : Assoc String String) (text : String) : Option Unresolved :=
  if missing mapping text = [] then none else some ⟨missing mapping text, text⟩

variable {mapping : Assoc String String}

/-- **The first text that the strict policy refuses**: it has a placeholder without a value, and no
text before it has one. -/
theorem findSome?_unresolved?_eq_some_iff {texts : List String} {u : Unresolved} :
    texts.findSome? (unresolved? mapping) = some u ↔
      ∃ before text after, texts = before ++ text :: after ∧
        (∀ t ∈ before, missing mapping t = []) ∧
        missing mapping text ≠ [] ∧ u = ⟨missing mapping text, text⟩ := by
  have hnone : ∀ t, unresolved? mapping t = none ↔ missing mapping t = [] := by
    simp [unresolved?]
  have hsome : ∀ t, unresolved? mapping t = some u ↔
      missing mapping t ≠ [] ∧ u = ⟨missing mapping t, t⟩ := by
    intro t
    rw [eq_comm (a := u)]
    simp [unresolved?]
  rw [List.findSome?_eq_some_iff]
  constructor
  · rintro ⟨before, text, after, rfl, hu, hbefore⟩
    exact ⟨before, text, after, rfl, fun t ht => (hnone t).1 (hbefore t ht), (hsome text).1 hu⟩
  · rintro ⟨before, text, after, rfl, hbefore, hu⟩
    exact ⟨before, text, after, rfl, (hsome text).2 hu, fun t ht => (hnone t).2 (hbefore t ht)⟩

/-- The first text that the strict policy refuses is the first with a placeholder without a value.
-/
theorem findSome?_unresolved? (mapping : Assoc String String) (texts : List String) :
    texts.findSome? (unresolved? mapping)
      = (texts.find? fun t => missing mapping t ≠ []).map fun t => ⟨missing mapping t, t⟩ := by
  induction texts with
  | nil => rfl
  | cons t texts ih =>
    rw [List.findSome?_cons, List.find?_cons, ih]
    by_cases h : missing mapping t = [] <;> simp [unresolved?, h]

theorem substitute_strict (mapping : Assoc String String) (text : String) :
    substitute .strict mapping text
      = (unresolved? mapping text).elim (substitute .lenient mapping text) .error := by
  by_cases h : missing mapping text = [] <;> simp [substitute, unresolved?, h]

end Placeholder

namespace Definition

open Placeholder

/-- The texts of a definition that go through substitution: repositories first, then dependencies,
then imports. -/
def entries (d : Definition) : List String :=
  d.repositories ++ d.dependencies ++ d.imports

theorem map_entry_statements (d : Definition) : d.statements.map Statement.entry = d.entries := by
  simp only [statements, entries, List.map_append, List.map_map]
  congr
  all_goals exact List.map_id'' (fun _ => rfl) _

variable (mapping : Assoc String String)

/-! ### Statements -/

theorem fillStatements_lenient (ss : List Statement) :
    fillStatements .lenient mapping ss
      = .ok (ss.map fun s => s.withEntry (Placeholder.fill mapping s.entry)) := by
  induction ss with
  | nil => rfl
  | cons s rest ih =>
    rw [fillStatements, ih]
    rfl

/-- **The strict policy on statements**: the first entry that it refuses ends the run. -/
theorem fillStatements_strict (ss : List Statement) :
    fillStatements .strict mapping ss
      = ((ss.map Statement.entry).findSome? (unresolved? mapping)).elim
          (fillStatements .lenient mapping ss) .error := by
  induction ss with
  | nil => rfl
  | cons s rest ih =>
    rw [fillStatements, substitute_strict, List.map_cons, List.findSome?_cons]
    cases unresolved? mapping s.entry with
    | some u => rfl
    | none =>
      rw [fillStatements, ih]
      cases (rest.map Statement.entry).findSome? (unresolved? mapping) <;> rfl

/-! ### Definitions -/

/-- The statements of a definition with the values put in. -/
def filled (d : Definition) : List Statement :=
  d.statements.map fun s => s.withEntry (Placeholder.fill mapping s.entry)

theorem injection_lenient (d : Definition) :
    d.injection .lenient mapping
      = .ok (if d.entries = [] then none else some (code (d.filled mapping))) := by
  rw [injection, fillStatements_lenient, ← map_entry_statements, ← filled]
  cases hs : d.statements with
  | nil => simp [filled, hs, Except.map]
  | cons s rest => simp [filled, hs, Except.map]

/-- **The strict policy on a definition.** -/
theorem injection_strict (d : Definition) :
    d.injection .strict mapping
      = (d.entries.findSome? (unresolved? mapping)).elim (d.injection .lenient mapping) .error := by
  rw [injection, fillStatements_strict, map_entry_statements]
  cases d.entries.findSome? (unresolved? mapping) <;> rfl

end Definition

end LibraryCalls
