import Mathlib
import LibraryCalls.Proofs.Library.Binding
import LibraryCalls.Proofs.Placeholder.Names
import LibraryCalls.Proofs.Resolution.Order

/-!
# Placeholders and declared properties

A binding gives a value to each property of its library and to nothing else, whichever way a call is
written.  Whether the strict policy refuses a library is therefore a matter of its descriptor.

A call that binds has a value for each of the properties and for nothing else, so a placeholder is
without a value exactly if its name is no property.  Which entry of a definition is the first with
such a placeholder can thus be computed from the descriptor, and with it the fault: its missing
names and its text.

It does not matter whether values are given by name, by position or by default, nor what they are.
Calls that do not bind, or that name another library, fail before any placeholder is looked at and
are outside of the statement.

* `Descriptor.Closed`: every placeholder of the definition is a property;
* `unresolved?_of_bindArguments`: a binding leaves open what the properties leave open;
* `outcome_resolve_strict`: how a call that binds is resolved under the strict policy;
* `resolve_strict_of_descriptor`: when the strict policy refuses a call, and with which fault.
-/

namespace LibraryCalls

open Resolution Placeholder

/-- Every placeholder in the repositories, dependencies and imports of a library is one of its
properties. -/
def Descriptor.Closed (d : Descriptor) : Prop :=
  ∀ entry ∈ d.definition.entries, ∀ name, Piece.hole name ∈ pieces entry.toList →
    name ∈ d.properties.keys

variable {d : Descriptor} {descriptors : Assoc String Descriptor} {host : Option Host}
  {text name : String} {values : Assoc String String}

/-- The properties refuse nothing of a closed library. -/
theorem Descriptor.closed_iff :
    d.Closed ↔ d.definition.entries.findSome? (unresolved? d.properties) = none := by
  simp only [Closed, ← missing_eq_nil_iff, List.findSome?_eq_none_iff, unresolved?,
    ite_eq_left_iff, reduceCtorEq, imp_false, Decidable.not_not]

/-- **A binding leaves open what the properties leave open**, whatever the arguments. -/
theorem unresolved?_of_bindArguments {library : String} {arguments : List Argument}
    (h : bindArguments library d.parameters arguments = .ok values) :
    unresolved? values = unresolved? d.properties := by
  funext entry
  rw [unresolved?, unresolved?, missing_congr fun _ => mem_keys_of_bindArguments h]

/-- **A call that binds, under the strict policy**: the entry refused, if there is one, is the same
for every such call. -/
theorem outcome_resolve_strict (hb : bindCall descriptors text = .ok (name, d, values)) :
    (resolve descriptors host [] .strict text).outcome =
      match d.definition.entries.findSome? (unresolved? d.properties) with
      | some u => .error (.unresolved u)
      | none => .ok ⟨name, values, [d.definition], fragments values [d.definition]⟩ := by
  obtain ⟨arguments, -, -, hbind⟩ := bindCall_eq_ok_iff.1 hb
  have hcollect : collect host [.ready d.definition] = ⟨[], .ok [d.definition]⟩ :=
    collect_ready host d.definition []
  have hcode : injections .strict values [d.definition]
      = (d.definition.entries.findSome? (unresolved? d.properties)).elim
          (.ok (fragments values [d.definition])) .error := by
    rw [injections_strict, injections_lenient, List.flatMap_singleton,
      unresolved?_of_bindArguments hbind]
  rw [resolve_eq, hb]
  simp only [hcollect, hcode]
  cases d.definition.entries.findSome? (unresolved? d.properties) with
  | some u => rfl
  | none => rfl

/-- **Whether the strict policy refuses a library is a matter of its descriptor.**  If every
placeholder of the definition is a property, no call is refused, as long as it names no other
library. Otherwise every call of the library whose arguments fit is refused, all with one fault: the
first entry with a placeholder that is no property, and the names of those placeholders. -/
theorem resolve_strict_of_descriptor (d : Descriptor) :
    (d.Closed → ∀ descriptors host text,
      (∀ call other, Call.parse .round text = .ok call →
        descriptors.get? call.name = some other → other = d) →
      ∀ u, (resolve descriptors host [] .strict text).outcome ≠ .error (.unresolved u)) ∧
    (¬ d.Closed → ∃ before entry after, d.definition.entries = before ++ entry :: after ∧
      (∀ e ∈ before, missing d.properties e = []) ∧ missing d.properties entry ≠ [] ∧
      ∀ descriptors host text call values, Call.parse .round text = .ok call →
        descriptors.get? call.name = some d →
        bindArguments call.name d.parameters call.arguments = .ok values →
        (resolve descriptors host [] .strict text).outcome
          = .error (.unresolved ⟨missing d.properties entry, entry⟩)) := by
  constructor
  · intro hclosed descriptors host text honly u h
    rw [Descriptor.closed_iff] at hclosed
    cases hb : bindCall descriptors text with
    | error e =>
      rw [resolve_of_bindCall_error hb] at h
      cases h
      exact bindCall_ne_unresolved u hb
    | ok bound =>
      obtain ⟨name, descriptor, values⟩ := bound
      obtain ⟨arguments, hparse, hget, -⟩ := bindCall_eq_ok_iff.1 hb
      obtain rfl := honly _ descriptor hparse hget
      rw [outcome_resolve_strict hb, hclosed] at h
      cases h
  · intro hopen
    rw [Descriptor.closed_iff, ← ne_eq, Option.ne_none_iff_exists'] at hopen
    obtain ⟨u, hu⟩ := hopen
    obtain ⟨before, entry, after, hentries, hbefore, hentry, rfl⟩ :=
      findSome?_unresolved?_eq_some_iff.1 hu
    refine ⟨before, entry, after, hentries, hbefore, hentry, ?_⟩
    intro descriptors host text call values hparse hget hbind
    have hb : bindCall descriptors text = .ok (call.name, d, values) :=
      bindCall_eq_ok_iff.2 ⟨call.arguments, hparse, hget, hbind⟩
    rw [outcome_resolve_strict hb, hu]

/-- A library whose one dependency holds its property is refused in no call; with another
placeholder in it, a call by name and a call by position are refused alike. -/
theorem resolve_strict_of_descriptor_both :
    let closed : Descriptor :=
      ⟨none, none, none, [("a", "")], ⟨[], ["g:$\x7ba\x7d"], [], [], [], []⟩⟩
    let opened : Descriptor :=
      ⟨none, none, none, [("a", "")], ⟨[], ["g:$\x7ba\x7d:$\x7bb\x7d"], [], [], [], []⟩⟩
    (∀ text u, (resolve [("lib", closed)] none [] .strict text).outcome ≠ .error (.unresolved u)) ∧
      ∃ u, (resolve [("lib", opened)] none [] .strict "lib(a=1)").outcome = .error (.unresolved u) ∧
        (resolve [("lib", opened)] none [] .strict "lib(2)").outcome = .error (.unresolved u) := by
  intro closed opened
  have hnone : missing closed.properties "g:$\x7ba\x7d" = [] := by cbv
  have hsome : missing opened.properties "g:$\x7ba\x7d:$\x7bb\x7d" = ["b"] := by cbv
  have hclosed : closed.Closed := by
    intro entry hentry
    obtain rfl := List.mem_singleton.1 hentry
    exact missing_eq_nil_iff.1 hnone
  have hopened : ¬ opened.Closed := by
    intro h
    have hnothing := missing_eq_nil_iff.2 (h _ (List.mem_singleton.2 rfl))
    cases hsome.symm.trans hnothing
  refine ⟨fun text => (resolve_strict_of_descriptor closed).1 hclosed _ _ _ ?_, ?_⟩
  · intro call other _ hget
    by_cases hname : "lib" = call.name
    · rw [Assoc.get?, if_pos hname] at hget
      exact (Option.some.inj hget).symm
    · rw [Assoc.get?, if_neg hname] at hget
      cases hget
  · obtain ⟨before, entry, after, -, -, -, hrefused⟩ :=
      (resolve_strict_of_descriptor opened).2 hopened
    have hnamed : Call.parse .round "lib(a=1)" = .ok ⟨"lib", [⟨"a", "1"⟩]⟩ := by cbv
    have hplaced : Call.parse .round "lib(2)" = .ok ⟨"lib", [⟨"", "2"⟩]⟩ := by cbv
    exact ⟨_, hrefused [("lib", opened)] none _ _ _ hnamed rfl rfl,
      hrefused [("lib", opened)] none _ _ _ hplaced rfl rfl⟩

end LibraryCalls
