import LibraryCalls.Proofs.Call.RoundTrip
import LibraryCalls.Proofs.Library.Binding
import LibraryCalls.Proofs.Resolution.Stages

/-!
# Resolving a resolved call again

A resolved call can be written with every argument named.  That text is resolved to the same: it is
read back as it was written, and the values that it names are bound again.

A binding lists every parameter with its value, whether that was given by name, given by position or
left to a default.  Written out by name these are arguments that can be written and read back, if
the names hold no equals sign and the values have no outer blanks, and binding them again gives the
same list.

The collected definitions and the code do not depend on the text of the call beyond its binding, so
the rest of the resolution is the same, requests and events included.  This holds with a host and
with extra producers as much as without.

* `Resolved.canonical`: a resolved call with every argument named;
* `parse_canonical`: it is read back;
* `bindCall_canonical`: it binds to the same library and the same values;
* `resolve_canonical`: it is resolved to the same.
-/

namespace LibraryCalls

open Text Resolution

/-- The text of a resolved call with every argument named, in the order of the parameters. -/
def Resolved.canonical (r : Resolved) : String :=
  Call.render .round ⟨r.name, Argument.ofBinding r.arguments⟩

/-- Named arguments can be written when their names and values can. -/
theorem Argument.writable_ofBinding {values : Assoc String String}
    (hnames : ∀ name ∈ values.keys, name ≠ "" ∧ Trimmed name.toList ∧ '=' ∉ name.toList)
    (hvalues : ∀ e ∈ values, Trimmed e.2.toList) : Writable (ofBinding values) := by
  refine ⟨?_, ofBinding values, [], (List.append_nil _).symm, ?_, by simp⟩
  · intro a ha
    obtain ⟨e, he, rfl⟩ := List.mem_map.1 ha
    exact hvalues e he
  · intro a ha
    obtain ⟨e, he, rfl⟩ := List.mem_map.1 ha
    obtain ⟨hne, htrimmed, hequals⟩ := hnames e.1 (List.mem_map_of_mem he)
    exact ⟨hne, htrimmed, hequals⟩

variable {descriptors : Assoc String Descriptor} {text : String} {r : Resolved}
  {descriptor : Descriptor}

/-- **The canonical text is read back.** -/
theorem parse_canonical (hname : Trimmed r.name.toList ∧ '(' ∉ r.name.toList)
    (hwritable : Argument.Writable (Argument.ofBinding r.arguments)) :
    Call.parse .round r.canonical = .ok ⟨r.name, Argument.ofBinding r.arguments⟩ :=
  (Call.parse_render_of_no_opening Brackets.round_proper hname.2).2 ⟨hname.1, hwritable⟩

/-- **The canonical text binds to the same library and the same values.** -/
theorem bindCall_canonical
    (h : bindCall descriptors text = .ok (r.name, descriptor, r.arguments))
    (hnames : ∀ name ∈ descriptor.properties.keys,
      name ≠ "" ∧ Trimmed name.toList ∧ '=' ∉ name.toList)
    (hvalues : ∀ e ∈ r.arguments, Trimmed e.2.toList) :
    bindCall descriptors r.canonical = .ok (r.name, descriptor, r.arguments) := by
  obtain ⟨arguments, hparse, hget, hbind⟩ := bindCall_eq_ok_iff.1 h
  obtain ⟨htrimmed, hopening, -⟩ := Call.clean_of_parse hparse
  have hkeys : ∀ name ∈ r.arguments.keys,
      name ≠ "" ∧ Trimmed name.toList ∧ '=' ∉ name.toList :=
    fun name hmem => hnames name ((mem_keys_of_bindArguments hbind).1 hmem)
  have hne : ∀ p ∈ descriptor.parameters, p.name ≠ "" := by
    intro p hp
    have hmem : p.name ∈ descriptor.properties.keys := by
      rw [← Descriptor.map_name_parameters]
      exact List.mem_map_of_mem hp
    exact (hnames p.name hmem).1
  exact bindCall_eq_ok_iff.2 ⟨Argument.ofBinding r.arguments,
    parse_canonical ⟨htrimmed, hopening⟩ (Argument.writable_ofBinding hkeys hvalues), hget,
    bindArguments_ofBinding hbind hne⟩

/-- **Resolving again.**  A call that was resolved is resolved to the same, and leaves the same
steps, when it is written with every argument named, provided that the names of its library can be
written and the values bound have no blanks around them.  Which values were named before, given by
position or left to their defaults, does not matter. -/
theorem resolve_canonical (descriptors : Assoc String Descriptor) (host : Option Host)
    (extra : List Producer) (policy : Policy) (text : String) (r : Resolved)
    (h : (resolve descriptors host extra policy text).outcome = .ok r)
    (hnames : ∀ descriptor, descriptors.get? r.name = some descriptor →
      ∀ name ∈ descriptor.properties.keys, name ≠ "" ∧ Trimmed name.toList ∧ '=' ∉ name.toList)
    (hvalues : ∀ e ∈ r.arguments, Trimmed e.2.toList) :
    (resolve descriptors host extra policy r.canonical).outcome = .ok r ∧
      (resolve descriptors host extra policy r.canonical).steps
        = (resolve descriptors host extra policy text).steps := by
  obtain ⟨descriptor, hbind, -, -⟩ := outcome_resolve_eq_ok_iff.1 h
  obtain ⟨-, -, hget, -⟩ := bindCall_eq_ok_iff.1 hbind
  have hagain := bindCall_canonical hbind (hnames descriptor hget) hvalues
  have hsame : resolve descriptors host extra policy r.canonical
      = resolve descriptors host extra policy text :=
    resolve_congr (hagain.trans hbind.symm) host extra policy
  rw [hsame]
  exact ⟨h, rfl⟩

/-- One value by name, one by position and one by default, written again in the order of the
parameters. -/
theorem resolve_canonical_mixed :
    let definition : Definition := ⟨[], ["g:$\x7ba\x7d:$\x7bb\x7d"], [], [], [], []⟩
    let descriptors : Assoc String Descriptor :=
      [("lib", ⟨none, none, none, [("a", ""), ("b", "2"), ("c", "3")], definition⟩)]
    let r : Resolved := ⟨"lib", [("a", "y, z"), ("b", "2"), ("c", "4")], [definition],
      ["@file:DependsOn(\"g:y, z:2\")\n"]⟩
    (resolve descriptors none [] .strict "lib(c=4, \"y, z\")").outcome = .ok r ∧
      r.canonical = "lib(a=\"y, z\", b=2, c=4)" ∧
      (resolve descriptors none [] .strict r.canonical).outcome = .ok r := by
  intro definition descriptors r
  have hparse : Call.parse .round "lib(c=4, \"y, z\")"
      = .ok ⟨"lib", [⟨"c", "4"⟩, ⟨"", "y, z"⟩]⟩ := by cbv
  have hfill : Definition.fillStatements .strict r.arguments definition.statements
      = .ok [.dependency "g:y, z:2"] := by cbv
  have hcode : injections .strict r.arguments r.definitions = .ok r.initCode := by
    rw [injections, Definition.injection, hfill]
    rfl
  have hbind : bindCall descriptors "lib(c=4, \"y, z\")"
      = .ok (r.name, ⟨none, none, none, [("a", ""), ("b", "2"), ("c", "3")], definition⟩,
        r.arguments) := bindCall_eq_ok_iff.2 ⟨_, hparse, rfl, by decide⟩
  have hresolve : (resolve descriptors none [] .strict "lib(c=4, \"y, z\")").outcome = .ok r :=
    outcome_resolve_eq_ok_iff.2 ⟨_, hbind, rfl, hcode⟩
  refine ⟨hresolve, by decide, (resolve_canonical _ _ _ _ _ r hresolve ?_ (by decide)).1⟩
  intro descriptor hget
  obtain rfl := Option.some.inj hget
  decide

end LibraryCalls
