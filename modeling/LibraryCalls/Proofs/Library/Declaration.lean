import LibraryCalls.Proofs.Json.Written
import LibraryCalls.Proofs.Library.Binding
import LibraryCalls.Proofs.Library.Schema

/-!
# From the text of a declaration to the values of a call

A descriptor text may declare a parameter more than once.  What counts is the first place and the
last value: each name is one parameter, at the place of its first declaration, with the default that
was given last.  As the names are then all different, a call that binds has one value for each of
them, in this order, and values without names go to the first ones.

* `Declares`, `DeclaredBefore`, `LastGiven`: the declaration in a text, and the parameter that it
  makes of a name;
* `exists_declares`: the properties of a descriptor are its declaration, read as an object;
* `keys_of_bindArguments`: a binding has the names of the parameters in their order;
* `bindArguments_unnamed_iff`: a call with positional arguments only;
* `Descriptor.parameters_of_text`: the parameters in a text, and the values of a call.
-/

namespace LibraryCalls

open Json

variable {τ : Type} [DecidableEq τ]

/-! ### The declaration in a text -/

section

variable [Textual τ]

/-- The members that declare the parameters, in the order of the text: those of the last value that
is given for `properties`, or none if it is missing. -/
inductive Declares (top : List (τ × Written τ)) : List (τ × Written τ) → Prop
  | missing (absent : Assoc.get? top.reverse (Textual.ofString "properties") = none) :
    Declares top []
  | given {declared : List (τ × Written τ)}
      (last : Assoc.get? top.reverse (Textual.ofString "properties") = some (.object declared)) :
      Declares top declared

/-- The first declaration of a name stands before that of another one. -/
def DeclaredBefore (declared : List (τ × Written τ)) (a b : τ) : Prop :=
  (declared.map Prod.fst).idxOf a < (declared.map Prod.fst).idxOf b

/-- The parameter follows from the last value that is given for its name: required if it is the
empty text, and else optional with this default. -/
def LastGiven (declared : List (τ × Written τ)) (p : Parameter τ) : Prop :=
  ∃ default : τ, Assoc.get? declared.reverse p.name = some (.token (.str default)) ∧
    p = if default = Textual.ofString "" then .required p.name else .optional p.name default

namespace Descriptor

variable {d : Descriptor τ} {declared top : List (τ × Written τ)}

theorem parse_eq_ok_iff {name : Option τ} {text : τ} :
    parse name text = .ok d ↔
      ∃ members, Json.decode text = .ok (.obj members) ∧ ofJson name (.obj members) = .ok d := by
  rw [parse]
  cases hdecode : Json.decode text with
  | error e => cases e <;> simp
  | ok raw =>
    cases raw with
    | obj members =>
      simp only [Except.ok.injEq, Json.obj.injEq, exists_eq_left']
      cases ofJson name (.obj members) with
      | error e => exact ⟨nofun, nofun⟩
      | ok found => simp [Except.mapError]
    | _ => simp

/-- The properties of a descriptor, as they stand in its object. -/
theorem properties_of_ofJson {name : Option τ} {members : Assoc τ (Json τ)}
    (h : ofJson name (.obj members) = .ok d) :
    Schema.ofTextMap d.properties
      = (members.get? (Textual.ofString "properties")).getD (.obj []) := by
  have hvalues := (ofJson_eq_ok_iff.1 h).2
  simp only [values, Schema.given, Schema.fields, List.map_cons, Schema.value?_single,
    List.cons.injEq] at hvalues
  exact hvalues.2.2.2.1

/-- **The properties of a descriptor are its declaration**, read as an object. -/
theorem exists_declares {name : Option τ} {cs rest : CodePoints}
    (hspells : Spells cs (.object top) rest)
    (h : ofJson name (.obj (Assoc.ofPairs (Written.valueMembers top))) = .ok d) :
    ∃ declared, Declares top declared ∧
      Assoc.ofPairs (Written.valueMembers declared)
        = d.properties.map fun e => (e.1, Json.str e.2) := by
  have hproperties := properties_of_ofJson h
  rw [Assoc.get?_ofPairs, Written.get?_reverse_valueMembers] at hproperties
  cases hlast : Assoc.get? top.reverse (Textual.ofString "properties") with
  | none =>
    rw [hlast] at hproperties
    exact ⟨[], .missing hlast, (Json.obj.inj hproperties).symm⟩
  | some w =>
    rw [hlast] at hproperties
    have hmem : (Textual.ofString "properties", w) ∈ top :=
      List.mem_reverse.1 (Assoc.mem_of_get? hlast)
    obtain ⟨inner, after, hinner⟩ := hspells.spells_member hmem
    obtain ⟨declared, rfl, hdeclared⟩ := hinner.exists_object hproperties.symm
    exact ⟨declared, .given hlast, hdeclared⟩

section

variable (h : Assoc.ofPairs (Written.valueMembers declared)
  = d.properties.map fun e => (e.1, Json.str e.2))

include h

omit [Textual τ] in
theorem keys_properties :
    d.properties.keys = (Assoc.ofPairs (Written.valueMembers declared)).keys := by
  rw [h, Assoc.keys, Assoc.keys, List.map_map]
  rfl

/-- **The order of the parameters** is that of their first declarations. -/
theorem pairwise_parameters :
    (d.parameters.map Parameter.name).Pairwise (DeclaredBefore declared) := by
  have hkeys := Assoc.pairwise_keys_ofPairs (Written.valueMembers declared)
  rw [Written.keys_valueMembers] at hkeys
  rw [map_name_parameters, keys_properties h]
  exact hkeys

theorem mem_map_name_parameters {n : τ} :
    n ∈ d.parameters.map Parameter.name ↔ n ∈ declared.map Prod.fst := by
  rw [map_name_parameters, keys_properties h, ← Written.keys_valueMembers]
  exact Assoc.mem_keys_ofPairs

theorem nodup_parameters : (d.parameters.map Parameter.name).Nodup := by
  rw [map_name_parameters, keys_properties h]
  exact Assoc.nodup_keys_ofPairs _

/-- **The values of the parameters** are those given last. -/
theorem lastGiven_of_mem_parameters {p : Parameter τ} (hp : p ∈ d.parameters) :
    LastGiven declared p := by
  obtain ⟨⟨n, default⟩, hentry, rfl⟩ := List.mem_map.1 hp
  have hname : (if default = Textual.ofString "" then Parameter.required n
      else .optional n default).name = n := by
    split <;> rfl
  have hmem : (n, Json.str default) ∈ Assoc.ofPairs (Written.valueMembers declared) := by
    rw [h]
    exact List.mem_map.2 ⟨_, hentry, rfl⟩
  have hget := (Assoc.get?_eq_some_iff_mem (Assoc.nodup_keys_ofPairs _)).2 hmem
  rw [Assoc.get?_ofPairs, Written.get?_reverse_valueMembers] at hget
  obtain ⟨w, hlast, hvalue⟩ := Option.map_eq_some_iff.1 hget
  obtain rfl := Written.eq_of_value_eq_str hvalue
  refine ⟨default, ?_, ?_⟩
  · rw [hname]
    exact hlast
  · rw [hname]

end

end Descriptor

end

/-! ### Values of a call -/

section

variable {library : τ} {parameters : List (Parameter τ)} {arguments : List (Argument τ)}
  {values bound : Assoc τ τ}

namespace Binding

/-- Completing a binding of parameters with different names lists them as they stand. -/
theorem complete_eq_ok_iff_of_nodup (hnodup : (parameters.map Parameter.name).Nodup) :
    complete bound [] parameters = .ok values ↔
      values.keys = parameters.map Parameter.name ∧
      parameters.map (valueOf? bound) = values.map fun e => some e.2 := by
  rw [complete_eq_ok_iff]
  constructor
  · rintro ⟨pairs, hpairs, rfl⟩
    have hkeys := keys_of_map_valueOf? hpairs
    have hall : Assoc.setAll [] pairs = pairs := Assoc.setAll_of_nodup (m := []) (hkeys ▸ hnodup)
    rw [hall]
    refine ⟨hkeys.symm, ?_⟩
    simpa [Function.comp_def] using congrArg (List.map Prod.snd) hpairs
  · rintro ⟨hkeys, hvalues⟩
    refine ⟨values, ?_, (Assoc.setAll_of_nodup (m := []) (hkeys ▸ hnodup)).symm⟩
    calc parameters.map (fun p => (p.name, valueOf? bound p))
        = (parameters.map Parameter.name).zip (parameters.map (valueOf? bound)) :=
          List.zip_map'.symm
      _ = values.keys.zip (values.map fun e => some e.2) := by rw [hkeys, hvalues]
      _ = values.map fun e => (e.1, some e.2) := List.zip_map'

theorem free_nil : free parameters [] = parameters :=
  List.filter_eq_self.2 fun _ _ => rfl

theorem fillPositional_nil (hnodup : (parameters.map Parameter.name).Nodup) (given : List τ) :
    fillPositional [] parameters given = (parameters.map Parameter.name).zip given := by
  rw [fillPositional_of_nodup (by rw [Assoc.keys_nil, List.nil_append]; exact hnodup),
    List.nil_append]

/-- **The first parameters have the values that are given, and the others their defaults.**  The
induction is on the parameters, and the values are used up along the way. -/
theorem map_valueOf?_zip (hnodup : (parameters.map Parameter.name).Nodup) {given : List τ}
    (hle : given.length ≤ parameters.length) :
    parameters.map (valueOf? ((parameters.map Parameter.name).zip given))
      = given.map some ++ (parameters.drop given.length).map Parameter.default? := by
  induction parameters generalizing given with
  | nil =>
    obtain rfl : given = [] := List.eq_nil_of_length_eq_zero (Nat.le_zero.1 hle)
    rfl
  | cons p rest ih =>
    obtain ⟨hp, hrest⟩ := List.nodup_cons.1 hnodup
    cases given with
    | nil =>
      rw [List.zip_nil_right]
      exact List.map_congr_left fun q _ => Option.none_or
    | cons value others =>
      have hothers := ih hrest (Nat.le_of_succ_le_succ hle)
      have hfirst : valueOf? ((p.name, value) :: (rest.map Parameter.name).zip others) p
          = some value := by
        rw [valueOf?, Assoc.get?, if_pos rfl, Option.some_or]
      have hlater : ∀ q ∈ rest, valueOf? ((p.name, value) :: (rest.map Parameter.name).zip others) q
          = valueOf? ((rest.map Parameter.name).zip others) q := by
        intro q hq
        have hne : p.name ≠ q.name := fun he => hp (he ▸ List.mem_map_of_mem hq)
        rw [valueOf?, Assoc.get?, if_neg hne, valueOf?]
      rw [List.map_cons, List.map_cons, List.zip_cons_cons, hfirst, List.map_congr_left hlater,
        hothers]
      rfl

variable [Textual τ]

theorem bindNamed_of_unnamed (h : ∀ a ∈ arguments, a.name = Textual.ofString "") :
    bindNamed parameters bound arguments = .ok bound := by
  induction arguments with
  | nil => rfl
  | cons a rest ih =>
    rw [bindNamed, if_pos (h a List.mem_cons_self)]
    exact ih fun b hb => h b (List.mem_cons_of_mem a hb)

theorem positional_of_unnamed (h : ∀ a ∈ arguments, a.name = Textual.ofString "") :
    positional arguments = arguments.map Argument.value := by
  rw [positional, List.filter_eq_self.2 fun a ha => decide_eq_true (h a ha)]

end Binding

open Binding

variable [Textual τ]

/-- **A binding has the names of the parameters in their order**, if these are different. -/
theorem keys_of_bindArguments (hnodup : (parameters.map Parameter.name).Nodup)
    (h : bindArguments library parameters arguments = .ok values) :
    values.keys = parameters.map Parameter.name := by
  obtain ⟨named, -, -, hcomplete⟩ := values_eq_ok_iff.1 (bindArguments_eq_ok_iff.1 h)
  exact ((complete_eq_ok_iff_of_nodup hnodup).1 hcomplete).1

/-- **A call with positional arguments only** fills the first parameters, if there are enough of
them and the others have defaults, which they take. -/
theorem bindArguments_unnamed_iff (hnodup : (parameters.map Parameter.name).Nodup)
    (h : ∀ a ∈ arguments, a.name = Textual.ofString "") :
    bindArguments library parameters arguments = .ok values ↔
      arguments.length ≤ parameters.length ∧ values.keys = parameters.map Parameter.name ∧
      ∃ rest, values.map Prod.snd = arguments.map Argument.value ++ rest ∧
        (parameters.drop arguments.length).map Parameter.default? = rest.map some := by
  rw [bindArguments_eq_ok_iff, values_eq_ok_iff]
  simp only [bindNamed_of_unnamed h, Except.ok.injEq, exists_eq_left', positional_of_unnamed h,
    free_nil, List.length_map, fillPositional_nil hnodup, complete_eq_ok_iff_of_nodup hnodup]
  refine and_congr_right fun hle => and_congr_right fun _ => ?_
  rw [map_valueOf?_zip hnodup (by rw [List.length_map]; exact hle), List.length_map]
  have hsome : values.map (fun e => some e.2) = (values.map Prod.snd).map some := by
    rw [List.map_map]
    rfl
  rw [hsome]
  constructor
  · intro heq
    obtain ⟨first, rest, hsplit, hfirst, hrest⟩ := List.map_eq_append_iff.1 heq.symm
    obtain rfl := List.map_injective_iff.2 (fun _ _ => Option.some.inj) hfirst
    exact ⟨rest, hsplit, hrest.symm⟩
  · rintro ⟨rest, hsplit, hrest⟩
    rw [hsplit, hrest, List.map_append]

end

/-- **The parameters in a text, and the values of a call.**  A descriptor text spells one object.
Each name that its `properties` declare is one parameter, in the order of the first declarations and
with the value of the last.  A call that binds has a value for each parameter, in this order, and
positional arguments alone give theirs to the first parameters. -/
theorem Descriptor.parameters_of_text {name : Option CodePoints} {text : CodePoints}
    {d : Descriptor CodePoints} (h : parse name text = .ok d) :
    ∃ top declared : List (CodePoints × Written CodePoints),
      (∀ w, SpellsText text w ↔ w = .object top) ∧ Declares top declared ∧
      (d.parameters.map Parameter.name).Nodup ∧
      (∀ n, n ∈ d.parameters.map Parameter.name ↔ n ∈ declared.map Prod.fst) ∧
      (d.parameters.map Parameter.name).Pairwise (DeclaredBefore declared) ∧
      (∀ p ∈ d.parameters, LastGiven declared p) ∧
      (∀ library arguments values, bindArguments library d.parameters arguments = .ok values →
        values.keys = d.parameters.map Parameter.name) ∧
      ∀ library arguments values, (∀ a ∈ arguments, a.name = Textual.ofString "") →
        (bindArguments library d.parameters arguments = .ok values ↔
          arguments.length ≤ d.parameters.length ∧
          values.keys = d.parameters.map Parameter.name ∧
          ∃ rest, values.map Prod.snd = arguments.map Argument.value ++ rest ∧
            (d.parameters.drop arguments.length).map Parameter.default? = rest.map some) := by
  obtain ⟨members, hdecode, hobject⟩ := parse_eq_ok_iff.1 h
  obtain ⟨w, hspells, hvalue⟩ := exists_spellsText hdecode
  have hwhole := hspells
  obtain ⟨rest, hinner, -⟩ := hwhole
  obtain ⟨top, rfl, rfl⟩ := hinner.exists_object hvalue
  obtain ⟨declared, hdeclares, hproperties⟩ := exists_declares hinner hobject
  have hnodup := nodup_parameters hproperties
  refine ⟨top, declared, ?_, hdeclares, hnodup, ?_, pairwise_parameters hproperties, ?_, ?_, ?_⟩
  · intro w
    constructor
    · exact fun hw => hw.unique hspells
    · rintro rfl
      exact hspells
  · exact fun n => mem_map_name_parameters hproperties
  · exact fun p hp => lastGiven_of_mem_parameters hproperties hp
  · exact fun library arguments values => keys_of_bindArguments hnodup
  · exact fun library arguments values hunnamed => bindArguments_unnamed_iff hnodup hunnamed

/-- A text with two declarations, the second of which declares `v` twice, and two names that are
halves of surrogate pairs. -/
def repeatedDeclaration : CodePoints :=
  Textual.ofString ("\x7b\"properties\": 0, \"properties\": \x7b\"v\": 1, \"\\ud800\": \"2\", "
    ++ "\"\\ud801\": \"3\", \"v\": \"\"\x7d\x7d")

/-- The parameter `v` stands first, and is required as its last value is empty; the halves, which no
character shows, are two parameters. -/
theorem Descriptor.parameters_of_text_repeated :
    let v : CodePoints := [.char 'v']
    let low : CodePoints := [.half 0]
    let high : CodePoints := [.half 1]
    let parameters : List (Parameter CodePoints) :=
      [.required v, .optional low [.char '2'], .optional high [.char '3']]
    (∃ d, parse none repeatedDeclaration = .ok d ∧ d.parameters = parameters) ∧
    (∃ declared : List (CodePoints × Written CodePoints),
      DeclaredBefore declared v low ∧ (∀ p ∈ parameters, LastGiven declared p)) ∧
    bindArguments [] parameters [⟨high, [.char 'b']⟩, ⟨[], [.char 'a']⟩]
      = .ok [(v, [.char 'a']), (low, [.char '2']), (high, [.char 'b'])] ∧
    bindArguments [] parameters [⟨[], [.char 'a']⟩]
      = .ok [(v, [.char 'a']), (low, [.char '2']), (high, [.char '3'])] := by
  intro v low high parameters
  have hparse : parse none repeatedDeclaration
      = .ok { properties := [(v, []), (low, [.char '2']), (high, [.char '3'])] } := by
    decide +kernel
  have hparameters : Descriptor.parameters
      { properties := [(v, []), (low, [.char '2']), (high, [.char '3'])] } = parameters := by decide
  have hnamed : bindArguments [] parameters [⟨high, [.char 'b']⟩, ⟨[], [.char 'a']⟩]
      = .ok [(v, [.char 'a']), (low, [.char '2']), (high, [.char 'b'])] := by decide
  obtain ⟨top, declared, -, -, -, -, hpairwise, hlast, hkeys, hbind⟩ := parameters_of_text hparse
  rw [hparameters] at hpairwise hlast hkeys hbind
  have hordered := hkeys _ _ _ hnamed
  refine ⟨⟨_, hparse, hparameters⟩, ⟨declared, ?_, hlast⟩, hnamed, ?_⟩
  · rw [← hordered] at hpairwise
    exact (List.pairwise_cons.1 hpairwise).1 low (by decide)
  · exact (hbind [] [⟨[], [.char 'a']⟩]
      [(v, [.char 'a']), (low, [.char '2']), (high, [.char '3'])] (by decide)).2
      ⟨by decide, rfl, [[.char '2'], [.char '3']], rfl, rfl⟩

end LibraryCalls
