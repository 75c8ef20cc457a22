import LibraryCalls.Library.Binding
import LibraryCalls.Library.Descriptor
import LibraryCalls.Proofs.Assoc

/-!
# Bound arguments, given by name

A binding has one entry for each parameter, in the order of the declaration.  Giving each entry by
name binds to the same values again, wherever the values came from in the first place.

The three loops are taken one at a time, each with the condition under which it changes nothing that
the loops before it have done: names that are different and declared are bound as they stand;
parameters that are still open are filled in order; and a parameter that has a value is not given
its default.

A declaration may repeat a name.  Then a binding has one entry for it, and completing the binding
sets that entry more than once, each time to the value that is found for the name, which is why
completing is shown to be idempotent rather than the identity.

* `Binding.valueOf?`, `complete_eq_ok_iff`: completing a binding sets each parameter to the value
  that is bound to it or else to its default;
* `complete_self`: a complete binding is completed to itself;
* `bindNamed_append`, `bindNamed_ofBinding`: arguments with different declared names bind as they
  stand;
* `fillPositional_of_nodup`: parameters with new names are filled as they stand;
* `bindArguments_ofBinding`: a binding that is given by name is bound again;
* `mem_keys_of_bindArguments`: a binding has the properties of the descriptor as its keys.
-/

namespace LibraryCalls

variable {τ : Type}

/-- Arguments that give each value of a binding by name. -/
def Argument.ofBinding (values : Assoc τ τ) : List (Argument τ) :=
  values.map fun e => ⟨e.1, e.2⟩

/-- The entry that a named argument makes in a binding. -/
def Argument.entry (a : Argument τ) : τ × τ := (a.name, a.value)

variable [DecidableEq τ]

namespace Binding

variable {parameters : List (Parameter τ)} {bound result values : Assoc τ τ}

/-! ### Completing -/

/-- The value bound to a parameter or else its default. -/
def valueOf? (bound : Assoc τ τ) (p : Parameter τ) : Option τ :=
  (bound.get? p.name).or p.default?

theorem complete_cons (p : Parameter τ) (rest : List (Parameter τ)) :
    complete bound result (p :: rest) =
      match valueOf? bound p with
      | some value => complete bound (result.set p.name value) rest
      | none => .error (.missingRequired p.name) := by
  rw [complete, valueOf?]
  cases bound.get? p.name with
  | some value => rfl
  | none => cases p.default? <;> rfl

/-- **Completing a binding** succeeds when every parameter has a value, and sets them in order. -/
theorem complete_eq_ok_iff :
    complete bound result parameters = .ok values ↔
      ∃ pairs : Assoc τ τ,
        parameters.map (fun p => (p.name, valueOf? bound p)) =
          pairs.map (fun e => (e.1, some e.2)) ∧
        values = result.setAll pairs := by
  induction parameters generalizing result with
  | nil =>
    constructor
    · intro h
      exact ⟨[], rfl, (Except.ok.inj h).symm⟩
    · rintro ⟨pairs, hpairs, rfl⟩
      obtain rfl : pairs = [] := List.map_eq_nil_iff.1 hpairs.symm
      rfl
  | cons p rest ih =>
    rw [complete_cons, List.map_cons]
    cases hv : valueOf? bound p with
    | none =>
      refine iff_of_false (by simp) ?_
      rintro ⟨pairs, hpairs, -⟩
      cases pairs with
      | nil => simp at hpairs
      | cons e pairs => simp at hpairs
    | some value =>
      simp only [ih]
      constructor
      · rintro ⟨pairs, hpairs, rfl⟩
        exact ⟨(p.name, value) :: pairs, by rw [List.map_cons, hpairs], rfl⟩
      · rintro ⟨pairs, hpairs, rfl⟩
        cases pairs with
        | nil => simp at hpairs
        | cons e pairs =>
          obtain ⟨he, hpairs⟩ := List.cons.inj hpairs
          obtain ⟨hname, hvalue⟩ := Prod.mk.inj he
          exact ⟨pairs, hpairs, by rw [Assoc.setAll_cons, hname, Option.some.inj hvalue]⟩

/-- The names of the parameters are the keys of the pairs that completing sets. -/
theorem keys_of_map_valueOf? {pairs : Assoc τ τ}
    (h : parameters.map (fun p => (p.name, valueOf? bound p)) =
      pairs.map (fun e => (e.1, some e.2))) :
    parameters.map Parameter.name = pairs.keys := by
  simpa [Assoc.keys, Function.comp_def] using congrArg (List.map Prod.fst) h

theorem nodup_keys_of_complete (h : complete bound [] parameters = .ok values) :
    values.keys.Nodup := by
  obtain ⟨pairs, -, rfl⟩ := complete_eq_ok_iff.1 h
  exact Assoc.nodup_keys_setAll List.nodup_nil

theorem mem_keys_of_complete (h : complete bound [] parameters = .ok values) {name : τ} :
    name ∈ values.keys ↔ name ∈ parameters.map Parameter.name := by
  obtain ⟨pairs, hpairs, rfl⟩ := complete_eq_ok_iff.1 h
  rw [Assoc.mem_keys_setAll, keys_of_map_valueOf? hpairs]
  exact or_iff_right List.not_mem_nil

variable [Textual τ]

/-- **A complete binding is completed to itself.**  A name that is declared twice is set to its last
value in the first run and to the same value twice in the second. -/
theorem complete_self (h : complete bound [] parameters = .ok values) :
    complete values [] parameters = .ok values := by
  obtain ⟨pairs, hpairs, hvalues⟩ := complete_eq_ok_iff.1 h
  have hnames := keys_of_map_valueOf? hpairs
  let settled (name : τ) : τ := (values.get? name).getD (Textual.ofString "")
  have hget : ∀ name ∈ parameters.map Parameter.name, values.get? name = some (settled name) := by
    intro name hname
    obtain ⟨value, hvalue⟩ := Assoc.exists_get?_of_mem ((mem_keys_of_complete h).2 hname)
    simp only [settled, hvalue, Option.getD_some]
  let again : Assoc τ τ := pairs.map fun e => (e.1, settled e.1)
  have hkeys : again.keys = pairs.keys := by simp [again, Assoc.keys, Function.comp_def]
  refine complete_eq_ok_iff.2 ⟨again, ?_, ?_⟩
  · have hvalueOf : ∀ p ∈ parameters, valueOf? values p = some (settled p.name) := by
      intro p hp
      rw [valueOf?, hget p.name (List.mem_map_of_mem hp), Option.some_or]
    calc parameters.map (fun p => (p.name, valueOf? values p))
        = parameters.map (fun p => (p.name, some (settled p.name))) :=
          List.map_congr_left fun p hp => by rw [hvalueOf p hp]
      _ = (parameters.map Parameter.name).map fun name => (name, some (settled name)) := by
          rw [List.map_map]
          rfl
      _ = again.map fun e => (e.1, some e.2) := by
          rw [hnames, Assoc.keys, List.map_map, List.map_map]
          rfl
  · refine Assoc.ext_get? ?_ (nodup_keys_of_complete h) ?_
    · rw [hvalues]
      exact Assoc.keys_setAll_congr rfl hkeys.symm
    · intro name hname
      have hdeclared := (mem_keys_of_complete h).1 hname
      have hsettled : ∀ e ∈ again, e.2 = settled e.1 := by
        intro e he
        obtain ⟨e', -, rfl⟩ := List.mem_map.1 he
        rfl
      rw [hget name hdeclared,
        Assoc.get?_setAll hsettled (.inl (by rw [hkeys, ← hnames]; exact hdeclared))]

/-! ### Arguments that are all named -/

/-- **Arguments with different declared names bind as they stand**, and the others bind after
them. -/
theorem bindNamed_append {named : List (Argument τ)}
    (hne : ∀ a ∈ named, a.name ≠ Textual.ofString "")
    (hdeclared : ∀ a ∈ named, a.name ∈ parameters.map Parameter.name)
    (hnodup : (bound.keys ++ named.map Argument.name).Nodup) (rest : List (Argument τ)) :
    bindNamed parameters bound (named ++ rest)
      = bindNamed parameters (bound ++ named.map Argument.entry) rest := by
  induction named generalizing bound with
  | nil =>
    rw [List.map_nil, List.append_nil]
    rfl
  | cons a named ih =>
    have hnew : a.name ∉ bound.keys := by
      intro hmem
      exact (List.nodup_append.1 hnodup).2.2 a.name hmem a.name List.mem_cons_self rfl
    have hcontains : ¬ bound.contains a.name = true := mt Assoc.contains_eq_true_iff.1 hnew
    have hkeys : (bound ++ [a.entry]).keys = bound.keys ++ [a.name] := List.map_append
    rw [List.map_cons, List.append_cons] at hnodup
    rw [List.cons_append, bindNamed, if_neg (hne a List.mem_cons_self),
      if_neg (not_not_intro (hdeclared a List.mem_cons_self)), if_neg hcontains,
      Assoc.set_of_not_mem hnew]
    show bindNamed parameters (bound ++ [a.entry]) (named ++ rest) = _
    rw [ih (fun c hc => hne c (List.mem_cons_of_mem a hc))
      (fun c hc => hdeclared c (List.mem_cons_of_mem a hc)) (by rw [hkeys]; exact hnodup),
      List.map_cons, ← List.append_cons]

theorem bindNamed_ofBinding (hdeclared : ∀ name ∈ values.keys, name ∈ parameters.map Parameter.name)
    (hne : ∀ name ∈ values.keys, name ≠ Textual.ofString "")
    (hnodup : (Assoc.keys (bound ++ values)).Nodup) :
    bindNamed parameters bound (Argument.ofBinding values) = .ok (bound ++ values) := by
  have hnames : (Argument.ofBinding values).map Argument.name = values.keys :=
    List.map_map.trans rfl
  have hentries : (Argument.ofBinding values).map Argument.entry = values :=
    List.map_map.trans (List.map_id values)
  have hmem : ∀ a ∈ Argument.ofBinding values, a.name ∈ values.keys := by
    intro a ha
    rw [← hnames]
    exact List.mem_map_of_mem ha
  have hkeys : (bound.keys ++ (Argument.ofBinding values).map Argument.name).Nodup := by
    rw [hnames]
    rwa [Assoc.keys, List.map_append] at hnodup
  have hbind := bindNamed_append (fun a ha => hne a.name (hmem a ha))
    (fun a ha => hdeclared a.name (hmem a ha)) hkeys []
  rwa [List.append_nil, hentries] at hbind

theorem positional_ofBinding (hne : ∀ name ∈ values.keys, name ≠ Textual.ofString "") :
    positional (Argument.ofBinding values) = [] := by
  rw [positional, List.map_eq_nil_iff, List.filter_eq_nil_iff]
  intro a ha
  obtain ⟨e, he, rfl⟩ := List.mem_map.1 ha
  simpa using hne e.1 (List.mem_map_of_mem he)

/-! ### Arguments without names -/

omit [Textual τ] in
/-- Filling parameters with different new names adds each with its value. -/
theorem fillPositional_of_nodup {free : List (Parameter τ)}
    (hnodup : (bound.keys ++ free.map Parameter.name).Nodup) (given : List τ) :
    fillPositional bound free given = bound ++ (free.map Parameter.name).zip given := by
  have hset : fillPositional bound free given
      = bound.setAll ((free.map Parameter.name).zip given) := by
    rw [fillPositional, Assoc.setAll, List.zip_map_left, List.foldl_map]
    rfl
  have hkeys : Assoc.keys ((free.map Parameter.name).zip given)
      = (free.map Parameter.name).take (min (free.map Parameter.name).length given.length) := by
    rw [List.zip_eq_zip_take_min, Assoc.keys, List.map_fst_zip]
    simp only [List.length_take]
    omega
  rw [hset]
  refine Assoc.setAll_of_nodup ?_
  rw [Assoc.keys, List.map_append]
  show (bound.keys ++ Assoc.keys ((free.map Parameter.name).zip given)).Nodup
  rw [hkeys]
  exact hnodup.sublist (List.Sublist.append_left (List.take_sublist _ _) bound.keys)

/-! ### Binding -/

/-- **The values of a call**: the named arguments bind, the positional ones find a parameter each,
and the rest is completed. -/
theorem values_eq_ok_iff {arguments : List (Argument τ)} :
    Binding.values parameters arguments = .ok values ↔
      ∃ named, bindNamed parameters [] arguments = .ok named ∧
        (positional arguments).length ≤ (free parameters named).length ∧
        complete (fillPositional named (free parameters named) (positional arguments)) []
          parameters = .ok values := by
  rw [Binding.values]
  cases bindNamed parameters [] arguments with
  | error e => simp
  | ok named =>
    by_cases hlt : (free parameters named).length < (positional arguments).length
    · simp only [if_pos hlt]
      refine iff_of_false (by simp) ?_
      rintro ⟨named', hnamed, hle, -⟩
      obtain rfl := Except.ok.inj hnamed
      exact absurd hlt (Nat.not_lt.2 hle)
    · simp only [if_neg hlt]
      constructor
      · intro h
        exact ⟨named, rfl, Nat.le_of_not_lt hlt, h⟩
      · rintro ⟨named', hnamed, -, h⟩
        obtain rfl := Except.ok.inj hnamed
        exact h

end Binding

open Binding

variable [Textual τ] {library : τ} {parameters : List (Parameter τ)} {arguments : List (Argument τ)}
  {values : Assoc τ τ}

theorem bindArguments_eq_ok_iff :
    bindArguments library parameters arguments = .ok values ↔
      Binding.values parameters arguments = .ok values := by
  rw [bindArguments]
  cases Binding.values parameters arguments with
  | error e => exact ⟨nofun, nofun⟩
  | ok found =>
    constructor
    · intro h
      exact congrArg Except.ok (Except.ok.inj h)
    · intro h
      exact congrArg Except.ok (Except.ok.inj h)

/-- **A binding that is given by name is bound again**, whichever of its values were named, given by
position or left to their defaults before. -/
theorem bindArguments_ofBinding
    (h : bindArguments library parameters arguments = .ok values)
    (hne : ∀ p ∈ parameters, p.name ≠ Textual.ofString "") :
    bindArguments library parameters (Argument.ofBinding values) = .ok values := by
  obtain ⟨named, -, -, hcomplete⟩ := values_eq_ok_iff.1 (bindArguments_eq_ok_iff.1 h)
  have hdeclared : ∀ name ∈ values.keys, name ∈ parameters.map Parameter.name :=
    fun _ => (mem_keys_of_complete hcomplete).1
  have hnonempty : ∀ name ∈ values.keys, name ≠ Textual.ofString "" := by
    intro name hname
    obtain ⟨p, hp, rfl⟩ := List.mem_map.1 (hdeclared name hname)
    exact hne p hp
  refine bindArguments_eq_ok_iff.2 (values_eq_ok_iff.2 ?_)
  refine ⟨values, bindNamed_ofBinding hdeclared hnonempty (nodup_keys_of_complete hcomplete),
    ?_, ?_⟩
  · rw [positional_ofBinding hnonempty]
    exact Nat.zero_le _
  · rw [positional_ofBinding hnonempty, fillPositional, List.zip_nil_right]
    exact complete_self hcomplete

/-! ### The parameters of a descriptor -/

theorem Descriptor.map_name_parameters (d : Descriptor τ) :
    d.parameters.map Parameter.name = d.properties.keys := by
  rw [parameters, Assoc.keys, List.map_map]
  refine List.map_congr_left fun p _ => ?_
  rw [Function.comp_apply]
  split <;> rfl

/-- The keys of a binding are the properties of its library. -/
theorem mem_keys_of_bindArguments {descriptor : Descriptor τ}
    (h : bindArguments library descriptor.parameters arguments = .ok values) {name : τ} :
    name ∈ values.keys ↔ name ∈ descriptor.properties.keys := by
  obtain ⟨named, -, -, hcomplete⟩ := Binding.values_eq_ok_iff.1 (bindArguments_eq_ok_iff.1 h)
  rw [Binding.mem_keys_of_complete hcomplete, Descriptor.map_name_parameters]

end LibraryCalls
