import LibraryCalls.Proofs.Library.Fit

/-!
# Arguments in another order

A named argument may stand anywhere among the positional ones.  As long as the positional arguments
keep their order, a call binds to the same values, and a call that does not fit fails for the same
reason; only among several faults of names does the order decide which one is met first.

Two rows of arguments are compared that are the same up to their order, with the positional ones in
the same order in both.  If the names are all different and declared, the loops end with the same
values for every parameter, as each parameter finds its value by name; the maps in between may have
their entries in another order, but completing them lists the parameters by declaration.

If they are not, both rows fail for a name, though perhaps not for the same one.  Which short names
belong to faults of names is decided by `Cause.isMisnaming`.

* `WellNamed.perm`, `leftOpen_perm`: named arguments in another order;
* `complete_congr`: completing a binding looks at nothing but the values of the parameters;
* `values_perm`: arguments that are well named bind in any order as they do in another;
* `exists_misnaming`: other arguments fail for a name, in any order;
* `bindArguments_perm`: what the order of the arguments can change.
-/

namespace LibraryCalls

namespace Binding

variable {parameters : List Parameter} {arguments arguments' : List Argument}

/-- Whether a cause is a fault of a name: it names no parameter, or one that has a value already. -/
def Cause.isMisnaming : Cause → Bool
  | .unknownParameter _ => true
  | .duplicateBinding _ => true
  | .tooManyPositional .. => false
  | .missingRequired _ => false

/-! ### Named arguments in another order -/

theorem named_perm (hperm : arguments.Perm arguments') :
    (named arguments).Perm (named arguments') :=
  hperm.filter _

theorem WellNamed.perm {args args' : List Argument} (h : WellNamed parameters args)
    (hperm : args.Perm args') : WellNamed parameters args' where
  declared a ha := h.declared a (hperm.mem_iff.2 ha)
  nodup := (hperm.map Argument.name).nodup_iff.1 h.nodup

/-- The parameters left open depend on which names are given, not on where they are given. -/
theorem leftOpen_perm (hperm : arguments.Perm arguments') :
    leftOpen parameters arguments = leftOpen parameters arguments' := by
  have hnames := (named_perm hperm).map Argument.name
  apply List.filter_congr
  intro p _
  rw [decide_eq_decide, hnames.mem_iff]

/-! ### Completing -/

/-- **Completing a binding looks at nothing but the values of the parameters.** -/
theorem complete_congr {bound bound' result : Assoc String String} {ps : List Parameter}
    (h : ∀ p ∈ ps, valueOf? bound p = valueOf? bound' p) :
    complete bound result ps = complete bound' result ps := by
  induction ps generalizing result with
  | nil => rfl
  | cons p rest ih =>
    rw [complete_cons, complete_cons, h p List.mem_cons_self]
    cases valueOf? bound' p with
    | none => rfl
    | some value => exact ih fun q hq => h q (List.mem_cons_of_mem p hq)

/-- Named arguments in another order give each parameter the same value. -/
theorem valueOf?_perm {args args' : List Argument} (hperm : args.Perm args')
    (hnodup : (args.map Argument.name).Nodup) (rest : Assoc String String) (p : Parameter) :
    valueOf? (args.map Argument.entry ++ rest) p
      = valueOf? (args'.map Argument.entry ++ rest) p := by
  have hkeys : (Assoc.keys (args.map Argument.entry)).Nodup := by
    rw [keys_entries]
    exact hnodup
  have hget : Assoc.get? (args'.map Argument.entry) p.name
      = Assoc.get? (args.map Argument.entry) p.name :=
    Assoc.get?_perm (hperm.map Argument.entry) hkeys
  rw [valueOf?, valueOf?, Assoc.get?_append, Assoc.get?_append, hget]

/-! ### Two orders of the arguments of a call -/

/-- **Well-named arguments bind alike in both orders.** -/
theorem values_perm (hnodup : (parameters.map Parameter.name).Nodup)
    (hfine : WellNamed parameters (named arguments)) (hperm : arguments.Perm arguments')
    (hunnamed : unnamed arguments = unnamed arguments') :
    Binding.values parameters arguments = Binding.values parameters arguments' := by
  have hnamed := named_perm hperm
  have hfine' := hfine.perm hnamed
  have hopen : leftOpen parameters arguments = leftOpen parameters arguments' := leftOpen_perm hperm
  have hpositional : positional arguments = positional arguments' := by
    rw [positional_eq, positional_eq, hunnamed]
  rw [values_of_wellNamed hfine, values_of_wellNamed hfine', fillPositional_leftOpen hnodup hfine,
    fillPositional_leftOpen hnodup hfine', ← hopen, ← hunnamed, ← hpositional]
  have hcomplete : complete ((named arguments).map Argument.entry
        ++ ((leftOpen parameters arguments).map Parameter.name).zip (positional arguments)) []
        parameters
      = complete ((named arguments').map Argument.entry
        ++ ((leftOpen parameters arguments).map Parameter.name).zip (positional arguments)) []
        parameters :=
    complete_congr fun p _ => valueOf?_perm hnamed hfine.nodup _ p
  rw [hcomplete]

/-- **Arguments that are not well named fail for a name.** -/
theorem exists_misnaming (h : ¬ WellNamed parameters (named arguments)) :
    ∃ cause, Binding.values parameters arguments = .error cause ∧ cause.isMisnaming = true := by
  obtain ⟨before, a, after, cause, hsplit, hfine, hfault⟩ := exists_misnamed h
  refine ⟨cause, ?_, ?_⟩
  · rw [Binding.values, bindNamed_of_misnamed hsplit hfine hfault]
  · cases hfault with
    | undeclared absent => rfl
    | repeated present again => rfl

/-- Two orders of the arguments of a call have one outcome, or both fail for a name. -/
theorem values_perm_cases (hnodup : (parameters.map Parameter.name).Nodup)
    (hperm : arguments.Perm arguments') (hunnamed : unnamed arguments = unnamed arguments') :
    Binding.values parameters arguments = Binding.values parameters arguments' ∨
      ∃ cause cause', Binding.values parameters arguments = .error cause ∧
        Binding.values parameters arguments' = .error cause' ∧
        cause.isMisnaming = true ∧ cause'.isMisnaming = true := by
  by_cases hfine : WellNamed parameters (named arguments)
  · exact .inl (values_perm hnodup hfine hperm hunnamed)
  · have hfine' : ¬ WellNamed parameters (named arguments') :=
      fun h => hfine (h.perm (named_perm hperm).symm)
    obtain ⟨cause, hvalues, hcause⟩ := exists_misnaming hfine
    obtain ⟨cause', hvalues', hcause'⟩ := exists_misnaming hfine'
    exact .inr ⟨cause, cause', hvalues, hvalues', hcause, hcause'⟩

/-- The short names tell faults of names from the others. -/
theorem Cause.isMisnaming_eq_false_iff (cause : Cause) :
    cause.isMisnaming = false ↔
      cause.reason = "too_many_positional" ∨ cause.reason = "missing_required" := by
  cases cause <;> simp [isMisnaming, reason]

end Binding

open Binding

/-- **What the order of the arguments can change.**  For parameters with different names, let two
rows of arguments be the same up to their order, with the positional ones in the same order.  Then
one binds exactly when the other does, and to the same values in the same order; and a failure that
is no fault of a name is the failure of both.  So the order decides at most which of several faults
of names is reported. -/
theorem bindArguments_perm (library : String) (parameters : List Parameter)
    (arguments arguments' : List Argument) (hnodup : (parameters.map Parameter.name).Nodup)
    (hperm : arguments.Perm arguments') (hunnamed : unnamed arguments = unnamed arguments') :
    let result := bindArguments library parameters arguments
    let result' := bindArguments library parameters arguments'
    (∀ values, result = .ok values ↔ result' = .ok values) ∧
      (∀ e : Binding.Error,
        e.cause.reason = "too_many_positional" ∨ e.cause.reason = "missing_required" →
          (result = .error e ↔ result' = .error e)) ∧
      ((∃ e, result = .error e ∧ e.cause.isMisnaming = true) ↔
        ∃ e, result' = .error e ∧ e.cause.isMisnaming = true) := by
  intro result result'
  rcases values_perm_cases hnodup hperm hunnamed with heq | ⟨c, c', hc, hc', hname, hname'⟩
  · have hresult : result = result' := congrArg (Except.mapError (Binding.Error.mk library)) heq
    rw [hresult]
    exact ⟨fun _ => Iff.rfl, fun _ _ => Iff.rfl, Iff.rfl⟩
  · have hresult : result = .error ⟨library, c⟩ :=
      congrArg (Except.mapError (Binding.Error.mk library)) hc
    have hresult' : result' = .error ⟨library, c'⟩ :=
      congrArg (Except.mapError (Binding.Error.mk library)) hc'
    rw [hresult, hresult']
    refine ⟨?_, ?_, ?_⟩
    · intro values
      exact iff_of_false nofun nofun
    · intro e hreason
      have hother := (Cause.isMisnaming_eq_false_iff e.cause).2 hreason
      refine iff_of_false ?_ ?_
      · intro h
        obtain rfl := Except.error.inj h
        exact Bool.noConfusion (hname.symm.trans hother)
      · intro h
        obtain rfl := Except.error.inj h
        exact Bool.noConfusion (hname'.symm.trans hother)
    · exact iff_of_true ⟨_, rfl, hname⟩ ⟨_, rfl, hname'⟩

/-- A named argument between the positional ones and behind them; a required parameter that lacks a
value in both orders; and a repeated and an undeclared name, of which the first is reported. -/
theorem bindArguments_perm_named :
    let parameters : List Parameter := [.required "a", .required "b", .required "c"]
    let between : List Argument := [⟨"", "1"⟩, ⟨"b", "2"⟩, ⟨"", "3"⟩]
    let behind : List Argument := [⟨"", "1"⟩, ⟨"", "3"⟩, ⟨"b", "2"⟩]
    let lacking : List Argument := [⟨"b", "2"⟩, ⟨"", "1"⟩]
    bindArguments "lib" parameters between = .ok [("a", "1"), ("b", "2"), ("c", "3")] ∧
      bindArguments "lib" parameters behind = .ok [("a", "1"), ("b", "2"), ("c", "3")] ∧
      bindArguments "lib" parameters lacking = .error ⟨"lib", .missingRequired "c"⟩ ∧
      bindArguments "lib" parameters lacking.reverse = .error ⟨"lib", .missingRequired "c"⟩ ∧
      bindArguments "lib" parameters [⟨"a", "1"⟩, ⟨"a", "2"⟩, ⟨"z", "3"⟩]
        = .error ⟨"lib", .duplicateBinding "a"⟩ ∧
      bindArguments "lib" parameters [⟨"z", "3"⟩, ⟨"a", "1"⟩, ⟨"a", "2"⟩]
        = .error ⟨"lib", .unknownParameter "z"⟩ := by
  intro parameters between behind lacking
  have hnodup : (parameters.map Parameter.name).Nodup := by decide
  have hbetween : bindArguments "lib" parameters between
      = .ok [("a", "1"), ("b", "2"), ("c", "3")] := rfl
  have hlacking : bindArguments "lib" parameters lacking
      = .error ⟨"lib", .missingRequired "c"⟩ := rfl
  refine ⟨hbetween, ?_, hlacking, ?_, rfl, rfl⟩
  · have hsame := bindArguments_perm "lib" parameters between behind hnodup (by decide) rfl
    exact (hsame.1 _).1 hbetween
  · have hsame := bindArguments_perm "lib" parameters lacking lacking.reverse hnodup (by decide) rfl
    exact (hsame.2.1 _ (.inr rfl)).1 hlacking

end LibraryCalls
