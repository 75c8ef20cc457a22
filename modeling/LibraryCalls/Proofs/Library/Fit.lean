import Mathlib.Data.List.Nodup
import LibraryCalls.Proofs.Library.Declaration

/-!
# How arguments fit the parameters of a library

Binding goes through named arguments, free parameters and defaults in three loops.  Here the same is
said without them: which argument a parameter takes its value from, and which fault of a call counts
if there are several.

Names are looked at first: either all of them name different parameters, or there is a first
argument that does not, and then binding ends with its fault whatever the other arguments are.  For
arguments that are well named the parameters fall into those that are named and those left open, and
positional arguments are paired with the latter in order.  What is left over on one side is a fault,
on the other a default or a fault.

Outcomes are a relation, shown to be total and to be what binding computes; as binding is a
function, there is one outcome for each call.

* `named`, `unnamed`, `leftOpen`: the two kinds of arguments, and the parameters that none names;
* `source?`, `given?`: the argument that a parameter takes its value from, and its value;
* `WellNamed`, `Misnamed`, `Lacking`: what can be wrong with names and with parameters;
* `Outcome`: the outcomes of a call, the faults in the order in which they count;
* `values_of_outcome`, `exists_outcome`: binding has each such outcome, and there always is one;
* `filterMap_source_perm`: each argument is the source of one parameter;
* `bindArguments_outcome`: binding has just these outcomes.
-/

namespace LibraryCalls

namespace Binding

/-! ### Arguments and parameters -/

def named (arguments : List Argument) : List Argument :=
  arguments.filter (·.name ≠ "")

def unnamed (arguments : List Argument) : List Argument :=
  arguments.filter (·.name = "")

/-- The parameters that no argument names, in the order of their declaration. -/
def leftOpen (parameters : List Parameter) (arguments : List Argument) : List Parameter :=
  parameters.filter fun p => p.name ∉ (named arguments).map Argument.name

/-- The argument that a parameter takes its value from: the one that names it, or else the
positional one that has the place of the parameter among those left open. -/
def source? (parameters : List Parameter) (arguments : List Argument) (p : Parameter) :
    Option Argument :=
  ((named arguments).find? (·.name = p.name)).or
    (unnamed arguments)[(leftOpen parameters arguments).idxOf p]?

/-- The value of a parameter: that of its argument, or else its default. -/
def given? (parameters : List Parameter) (arguments : List Argument) (p : Parameter) :
    Option String :=
  ((source? parameters arguments p).map Argument.value).or p.default?

/-- Arguments that each name another parameter. -/
structure WellNamed (parameters : List Parameter) (args : List Argument) : Prop where
  declared : ∀ a ∈ args, a.name ∈ parameters.map Parameter.name
  nodup : (args.map Argument.name).Nodup

/-- The fault of an argument that stands behind others: it names no parameter, or one that an
earlier argument has named. -/
inductive Misnamed (parameters : List Parameter) (before : List Argument) (a : Argument) :
    Cause → Prop
  | undeclared (absent : a.name ∉ parameters.map Parameter.name) :
      Misnamed parameters before a (.unknownParameter a.name)
  | repeated (present : a.name ∈ parameters.map Parameter.name)
      (again : a.name ∈ before.map Argument.name) :
      Misnamed parameters before a (.duplicateBinding a.name)

/-- A required parameter that no argument names, and that has its place among those left open behind
the last positional argument. -/
structure Lacking (parameters : List Parameter) (arguments : List Argument) (p : Parameter) :
    Prop where
  required : p.default? = none
  left_open : p ∈ leftOpen parameters arguments
  behind : (unnamed arguments).length ≤ (leftOpen parameters arguments).idxOf p

instance (parameters : List Parameter) (arguments : List Argument) (p : Parameter) :
    Decidable (Lacking parameters arguments p) :=
  decidable_of_iff
    (p.default? = none ∧ p ∈ leftOpen parameters arguments ∧
      (unnamed arguments).length ≤ (leftOpen parameters arguments).idxOf p)
    ⟨fun h => ⟨h.1, h.2.1, h.2.2⟩, fun h => ⟨h.required, h.left_open, h.behind⟩⟩

/-- **The outcomes of a call.**  Named arguments count before the number of the positional ones, and
both before parameters that lack a value; in each case the first fault counts. -/
inductive Outcome (parameters : List Parameter) (arguments : List Argument) :
    Except Cause (Assoc String String) → Prop
  | misnamed {before after : List Argument} {a : Argument} {cause : Cause}
      (split : named arguments = before ++ a :: after) (fine : WellNamed parameters before)
      (fault : Misnamed parameters before a cause) : Outcome parameters arguments (.error cause)
  | tooMany (fine : WellNamed parameters (named arguments))
      (more : (leftOpen parameters arguments).length < (unnamed arguments).length) :
      Outcome parameters arguments (.error (.tooManyPositional
        (leftOpen parameters arguments).length (unnamed arguments).length))
  | missing {before after : List Parameter} {p : Parameter}
      (fine : WellNamed parameters (named arguments))
      (room : (unnamed arguments).length ≤ (leftOpen parameters arguments).length)
      (split : parameters = before ++ p :: after)
      (settled : ∀ q ∈ before, ¬ Lacking parameters arguments q)
      (lacking : Lacking parameters arguments p) :
      Outcome parameters arguments (.error (.missingRequired p.name))
  | bound {values : Assoc String String} (fine : WellNamed parameters (named arguments))
      (room : (unnamed arguments).length ≤ (leftOpen parameters arguments).length)
      (each : values.map (fun e => (e.1, some e.2))
        = parameters.map fun p => (p.name, given? parameters arguments p)) :
      Outcome parameters arguments (.ok values)

variable {parameters : List Parameter} {arguments : List Argument}

/-! ### Named arguments -/

theorem name_ne_of_mem_named {a : Argument} (ha : a ∈ named arguments) : a.name ≠ "" := by
  simpa using (List.mem_filter.1 ha).2

/-- Positional arguments play no part in the first loop. -/
theorem bindNamed_named (bound : Assoc String String) :
    bindNamed parameters bound arguments = bindNamed parameters bound (named arguments) := by
  induction arguments generalizing bound with
  | nil => rfl
  | cons a rest ih =>
    by_cases hname : a.name = ""
    · rw [bindNamed, Textual.ofString_string, if_pos hname, ih, named, named,
        List.filter_cons_of_neg (by simp [hname])]
    · rw [named, List.filter_cons_of_pos (by simp [hname]), bindNamed, bindNamed,
        Textual.ofString_string, if_neg hname, if_neg hname]
      simp only [ih]
      rfl

/-- Arguments that are well named bind, and the others bind after them. -/
theorem WellNamed.bindNamed_append {args : List Argument} (h : WellNamed parameters args)
    (hne : ∀ a ∈ args, a.name ≠ "") (rest : List Argument) :
    bindNamed parameters [] (args ++ rest)
      = bindNamed parameters (args.map Argument.entry) rest := by
  have hnodup : (Assoc.keys ([] : Assoc String String) ++ args.map Argument.name).Nodup := h.nodup
  rw [Binding.bindNamed_append hne h.declared hnodup rest, List.nil_append]

theorem keys_entries (args : List Argument) :
    Assoc.keys (args.map Argument.entry) = args.map Argument.name := by
  rw [Assoc.keys, List.map_map]
  rfl

theorem get?_entries (args : List Argument) (name : String) :
    Assoc.get? (args.map Argument.entry) name
      = (args.find? (·.name = name)).map Argument.value := by
  induction args with
  | nil => rfl
  | cons a rest ih =>
    rw [List.map_cons, Argument.entry, Assoc.get?]
    by_cases h : a.name = name
    · rw [if_pos h, List.find?_cons_of_pos (by simpa using h), Option.map_some]
    · rw [if_neg h, List.find?_cons_of_neg (by simpa using h), ih]

/-- **The first fault of a name.** -/
theorem bindNamed_of_misnamed {before after : List Argument} {a : Argument} {cause : Cause}
    (hsplit : named arguments = before ++ a :: after) (hfine : WellNamed parameters before)
    (hfault : Misnamed parameters before a cause) :
    bindNamed parameters [] arguments = .error cause := by
  have hne : ∀ c ∈ before ++ a :: after, c.name ≠ "" := by
    rw [← hsplit]
    exact fun c hc => name_ne_of_mem_named hc
  have hname : a.name ≠ "" := hne a (List.mem_append_right before List.mem_cons_self)
  rw [bindNamed_named, hsplit,
    hfine.bindNamed_append (fun c hc => hne c (List.mem_append_left _ hc)), bindNamed,
    Textual.ofString_string, if_neg hname]
  cases hfault with
  | undeclared absent => rw [if_pos absent]
  | repeated present again =>
    have hcontains : Assoc.contains (before.map Argument.entry) a.name = true := by
      rw [Assoc.contains_eq_true_iff, keys_entries]
      exact again
    rw [if_neg (not_not_intro present), if_pos hcontains]

theorem bindNamed_of_wellNamed (hfine : WellNamed parameters (named arguments)) :
    bindNamed parameters [] arguments = .ok ((named arguments).map Argument.entry) := by
  have hbind := hfine.bindNamed_append (fun a ha => name_ne_of_mem_named ha) []
  rw [List.append_nil] at hbind
  rw [bindNamed_named, hbind]
  rfl

/-- Arguments that are not well named have a first one that is misnamed.  The induction is on the
last argument, which counts only if those before it are well named. -/
theorem exists_misnamed {args : List Argument} (h : ¬ WellNamed parameters args) :
    ∃ before a after cause, args = before ++ a :: after ∧ WellNamed parameters before ∧
      Misnamed parameters before a cause := by
  induction args using List.reverseRecOn with
  | nil => exact absurd ⟨by simp, List.nodup_nil⟩ h
  | append_singleton args a ih =>
    by_cases hargs : WellNamed parameters args
    · by_cases hdeclared : a.name ∈ parameters.map Parameter.name
      · by_cases hagain : a.name ∈ args.map Argument.name
        · exact ⟨args, a, [], _, rfl, hargs, .repeated hdeclared hagain⟩
        · refine absurd ⟨?_, ?_⟩ h
          · intro c hc
            rcases List.mem_append.1 hc with hc | hc
            · exact hargs.declared c hc
            · rw [List.mem_singleton.1 hc]
              exact hdeclared
          · rw [List.map_append, List.map_singleton]
            refine List.nodup_append.2 ⟨hargs.nodup, List.nodup_singleton _, ?_⟩
            intro x hx y hy
            rw [List.mem_singleton.1 hy]
            exact fun he => hagain (he ▸ hx)
      · exact ⟨args, a, [], _, rfl, hargs, .undeclared hdeclared⟩
    · obtain ⟨before, c, after, cause, hsplit, hfine, hfault⟩ := ih hargs
      refine ⟨before, c, after ++ [a], cause, ?_, hfine, hfault⟩
      rw [hsplit, List.append_assoc, List.cons_append]

/-! ### Parameters left open -/

theorem positional_eq (arguments : List Argument) :
    positional arguments = (unnamed arguments).map Argument.value := rfl

theorem free_entries (parameters : List Parameter) (arguments : List Argument) :
    free parameters ((named arguments).map Argument.entry) = leftOpen parameters arguments := by
  refine List.filter_congr fun p _ => ?_
  rw [Bool.eq_iff_iff, Bool.not_eq_true', Bool.eq_false_iff, ne_eq, Assoc.contains_eq_true_iff,
    keys_entries, decide_eq_true_eq]

theorem mem_leftOpen {p : Parameter} (hp : p ∈ parameters) :
    p ∈ leftOpen parameters arguments ↔ (named arguments).find? (·.name = p.name) = none := by
  rw [leftOpen, List.mem_filter, List.find?_eq_none, and_iff_right hp]
  simp

variable (hnodup : (parameters.map Parameter.name).Nodup)

include hnodup

theorem idxOf_map_name {ps : List Parameter} (hps : ps ⊆ parameters) {p : Parameter}
    (hp : p ∈ parameters) : (ps.map Parameter.name).idxOf p.name = ps.idxOf p := by
  induction ps with
  | nil => rfl
  | cons q ps ih =>
    have hq : q ∈ parameters := hps List.mem_cons_self
    rw [List.map_cons]
    by_cases h : q = p
    · rw [h, List.idxOf_cons_self, List.idxOf_cons_self]
    · have hname : q.name ≠ p.name := fun he => h (List.inj_on_of_nodup_map hnodup hq hp he)
      rw [List.idxOf_cons_ne _ hname, List.idxOf_cons_ne _ h,
        ih fun r hr => hps (List.mem_cons_of_mem q hr)]

/-- **The value that is bound to a parameter**, once the positional arguments have filled the
parameters left open. -/
theorem valueOf?_filled
    (hroom : (unnamed arguments).length ≤ (leftOpen parameters arguments).length)
    {p : Parameter} (hp : p ∈ parameters) :
    valueOf? ((named arguments).map Argument.entry
      ++ ((leftOpen parameters arguments).map Parameter.name).zip (positional arguments)) p
      = given? parameters arguments p := by
  have hlength : (positional arguments).length
      ≤ ((leftOpen parameters arguments).map Parameter.name).length := by
    rw [positional_eq, List.length_map, List.length_map]
    exact hroom
  have hopen : leftOpen parameters arguments ⊆ parameters := List.filter_subset_self _
  rw [valueOf?, given?, source?, Assoc.get?_append, get?_entries, Assoc.get?_zip hlength,
    idxOf_map_name hnodup hopen hp, positional_eq, List.getElem?_map, Option.map_or]

omit hnodup in
theorem given?_eq_none_iff {p : Parameter} (hp : p ∈ parameters) :
    given? parameters arguments p = none ↔ Lacking parameters arguments p := by
  rw [given?, source?, Option.or_eq_none_iff, Option.map_eq_none_iff, Option.or_eq_none_iff,
    ← mem_leftOpen hp, List.getElem?_eq_none_iff]
  constructor
  · rintro ⟨⟨hopen, hbehind⟩, hrequired⟩
    exact ⟨hrequired, hopen, hbehind⟩
  · rintro ⟨hrequired, hopen, hbehind⟩
    exact ⟨⟨hopen, hbehind⟩, hrequired⟩

/-! ### Each outcome -/

omit hnodup in
/-- Completing a binding stops at the first parameter without a value. -/
theorem complete_of_valueOf?_none {bound result : Assoc String String}
    {before after : List Parameter}
    {p : Parameter} (hbefore : ∀ q ∈ before, valueOf? bound q ≠ none)
    (hp : valueOf? bound p = none) :
    complete bound result (before ++ p :: after) = .error (.missingRequired p.name) := by
  induction before generalizing result with
  | nil => rw [List.nil_append, complete_cons, hp]
  | cons q before ih =>
    obtain ⟨value, hvalue⟩ := Option.ne_none_iff_exists'.1 (hbefore q List.mem_cons_self)
    rw [List.cons_append, complete_cons, hvalue]
    exact ih fun r hr => hbefore r (List.mem_cons_of_mem q hr)

omit hnodup in
/-- A call whose arguments are well named comes down to its positional ones. -/
theorem values_of_wellNamed (hfine : WellNamed parameters (named arguments)) :
    Binding.values parameters arguments =
      if (leftOpen parameters arguments).length < (unnamed arguments).length then
        .error (.tooManyPositional (leftOpen parameters arguments).length
          (unnamed arguments).length)
      else complete (fillPositional ((named arguments).map Argument.entry)
        (leftOpen parameters arguments) (positional arguments)) [] parameters := by
  rw [Binding.values, bindNamed_of_wellNamed hfine]
  simp only [free_entries, positional_eq, List.length_map]

/-- The positional arguments of a call are given to the parameters left open. -/
theorem fillPositional_leftOpen (hfine : WellNamed parameters (named arguments)) :
    fillPositional ((named arguments).map Argument.entry) (leftOpen parameters arguments)
        (positional arguments)
      = (named arguments).map Argument.entry
        ++ ((leftOpen parameters arguments).map Parameter.name).zip (positional arguments) := by
  refine fillPositional_of_nodup ?_ _
  rw [keys_entries]
  refine List.nodup_append.2 ⟨hfine.nodup, ?_, ?_⟩
  · exact hnodup.sublist (List.filter_sublist.map Parameter.name)
  · intro x hx y hy
    obtain ⟨p, hp, rfl⟩ := List.mem_map.1 hy
    have hnot : p.name ∉ (named arguments).map Argument.name := by
      simpa using (List.mem_filter.1 hp).2
    exact fun he => hnot (he ▸ hx)

/-- **Binding has each of the outcomes.** -/
theorem values_of_outcome {outcome : Except Cause (Assoc String String)}
    (h : Outcome parameters arguments outcome) :
    Binding.values parameters arguments = outcome := by
  cases h with
  | misnamed split fine fault =>
    rw [Binding.values, bindNamed_of_misnamed split fine fault]
  | tooMany fine more =>
    rw [values_of_wellNamed fine, if_pos more]
  | @missing before after p fine room split settled lacking =>
    have hmem : ∀ q ∈ before ++ p :: after, q ∈ parameters := fun q hq => split ▸ hq
    rw [values_of_wellNamed fine, if_neg (Nat.not_lt.2 room), fillPositional_leftOpen hnodup fine]
    conv_lhs => arg 3; rw [split]
    refine complete_of_valueOf?_none ?_ ?_
    · intro q hq
      have hq' := hmem q (List.mem_append_left _ hq)
      rw [valueOf?_filled hnodup room hq']
      exact fun hnone => settled q hq ((given?_eq_none_iff hq').1 hnone)
    · have hp := hmem p (List.mem_append_right _ List.mem_cons_self)
      rw [valueOf?_filled hnodup room hp]
      exact (given?_eq_none_iff hp).2 lacking
  | @bound values fine room each =>
    rw [values_of_wellNamed fine, if_neg (Nat.not_lt.2 room), fillPositional_leftOpen hnodup fine,
      complete_eq_ok_iff_of_nodup hnodup]
    have hkeys := congrArg (List.map Prod.fst) each
    have hvalues := congrArg (List.map Prod.snd) each
    rw [List.map_map, List.map_map] at hkeys hvalues
    refine ⟨hkeys, Eq.trans ?_ hvalues.symm⟩
    exact List.map_congr_left fun p hp => valueOf?_filled hnodup room hp

omit hnodup in
/-- Either there is a first parameter that lacks a value, or each parameter has one. -/
theorem exists_lacking_or_given (parameters : List Parameter) (arguments : List Argument) :
    (∃ before p after, parameters = before ++ p :: after ∧
      (∀ q ∈ before, ¬ Lacking parameters arguments q) ∧ Lacking parameters arguments p) ∨
    ∀ p ∈ parameters, ∃ value, given? parameters arguments p = some value := by
  cases hfind : parameters.find? fun p => decide (Lacking parameters arguments p) with
  | some p =>
    obtain ⟨hp, before, after, hsplit, hbefore⟩ := List.find?_eq_some_iff_append.1 hfind
    refine .inl ⟨before, p, after, hsplit, fun q hq => ?_, of_decide_eq_true hp⟩
    simpa using hbefore q hq
  | none =>
    refine .inr fun p hp => Option.ne_none_iff_exists'.1 fun hnone => ?_
    have hnot := List.find?_eq_none.1 hfind p hp
    exact hnot (decide_eq_true ((given?_eq_none_iff hp).1 hnone))

omit hnodup in
/-- **There always is an outcome.** -/
theorem exists_outcome (parameters : List Parameter) (arguments : List Argument) :
    ∃ outcome, Outcome parameters arguments outcome := by
  by_cases hfine : WellNamed parameters (named arguments)
  · rcases Nat.lt_or_ge (leftOpen parameters arguments).length (unnamed arguments).length
      with hmore | hroom
    · exact ⟨_, .tooMany hfine hmore⟩
    · rcases exists_lacking_or_given parameters arguments with
        ⟨before, p, after, hsplit, hsettled, hlacking⟩ | hgiven
      · exact ⟨_, .missing hfine hroom hsplit hsettled hlacking⟩
      · refine ⟨.ok (parameters.map fun p => (p.name, (given? parameters arguments p).getD "")),
          .bound hfine hroom ?_⟩
        rw [List.map_map]
        refine List.map_congr_left fun p hp => ?_
        obtain ⟨value, hvalue⟩ := hgiven p hp
        rw [Function.comp_apply, hvalue, Option.getD_some]
  · obtain ⟨before, a, after, cause, hsplit, hbefore, hfault⟩ := exists_misnamed hfine
    exact ⟨.error cause, .misnamed hsplit hbefore hfault⟩

/-! ### The sources of the parameters -/

omit hnodup in
/-- Values that are given to the places of a list, one each. -/
theorem filterMap_getElem?_idxOf {α β : Type} [DecidableEq α] {places : List α} {values : List β}
    (hplaces : places.Nodup) (hle : values.length ≤ places.length) :
    places.filterMap (fun p => values[places.idxOf p]?) = values := by
  induction places generalizing values with
  | nil =>
    obtain rfl : values = [] := List.eq_nil_of_length_eq_zero (Nat.le_zero.1 hle)
    rfl
  | cons q places ih =>
    obtain ⟨hq, hrest⟩ := List.nodup_cons.1 hplaces
    have hlater : ∀ p ∈ places, (q :: places).idxOf p = places.idxOf p + 1 :=
      fun p hp => List.idxOf_cons_ne places fun he => hq (he ▸ hp)
    cases values with
    | nil => simp
    | cons v values =>
      have htail : places.filterMap (fun p => (v :: values)[(q :: places).idxOf p]?) = values := by
        rw [List.filterMap_congr fun p hp => by
          rw [hlater p hp, List.getElem?_cons_succ]]
        exact ih hrest (Nat.le_of_succ_le_succ hle)
      rw [List.filterMap_cons, List.idxOf_cons_self, List.getElem?_cons_zero, htail]

omit hnodup in
theorem filterMap_find?_name {args : List Argument} (h : (args.map Argument.name).Nodup) :
    (args.map Argument.name).filterMap (fun n => args.find? (·.name = n)) = args := by
  have hfind : ∀ a ∈ args, args.find? (·.name = a.name) = some a := by
    intro a ha
    cases hf : args.find? (·.name = a.name) with
    | none => exact absurd (List.find?_eq_none.1 hf a ha) (by simp)
    | some c =>
      have hname : c.name = a.name := by simpa using List.find?_some hf
      rw [List.inj_on_of_nodup_map h (List.mem_of_find?_eq_some hf) ha hname]
  rw [List.filterMap_map]
  calc args.filterMap ((fun n => args.find? (·.name = n)) ∘ Argument.name)
      = args.filterMap some := List.filterMap_congr fun a ha => hfind a ha
    _ = args := List.filterMap_some

omit hnodup in
theorem source?_of_named {p : Parameter} (hp : p.name ∈ (named arguments).map Argument.name) :
    source? parameters arguments p = (named arguments).find? (·.name = p.name) := by
  obtain ⟨a, ha, hname⟩ := List.mem_map.1 hp
  cases hf : (named arguments).find? (·.name = p.name) with
  | none => exact absurd (List.find?_eq_none.1 hf a ha) (by simp [hname])
  | some c => rw [source?, hf, Option.some_or]

omit hnodup in
/-- A parameter left open takes its value from the positional argument at its place. -/
theorem source?_of_leftOpen {p : Parameter} (hp : p ∈ leftOpen parameters arguments) :
    source? parameters arguments p
      = (unnamed arguments)[(leftOpen parameters arguments).idxOf p]? := by
  rw [source?, (mem_leftOpen (List.mem_filter.1 hp).1).1 hp, Option.none_or]

omit hnodup in
theorem named_append_unnamed_perm (arguments : List Argument) :
    (named arguments ++ unnamed arguments).Perm arguments := by
  have hunnamed : unnamed arguments = arguments.filter fun a => !decide (a.name ≠ "") :=
    List.filter_congr fun a _ => by simp
  rw [hunnamed]
  exact List.filter_append_perm _ arguments

/-- The parameters that are named have the named arguments as their sources. -/
theorem filterMap_source_named_perm (hfine : WellNamed parameters (named arguments)) :
    ((parameters.filter fun p => p.name ∈ (named arguments).map Argument.name).filterMap
      (source? parameters arguments)).Perm (named arguments) := by
  let taken := parameters.filter fun p => p.name ∈ (named arguments).map Argument.name
  let find? (n : String) : Option Argument := (named arguments).find? (·.name = n)
  have hsources : taken.filterMap (source? parameters arguments)
      = (taken.map Parameter.name).filterMap find? := by
    rw [List.filterMap_map]
    exact List.filterMap_congr fun p hp =>
      source?_of_named (of_decide_eq_true (List.mem_filter.1 hp).2)
  have hnames : (taken.map Parameter.name).Perm ((named arguments).map Argument.name) := by
    refine (List.perm_ext_iff_of_nodup ?_ hfine.nodup).2 fun n => ?_
    · exact hnodup.sublist (List.filter_sublist.map Parameter.name)
    · constructor
      · intro hn
        obtain ⟨p, hp, rfl⟩ := List.mem_map.1 hn
        exact of_decide_eq_true (List.mem_filter.1 hp).2
      · intro hn
        obtain ⟨a, ha, rfl⟩ := List.mem_map.1 hn
        obtain ⟨p, hp, hname⟩ := List.mem_map.1 (hfine.declared a ha)
        rw [← hname] at hn ⊢
        exact List.mem_map_of_mem (List.mem_filter.2 ⟨hp, decide_eq_true hn⟩)
  show (taken.filterMap (source? parameters arguments)).Perm (named arguments)
  rw [hsources]
  exact (hnames.filterMap find?).trans (.of_eq (filterMap_find?_name hfine.nodup))

/-- The parameters that are left open have the positional arguments as their sources. -/
theorem filterMap_source_leftOpen
    (hroom : (unnamed arguments).length ≤ (leftOpen parameters arguments).length) :
    (leftOpen parameters arguments).filterMap (source? parameters arguments)
      = unnamed arguments := by
  have hplaces : (leftOpen parameters arguments).Nodup :=
    (List.Nodup.of_map Parameter.name hnodup).filter _
  exact (List.filterMap_congr fun p hp => source?_of_leftOpen hp).trans
    (filterMap_getElem?_idxOf hplaces hroom)

/-- **Each argument is the source of one parameter.** -/
theorem filterMap_source_perm (hfine : WellNamed parameters (named arguments))
    (hroom : (unnamed arguments).length ≤ (leftOpen parameters arguments).length) :
    (parameters.filterMap (source? parameters arguments)).Perm arguments := by
  let isNamed (p : Parameter) : Bool := decide (p.name ∈ (named arguments).map Argument.name)
  have hopen : (parameters.filter fun p => !isNamed p) = leftOpen parameters arguments :=
    List.filter_congr fun p _ => (decide_not).symm
  have hsplit : (parameters.filterMap (source? parameters arguments)).Perm
      ((parameters.filter isNamed).filterMap (source? parameters arguments)
        ++ unnamed arguments) := by
    rw [← filterMap_source_leftOpen hnodup hroom, ← List.filterMap_append, ← hopen]
    exact ((List.filter_append_perm isNamed parameters).filterMap _).symm
  exact (hsplit.trans ((filterMap_source_named_perm hnodup hfine).append_right _)).trans
    (named_append_unnamed_perm arguments)

omit hnodup in
/-- The library in an error hides nothing. -/
theorem mapError_library_inj {library : String} {x y : Except Cause (Assoc String String)} :
    x.mapError (Error.mk library) = y.mapError (Error.mk library) ↔ x = y := by
  cases x <;> cases y <;> simp [Except.mapError]

end Binding

open Binding

/-- **What binding comes to.**  For parameters with different names, binding has the outcome that
the faults of a call determine, and no other: the first misnamed argument, too many positional ones,
the first lacking parameter, or a value for each parameter in the order of their declaration.  When
a call binds, each of its arguments is the source of exactly one parameter. -/
theorem bindArguments_outcome (library : String) (parameters : List Parameter)
    (arguments : List Argument) (hnodup : (parameters.map Parameter.name).Nodup) :
    (∀ outcome, bindArguments library parameters arguments = outcome.mapError (⟨library, ·⟩) ↔
      Outcome parameters arguments outcome) ∧
    ∀ values, bindArguments library parameters arguments = .ok values →
      (parameters.filterMap (source? parameters arguments)).Perm arguments := by
  obtain ⟨found, hfound⟩ := exists_outcome parameters arguments
  have hvalues := values_of_outcome hnodup hfound
  constructor
  · intro outcome
    rw [bindArguments, mapError_library_inj]
    constructor
    · intro h
      rw [← h, hvalues]
      exact hfound
    · exact values_of_outcome hnodup
  · intro values h
    rw [bindArguments_eq_ok_iff, hvalues] at h
    subst h
    cases hfound with
    | bound fine room each => exact filterMap_source_perm hnodup fine room

/-- A call that names its second parameter, leaves the third to its default and gives the others by
position; one that lacks a required parameter; and one with a repeated and an undeclared name, of
which the repeated one comes first. -/
theorem bindArguments_outcome_mixed :
    let parameters : List Parameter :=
      [.required "a", .required "b", .required "c", .optional "d" "0"]
    let arguments : List Argument := [⟨"", "1"⟩, ⟨"b", "2"⟩, ⟨"", "3"⟩]
    (parameters.map Parameter.name).Nodup ∧
      bindArguments "lib" parameters arguments
        = .ok [("a", "1"), ("b", "2"), ("c", "3"), ("d", "0")] ∧
      (parameters.filterMap (source? parameters arguments)).Perm arguments ∧
      bindArguments "lib" parameters [⟨"", "1"⟩, ⟨"b", "2"⟩]
        = .error ⟨"lib", .missingRequired "c"⟩ ∧
      bindArguments "lib" parameters [⟨"b", "2"⟩, ⟨"", "1"⟩, ⟨"b", "3"⟩, ⟨"e", "4"⟩]
        = .error ⟨"lib", .duplicateBinding "b"⟩ := by
  intro parameters arguments
  have hnodup : (parameters.map Parameter.name).Nodup := by decide
  have hbound : bindArguments "lib" parameters arguments
      = .ok [("a", "1"), ("b", "2"), ("c", "3"), ("d", "0")] :=
    ((bindArguments_outcome "lib" parameters arguments hnodup).1
      (.ok [("a", "1"), ("b", "2"), ("c", "3"), ("d", "0")])).2
      (.bound ⟨by decide, by decide⟩ (by decide) (by decide))
  refine ⟨hnodup, hbound, (bindArguments_outcome "lib" parameters arguments hnodup).2 _ hbound,
    ?_, ?_⟩
  · let lacking : Parameter := .required "c"
    have hsplit : parameters =
        [.required "a", .required "b"] ++ lacking :: [.optional "d" "0"] := rfl
    have hsettled : ∀ q ∈ [Parameter.required "a", .required "b"],
        ¬ Lacking parameters [⟨"", "1"⟩, ⟨"b", "2"⟩] q := by decide
    exact ((bindArguments_outcome "lib" parameters [⟨"", "1"⟩, ⟨"b", "2"⟩] hnodup).1
      (.error (.missingRequired "c"))).2
      (.missing ⟨by decide, by decide⟩ (by decide) hsplit hsettled
        (by decide))
  · have hsplit : named [⟨"b", "2"⟩, ⟨"", "1"⟩, ⟨"b", "3"⟩, ⟨"e", "4"⟩]
        = [⟨"b", "2"⟩] ++ ⟨"b", "3"⟩ :: [⟨"e", "4"⟩] := by decide
    exact ((bindArguments_outcome "lib" parameters _ hnodup).1
      (.error (.duplicateBinding "b"))).2
      (.misnamed hsplit ⟨by decide, by decide⟩ (.repeated (by decide) (by decide)))

end LibraryCalls
