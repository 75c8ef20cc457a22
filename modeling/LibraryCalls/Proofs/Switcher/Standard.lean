import LibraryCalls.Proofs.Switcher.Board

/-!
# The standard switcher

What the standard switcher publishes is fixed when it is made: the origin that was in the cell then,
for the mode of its kind, and a default for the other mode.  The cell is overwritten later, by the
switcher itself and by others, before or after the origins are put into the cache; none of this
counts.

The builder of the standard switcher has the cell as it was at the start among its arguments, and so
its answers are constant.  The invariant is that every cache holds nothing but these answers; a
write into the cell does not touch a cache, and a choice adds the answer for its mode.

It is stated for any number of switchers with constant builders, for nothing in it is special to two
modes, and only at the end for the standard one.

* `Board.Constant`, `Board.Faithful`: builders that always give the same answers, and caches that
  hold nothing but these;
* `choose_cases_of_constant`: choosing a mode publishes the answer for it;
* `faithful_move`, `faithful_run`: every move keeps the caches so, and hence every run;
* `run_choose`: what a mode publishes that is chosen after any run;
* `run_standard`: the same for the standard switcher.
-/

namespace LibraryCalls

/-- The mode whose origins are of the kind of an origin. -/
def Origin.kind : Origin → DefaultMode
  | .directory _ => .directory
  | .git .. => .gitReference

namespace DefaultMode

/-- The origin of a mode when none of its kind is at hand. -/
def fresh (directory : Path) (ref : String) : DefaultMode → Origin
  | .directory => .directory directory
  | .gitReference => .git ref none

/-- A standard switcher alone beside a cell that holds `initial`. -/
def board (initial : Origin) : Board DefaultMode Unit :=
  ⟨[(start initial).switcher], (start initial).builder, (start initial).fallback⟩

variable (initial : Origin) (directory : Path) (ref : String) (mode : DefaultMode)

theorem kind_origin : (origin initial directory ref mode).kind = mode := by
  cases mode <;> cases initial <;> rfl

theorem origin_eq :
    origin initial directory ref mode
      = if initial.kind = mode then initial else fresh directory ref mode := by
  cases mode <;> cases initial <;> rfl

end DefaultMode

namespace Board

variable {μ β ε : Type} [DecidableEq μ] {build : Nat → Builder μ β ε} {modeText : μ → String}
  {answer : Nat → μ → Origin} {b : Board μ β} {who : Nat} {s : Switcher μ}

/-- Builders that never fail and give the same answer for a mode whenever they are asked. -/
def Constant (build : Nat → Builder μ β ε) (answer : Nat → μ → Origin) : Prop :=
  ∀ who mode state, (build who mode state).1 = .ok (answer who mode)

/-- The caches hold nothing but the answers of the builders. -/
def Faithful (answer : Nat → μ → Origin) (b : Board μ β) : Prop :=
  ∀ who s, b.switchers[who]? = some s →
    ∀ mode origin, s.cache.get? mode = some origin → origin = answer who mode

/-! ### One move -/

/-- **Choosing a mode publishes the answer for it**, from the cache or from the builder. -/
theorem choose_cases_of_constant (modeText : μ → String) (hbuild : Constant build answer)
    (h : b.Faithful answer) (hs : b.switchers[who]? = some s) (mode : μ) :
    ∃ cache : Assoc μ Origin,
      (b.choose build modeText who mode).1.switchers = b.switchers.set who ⟨mode, cache⟩ ∧
        (b.choose build modeText who mode).1.fallback = answer who mode ∧
        ∀ other origin, cache.get? other = some origin → origin = answer who other := by
  rcases choose_cases build modeText hs mode with
    ⟨origin, hcached, hchoose⟩ | ⟨e, -, herror, -⟩ | ⟨origin, hnone, hbuilt, hchoose⟩
  · rw [hchoose]
    exact ⟨s.cache, rfl, h who s hs mode origin hcached, h who s hs⟩
  · rw [hbuild] at herror
    cases herror
  · rw [hbuild] at hbuilt
    obtain rfl := Except.ok.inj hbuilt
    rw [hchoose]
    refine ⟨_, rfl, rfl, ?_⟩
    intro other origin hother
    by_cases heq : other = mode
    · subst heq
      rw [Assoc.get?_set_self] at hother
      exact (Option.some.inj hother).symm
    · rw [Assoc.get?_set_of_ne _ _ heq] at hother
      exact h who s hs other origin hother

/-- A switcher is replaced by one whose cache holds nothing but answers. -/
theorem Faithful.set (h : b.Faithful answer) {s' : Switcher μ}
    (hs' : ∀ mode origin, s'.cache.get? mode = some origin → origin = answer who mode) :
    ∀ other t, (b.switchers.set who s')[other]? = some t →
      ∀ mode origin, t.cache.get? mode = some origin → origin = answer other mode := by
  intro other t ht
  by_cases heq : who = other
  · subst heq
    obtain ⟨hlt, hset⟩ := List.getElem?_eq_some_iff.1 ht
    rw [List.getElem_set_self] at hset
    subst hset
    exact hs'
  · rw [List.getElem?_set_ne heq] at ht
    exact h other t ht

theorem faithful_move (hbuild : Constant build answer) (h : b.Faithful answer) (m : Move μ) :
    (b.move build modeText m).1.Faithful answer := by
  cases m with
  | make mode =>
    intro other t ht
    have ht : (b.switchers ++ [({ mode := mode } : Switcher μ)])[other]? = some t := ht
    rw [List.getElem?_append] at ht
    split at ht
    · exact h other t ht
    · -- the new switcher, whose cache is empty
      obtain rfl := List.mem_singleton.1 (List.mem_of_getElem? ht)
      intro mode' origin hnone
      cases hnone
  | choose other mode =>
    rw [move]
    cases hs : b.switchers[other]? with
    | none =>
      rw [choose_of_none hs]
      exact h
    | some s =>
      obtain ⟨cache, hswitchers, -, hcache⟩ :=
        choose_cases_of_constant modeText hbuild h hs mode
      intro who t ht
      rw [hswitchers] at ht
      exact h.set hcache who t ht
  | write origin => exact h

theorem length_switchers_move_le (b : Board μ β) (m : Move μ) :
    b.switchers.length ≤ (b.move build modeText m).1.switchers.length := by
  cases m with
  | make mode =>
    rw [move, List.length_append]
    omega
  | choose who mode =>
    rw [move]
    cases hs : b.switchers[who]? with
    | none =>
      exact Nat.le_of_eq (by rw [choose_of_none hs])
    | some s =>
      rcases choose_cases build modeText hs mode with
        ⟨_, _, h⟩ | ⟨_, _, _, h⟩ | ⟨_, _, _, h⟩ <;> rw [h] <;> simp
  | write origin => exact Nat.le_refl _

/-! ### Runs -/

theorem run_append (b : Board μ β) (moves more : List (Move μ)) :
    (b.run build modeText (moves ++ more)).1
      = ((b.run build modeText moves).1.run build modeText more).1 := by
  induction moves generalizing b with
  | nil => rfl
  | cons m rest ih => exact ih (b.move build modeText m).1

theorem faithful_run (hbuild : Constant build answer) (h : b.Faithful answer)
    (moves : List (Move μ)) : (b.run build modeText moves).1.Faithful answer := by
  induction moves generalizing b with
  | nil => exact h
  | cons m rest ih => exact ih (faithful_move hbuild h m)

theorem length_switchers_run_le (b : Board μ β) (moves : List (Move μ)) :
    b.switchers.length ≤ (b.run build modeText moves).1.switchers.length := by
  induction moves generalizing b with
  | nil => exact Nat.le_refl _
  | cons m rest ih => exact Nat.le_trans (length_switchers_move_le b m) (ih _)

/-- **A mode that is chosen after any run** publishes the answer for it, whatever was in the cell
before. -/
theorem run_choose (modeText : μ → String) (hbuild : Constant build answer)
    (h : b.Faithful answer) (hwho : who < b.switchers.length) (moves : List (Move μ)) (mode : μ) :
    let reached := (b.run build modeText (moves ++ [.choose who mode])).1
    reached.fallback = answer who mode ∧
      reached.switchers[who]?.map Switcher.mode = some mode := by
  intro reached
  have hreached : reached = ((b.run build modeText moves).1.choose build modeText who mode).1 :=
    run_append b moves [.choose who mode]
  have hlt : who < (b.run build modeText moves).1.switchers.length :=
    Nat.lt_of_lt_of_le hwho (length_switchers_run_le b moves)
  obtain ⟨cache, hswitchers, hfallback, -⟩ := choose_cases_of_constant modeText hbuild
    (faithful_run hbuild h moves) (List.getElem?_eq_getElem hlt) mode
  rw [hreached]
  refine ⟨hfallback, ?_⟩
  rw [hswitchers, List.getElem?_set_self hlt]
  rfl

/-! ### The standard switcher -/

theorem faithful_board (initial : Origin) (answer : Nat → DefaultMode → Origin) :
    (DefaultMode.board initial).Faithful answer := by
  intro who s hs mode origin hcached
  obtain rfl := List.mem_singleton.1 (List.mem_of_getElem? hs)
  cases hcached

/-- **What the standard switcher publishes is fixed when it is made.**  Let anything happen to the
cell and to the switcher afterwards.  Choosing a mode publishes the origin that was in the cell when
the switcher was made, time included, if it is of the kind of the mode, and else the default for the
mode; so the mode of its kind brings it back exactly.  From a choice on until somebody else writes
the cell, whatever is chosen in between, the origin in the cell is of the kind of the mode. -/
theorem run_standard (initial : Origin) (directory : Path) (ref : String)
    (moves : List (Move DefaultMode)) :
    let after (moves : List (Move DefaultMode)) : Board DefaultMode Unit :=
      ((DefaultMode.board initial).run (fun _ => DefaultMode.builder initial directory ref)
        DefaultMode.text moves).1
    (∀ mode, (after (moves ++ [.choose 0 mode])).fallback
        = if initial.kind = mode then initial else DefaultMode.fresh directory ref mode) ∧
      (after (moves ++ [.choose 0 initial.kind])).fallback = initial ∧
      ∀ mode modes,
        (after (moves ++ (mode :: modes).map (.choose 0))).switchers[0]?.map Switcher.mode
          = some (after (moves ++ (mode :: modes).map (.choose 0))).fallback.kind := by
  intro after
  have hbuild : Constant (fun _ => DefaultMode.builder initial directory ref)
      fun _ => DefaultMode.origin initial directory ref := fun _ _ _ => rfl
  have hfirst : 0 < (DefaultMode.board initial).switchers.length := Nat.zero_lt_one
  have hchoose := run_choose DefaultMode.text hbuild (faithful_board initial _) hfirst
  have hpublished : ∀ mode, (after (moves ++ [.choose 0 mode])).fallback
      = if initial.kind = mode then initial else DefaultMode.fresh directory ref mode := by
    intro mode
    exact (hchoose moves mode).1.trans (DefaultMode.origin_eq initial directory ref mode)
  refine ⟨hpublished, ?_, ?_⟩
  · rw [hpublished, if_pos rfl]
  · intro mode modes
    -- the last mode that is chosen decides
    obtain ⟨before, last, hlast⟩ : ∃ before last, mode :: modes = before ++ [last] :=
      ⟨_, _, (List.dropLast_concat_getLast (List.cons_ne_nil mode modes)).symm⟩
    have hmoves : moves ++ (mode :: modes).map (Move.choose 0)
        = (moves ++ before.map (.choose 0)) ++ [.choose 0 last] := by
      rw [hlast, List.map_append, List.append_assoc]
      rfl
    obtain ⟨hfallback, hmode⟩ := hchoose (moves ++ before.map (.choose 0)) last
    have hkind :
        (after ((moves ++ before.map (.choose 0)) ++ [.choose 0 last])).fallback.kind = last :=
      (congrArg Origin.kind hfallback).trans (DefaultMode.kind_origin initial directory ref last)
    rw [hmoves, hkind]
    exact hmode

/-- A reference with its time is brought back after the other mode and somebody else's write. -/
example : ((DefaultMode.board (.git "v1" (some "now"))).run
    (fun _ => DefaultMode.builder (.git "v1" (some "now")) ⟨[], ["libs"]⟩ "main") DefaultMode.text
      [.choose 0 .directory, .write (.git "other" none), .choose 0 .gitReference]).1.fallback
    = .git "v1" (some "now") := by decide

end Board

end LibraryCalls
