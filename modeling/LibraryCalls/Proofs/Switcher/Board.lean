import LibraryCalls.Switcher

/-!
# Switchers around one cell

Any number of switchers publish in one cell, which others write as well.  A run is a row of moves: a
switcher is made, a mode is chosen on one of them, or somebody else writes the cell.  The builders
may share a state, fail, and answer differently each time.

A board is the cell, the switchers with their caches, and the state of the builders, and a move
changes it and may report something.  Moves are arbitrary: nothing is assumed about who writes the
cell, in which order modes are chosen, or whether a builder answers the same way twice.

To say that something was not asked, questions have to be recorded.  The recording builders do this
and answer as the given ones do, and a run with them is the run without them when the record is
forgotten, so that what is proved of recorded runs holds of all.

* `Board`, `Board.Move`, `Board.run`: the switchers, what can happen to them, and a run;
* `Switcher.setMode_cases`: choosing a mode finds its origin in the cache, or has it built, or
  fails;
* `Board.choose_cases`: the same on a board;
* `Asked`, `recording`: builders that write down what they are asked and what they answer;
* `run_recording`: writing it down changes nothing.
-/

namespace LibraryCalls

variable {μ β ε : Type}

/-- Switchers that publish in one cell, in the order in which they were made, with the state of
their builders. -/
structure Board (μ β : Type) where
  switchers : List (Switcher μ)
  builder : β
  fallback : Origin

/-- What can happen around a cell. -/
inductive Board.Move (μ : Type) where
  /-- A switcher is made. -/
  | make (mode : μ)
  /-- A mode is chosen on a switcher; switchers are counted from zero. -/
  | choose (who : Nat) (mode : μ)
  /-- Somebody else writes the cell. -/
  | write (origin : Origin)

/-! ### Choosing a mode on one switcher -/

section

variable [DecidableEq μ]

/-- **Choosing a mode**: its origin is in the cache, or the builder fails, or it is built. -/
theorem Switcher.setMode_cases (build : Builder μ β ε) (modeText : μ → String) (mode : μ)
    (s : Switching μ β) :
    (∃ origin, s.switcher.cache.get? mode = some origin ∧
        setMode build modeText mode s
          = (⟨⟨mode, s.switcher.cache⟩, s.builder, origin⟩,
              .ok (.fallbackSwitched (modeText mode)))) ∨
      (∃ e, s.switcher.cache.get? mode = none ∧ (build mode s.builder).1 = .error e ∧
        setMode build modeText mode s
          = (⟨s.switcher, (build mode s.builder).2, s.fallback⟩, .error e)) ∨
      (∃ origin, s.switcher.cache.get? mode = none ∧ (build mode s.builder).1 = .ok origin ∧
        setMode build modeText mode s
          = (⟨⟨mode, s.switcher.cache.set mode origin⟩, (build mode s.builder).2, origin⟩,
              .ok (.fallbackSwitched (modeText mode)))) := by
  rw [setMode, originOf]
  cases hc : s.switcher.cache.get? mode with
  | some origin => exact .inl ⟨origin, rfl, rfl⟩
  | none =>
    cases build mode s.builder with
    | mk answer builder =>
      cases answer with
      | error e => exact .inr (.inl ⟨e, rfl, rfl, rfl⟩)
      | ok origin => exact .inr (.inr ⟨origin, rfl, rfl, rfl⟩)

end

namespace Board

/-! ### Moves and runs -/

section

variable [DecidableEq μ] (build : Nat → Builder μ β ε) (modeText : μ → String)

/-- Choose a mode on a switcher, if it has been made: the switcher sees the builders and the cell as
the moves before have left them. -/
def choose (who : Nat) (mode : μ) (b : Board μ β) : Board μ β × Except ε (List Event) :=
  match b.switchers[who]? with
  | none => (b, .ok [])
  | some s =>
    match Switcher.setMode (build who) modeText mode ⟨s, b.builder, b.fallback⟩ with
    | (after, result) =>
      (⟨b.switchers.set who after.switcher, after.builder, after.fallback⟩, result.map ([·]))

/-- The board after a move, and what is reported or why the move fails. -/
def move (b : Board μ β) : Move μ → Board μ β × Except ε (List Event)
  | .make mode => ({ b with switchers := b.switchers ++ [{ mode }] }, .ok [])
  | .choose who mode => b.choose build modeText who mode
  | .write origin => ({ b with fallback := origin }, .ok [])

/-- What a move reports; a failure reports nothing. -/
def reported (result : Except ε (List Event)) : List Event :=
  result.toOption.getD []

/-- The board after a row of moves, and all that is reported on the way.  A failure does not end the
run. -/
def run (b : Board μ β) : List (Move μ) → Board μ β × List Event
  | [] => (b, [])
  | m :: rest =>
    ((run (b.move build modeText m).1 rest).1,
      reported (b.move build modeText m).2 ++ (run (b.move build modeText m).1 rest).2)

/-- **Choosing a mode on a board.**  A failure leaves all switchers and the cell as they were. -/
theorem choose_cases {b : Board μ β} {who : Nat} {s : Switcher μ} (hs : b.switchers[who]? = some s)
    (mode : μ) :
    (∃ origin, s.cache.get? mode = some origin ∧
        b.choose build modeText who mode
          = (⟨b.switchers.set who ⟨mode, s.cache⟩, b.builder, origin⟩,
              .ok [.fallbackSwitched (modeText mode)])) ∨
      (∃ e, s.cache.get? mode = none ∧ (build who mode b.builder).1 = .error e ∧
        b.choose build modeText who mode
          = ({ b with builder := (build who mode b.builder).2 }, .error e)) ∨
      (∃ origin, s.cache.get? mode = none ∧ (build who mode b.builder).1 = .ok origin ∧
        b.choose build modeText who mode
          = (⟨b.switchers.set who ⟨mode, s.cache.set mode origin⟩, (build who mode b.builder).2,
              origin⟩, .ok [.fallbackSwitched (modeText mode)])) := by
  rw [choose, hs]
  rcases Switcher.setMode_cases (build who) modeText mode ⟨s, b.builder, b.fallback⟩ with
    ⟨origin, hc, h⟩ | ⟨e, hc, he, h⟩ | ⟨origin, hc, ho, h⟩
  · exact .inl ⟨origin, hc, by simp only [h]; rfl⟩
  · refine .inr (.inl ⟨e, hc, he, ?_⟩)
    have hself : b.switchers.set who s = b.switchers := by
      obtain ⟨hlt, rfl⟩ := List.getElem?_eq_some_iff.1 hs
      exact List.set_getElem_self hlt
    simp only [h, hself]
    rfl
  · exact .inr (.inr ⟨origin, hc, ho, by simp only [h]; rfl⟩)

variable {build modeText}

theorem choose_of_none {b : Board μ β} {who : Nat} (hs : b.switchers[who]? = none) (mode : μ) :
    b.choose build modeText who mode = (b, .ok []) := by
  rw [choose, hs]

end

end Board

/-! ### What builders are asked -/

/-- Something a builder was asked, and its answer. -/
structure Asked (μ ε : Type) where
  who : Nat
  mode : μ
  answer : Except ε Origin

/-- Builders that behave as the given ones, and write down what they are asked. -/
def recording (build : Nat → Builder μ β ε) : Nat → Builder μ (β × List (Asked μ ε)) ε :=
  fun who mode state =>
    match build who mode state.1 with
    | (answer, builder) => (answer, builder, state.2 ++ [⟨who, mode, answer⟩])

namespace Board

def record (b : Board μ (β × List (Asked μ ε))) : List (Asked μ ε) :=
  b.builder.2

/-- The board without what has been written down. -/
def forget (b : Board μ (β × List (Asked μ ε))) : Board μ β :=
  ⟨b.switchers, b.builder.1, b.fallback⟩

variable [DecidableEq μ] {build : Nat → Builder μ β ε} {modeText : μ → String}

/-- One move, with and without writing down. -/
theorem move_recording (b : Board μ (β × List (Asked μ ε))) (m : Move μ) :
    ((b.move (recording build) modeText m).1.forget, (b.move (recording build) modeText m).2)
      = b.forget.move build modeText m := by
  cases m with
  | make mode => rfl
  | write origin => rfl
  | choose who mode =>
    rw [move, move, choose, choose, show b.forget.switchers = b.switchers from rfl]
    cases b.switchers[who]? with
    | none => rfl
    | some s =>
      simp only [Switcher.setMode, Switcher.originOf, recording, forget]
      cases s.cache.get? mode with
      | some origin => rfl
      | none =>
        cases build who mode b.builder.1 with
        | mk answer builder => cases answer <;> rfl

/-- **Writing down what is asked changes nothing** in a run. -/
theorem run_recording (b : Board μ (β × List (Asked μ ε))) (moves : List (Move μ)) :
    ((b.run (recording build) modeText moves).1.forget, (b.run (recording build) modeText moves).2)
      = b.forget.run build modeText moves := by
  induction moves generalizing b with
  | nil => rfl
  | cons m rest ih =>
    rw [run, run, ← move_recording, ← ih]

end Board

end LibraryCalls
