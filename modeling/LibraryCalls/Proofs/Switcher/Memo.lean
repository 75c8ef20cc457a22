import LibraryCalls.Proofs.Switcher.Board

/-!
# What switchers remember

Each switcher has the origin of a mode built once.  Whatever happens in between, choosing the mode
again publishes the origin that was built then, and a failure to build leaves no trace but in the
builder.

The invariant ties the record to the caches: what a switcher has in its cache for a mode is the
answer that the record has for it, and after that answer the record has no further question for the
same switcher and mode.  A move keeps it in each of its cases, a choice from the cache, a failed
one, a built one, a new switcher and a write by somebody else, and the invariant of a run follows by
induction on its moves.

Failures are recorded as well and bind nobody: a mode that could not be built is asked for again the
next time.

* `Board.Memoized`: the caches hold what has been built, and nothing has been asked for after that;
* `memoized_move`, `memoized_run`: every move keeps it so, and hence every run;
* `run_memoized`: what choosing a mode does after any run.
-/

namespace LibraryCalls.Board

variable {μ β ε : Type}

/-- A builder is not asked again for a mode of a switcher for which it has answered. -/
def Settled (earlier later : Asked μ ε) : Prop :=
  ∀ origin, earlier.answer = .ok origin → ¬ (later.who = earlier.who ∧ later.mode = earlier.mode)

variable [DecidableEq μ]

/-- The caches hold what has been built, for switchers that have been made, and nothing has been
asked for after it was built. -/
structure Memoized (b : Board μ (β × List (Asked μ ε))) : Prop where
  made : ∀ a ∈ b.record, a.who < b.switchers.length
  kept : ∀ who s, b.switchers[who]? = some s → ∀ mode origin,
    s.cache.get? mode = some origin ↔ ⟨who, mode, .ok origin⟩ ∈ b.record
  once : b.record.Pairwise Settled

variable {build : Nat → Builder μ β ε} {modeText : μ → String}
  {b : Board μ (β × List (Asked μ ε))} {who : Nat} {s : Switcher μ} {mode : μ}

theorem memoized_start (state : β) (cell : Origin) :
    Memoized (⟨[], (state, []), cell⟩ : Board μ (β × List (Asked μ ε))) where
  made := by simp [record]
  kept := by simp
  once := List.Pairwise.nil

/-! ### One move -/

theorem Memoized.not_built (h : b.Memoized) (hs : b.switchers[who]? = some s)
    (hc : s.cache.get? mode = none) (origin : Origin) : ⟨who, mode, .ok origin⟩ ∉ b.record := by
  intro hmem
  rw [← h.kept who s hs, hc] at hmem
  cases hmem

/-- What is not in the cache may be asked for. -/
theorem Memoized.once_append (h : b.Memoized) (hs : b.switchers[who]? = some s)
    (hc : s.cache.get? mode = none) (answer : Except ε Origin) :
    (b.record ++ [(⟨who, mode, answer⟩ : Asked μ ε)]).Pairwise Settled := by
  refine List.pairwise_append.2 ⟨h.once, List.pairwise_singleton _ _, ?_⟩
  intro a ha later hlater origin hanswer
  obtain rfl := List.mem_singleton.1 hlater
  rintro ⟨hwho, hmode⟩
  refine h.not_built hs hc origin ?_
  obtain ⟨who', mode', answer'⟩ := a
  cases hwho
  cases hmode
  cases hanswer
  exact ha

theorem Memoized.made_append (h : b.Memoized) (hs : b.switchers[who]? = some s)
    (answer : Except ε Origin) :
    ∀ a ∈ b.record ++ [⟨who, mode, answer⟩], a.who < b.switchers.length := by
  intro a ha
  rcases List.mem_append.1 ha with ha | ha
  · exact h.made a ha
  · obtain rfl := List.mem_singleton.1 ha
    exact (List.getElem?_eq_some_iff.1 hs).1

theorem memoized_make (h : b.Memoized) (mode : μ) :
    (b.move (recording build) modeText (.make mode)).1.Memoized where
  made a ha := by
    rw [move, List.length_append]
    exact Nat.lt_add_right 1 (h.made a ha)
  kept who s hs mode' origin := by
    rw [move] at hs
    rcases Nat.lt_trichotomy who b.switchers.length with hlt | heq | hgt
    · rw [List.getElem?_append_left hlt] at hs
      exact h.kept who s hs mode' origin
    · -- the new switcher: nothing is in its cache, and nothing has been built for it
      subst heq
      rw [List.getElem?_concat_length] at hs
      obtain rfl := Option.some.inj hs
      refine iff_of_false (fun hnone => by cases hnone) fun hmem => ?_
      exact Nat.lt_irrefl _ (h.made _ hmem)
    · rw [List.getElem?_eq_none (by rw [List.length_append]; exact hgt)] at hs
      cases hs
  once := h.once

/-- One switcher is replaced by another that has in its cache what has been built for it by now, and
nothing has been built for the others in between. -/
theorem Memoized.kept_set (h : b.Memoized) {s' : Switcher μ} {record' : List (Asked μ ε)}
    (hself : ∀ mode origin, s'.cache.get? mode = some origin ↔ ⟨who, mode, .ok origin⟩ ∈ record')
    (hothers : ∀ other, other ≠ who → ∀ mode origin,
      ⟨other, mode, .ok origin⟩ ∈ record' ↔ ⟨other, mode, .ok origin⟩ ∈ b.record) :
    ∀ other t, (b.switchers.set who s')[other]? = some t → ∀ mode origin,
      t.cache.get? mode = some origin ↔ ⟨other, mode, .ok origin⟩ ∈ record' := by
  intro other t ht mode origin
  by_cases hother : other = who
  · subst hother
    obtain ⟨hlt, hset⟩ := List.getElem?_eq_some_iff.1 ht
    rw [List.getElem_set_self] at hset
    subst hset
    exact hself mode origin
  · rw [List.getElem?_set_ne (Ne.symm hother)] at ht
    rw [hothers other hother]
    exact h.kept other t ht mode origin

/-- The origin was in the cache: only the mode of the switcher and the cell change. -/
theorem Memoized.of_cached (h : b.Memoized) (hs : b.switchers[who]? = some s) (mode : μ)
    (origin : Origin) :
    (⟨b.switchers.set who ⟨mode, s.cache⟩, b.builder, origin⟩ : Board μ _).Memoized where
  made a ha := by
    rw [List.length_set]
    exact h.made a ha
  kept := h.kept_set (h.kept who s hs) fun _ _ _ _ => Iff.rfl
  once := h.once

/-- The builder has failed: only the builder changes, and what is written down. -/
theorem Memoized.of_failed (h : b.Memoized) (hs : b.switchers[who]? = some s)
    (hc : s.cache.get? mode = none) {e : ε} (he : (build who mode b.builder.1).1 = .error e) :
    ({ b with builder := (recording build who mode b.builder).2 } : Board μ _).Memoized := by
  have hrecord : ({ b with builder := (recording build who mode b.builder).2 } : Board μ _).record
      = b.record ++ [⟨who, mode, .error e⟩] := by
    rw [← he]
    rfl
  refine ⟨?_, fun other t ht mode' origin' => ?_, ?_⟩
  · rw [hrecord]
    exact h.made_append hs _
  · rw [hrecord, List.mem_append, ← h.kept other t ht mode' origin']
    simp
  · rw [hrecord]
    exact h.once_append hs hc _

/-- The origin has been built: it is put into the cache of its switcher, and published. -/
theorem Memoized.of_built (h : b.Memoized) (hs : b.switchers[who]? = some s)
    (hc : s.cache.get? mode = none) {origin : Origin}
    (ho : (build who mode b.builder.1).1 = .ok origin) :
    (⟨b.switchers.set who ⟨mode, s.cache.set mode origin⟩, (recording build who mode b.builder).2,
      origin⟩ : Board μ _).Memoized := by
  have hrecord : (⟨b.switchers.set who ⟨mode, s.cache.set mode origin⟩,
      (recording build who mode b.builder).2, origin⟩ : Board μ _).record
      = b.record ++ [⟨who, mode, .ok origin⟩] := by
    rw [← ho]
    rfl
  refine ⟨?_, ?_, ?_⟩
  · rw [hrecord, List.length_set]
    exact h.made_append hs _
  · rw [hrecord]
    refine h.kept_set (fun mode' origin' => ?_) fun other hother mode' origin' => ?_
    · rw [List.mem_append, List.mem_singleton]
      by_cases hmode : mode' = mode
      · subst hmode
        rw [Assoc.get?_set_self]
        simp [h.not_built hs hc, eq_comm]
      · rw [Assoc.get?_set_of_ne _ _ hmode, h.kept who s hs mode' origin']
        simp [hmode]
    · simp [hother]
  · rw [hrecord]
    exact h.once_append hs hc _

theorem memoized_choose (h : b.Memoized) (who : Nat) (mode : μ) :
    (b.move (recording build) modeText (.choose who mode)).1.Memoized := by
  rw [move]
  cases hs : b.switchers[who]? with
  | none =>
    rw [choose_of_none hs]
    exact h
  | some s =>
    rcases choose_cases (recording build) modeText hs mode with
      ⟨origin, hc, hchoose⟩ | ⟨e, hc, he, hchoose⟩ | ⟨origin, hc, ho, hchoose⟩
    · rw [hchoose]
      exact h.of_cached hs mode origin
    · rw [hchoose]
      exact h.of_failed hs hc he
    · rw [hchoose]
      exact h.of_built hs hc ho

theorem memoized_move (h : b.Memoized) (m : Move μ) :
    (b.move (recording build) modeText m).1.Memoized := by
  cases m with
  | make mode => exact memoized_make h mode
  | choose who mode => exact memoized_choose h who mode
  | write origin => exact ⟨h.made, h.kept, h.once⟩

/-! ### Runs -/

theorem memoized_run (h : b.Memoized) (moves : List (Move μ)) :
    (b.run (recording build) modeText moves).1.Memoized := by
  induction moves generalizing b with
  | nil => exact h
  | cons m rest ih => exact ih (memoized_move h m)

/-- A switcher publishes what has been built for the mode chosen on it. -/
structure Published (after : Board μ (β × List (Asked μ ε))) (who : Nat) (mode : μ) : Prop where
  chosen : ∃ s, after.switchers[who]? = some s ∧ s.mode = mode
  built : ⟨who, mode, .ok after.fallback⟩ ∈ after.record
  only : ∀ origin, ⟨who, mode, .ok origin⟩ ∈ after.record → origin = after.fallback

/-- The switcher on which a mode has been chosen, with the origin of the mode in its cache. -/
theorem Memoized.published (h : b.Memoized) (hs : b.switchers[who]? = some s)
    (hmode : s.mode = mode) (hc : s.cache.get? mode = some b.fallback) : b.Published who mode where
  chosen := ⟨s, hs, hmode⟩
  built := (h.kept who s hs mode _).1 hc
  only origin ho := by
    rw [← h.kept who s hs, hc] at ho
    exact (Option.some.inj ho).symm

/-- **A mode chosen with success** is published, and nothing but its switcher and the cell changes
for the others. -/
theorem Memoized.of_choose_ok (h : b.Memoized) (hs : b.switchers[who]? = some s) {mode : μ}
    {events : List Event}
    (hok : (b.move (recording build) modeText (.choose who mode)).2 = .ok events) :
    events = [.fallbackSwitched (modeText mode)] ∧
      (b.move (recording build) modeText (.choose who mode)).1.Published who mode ∧
      ∀ other, other ≠ who →
        (b.move (recording build) modeText (.choose who mode)).1.switchers[other]?
          = b.switchers[other]? := by
  have hafter : (b.move (recording build) modeText (.choose who mode)).1.Memoized :=
    memoized_choose h who mode
  have hlt : who < b.switchers.length := (List.getElem?_eq_some_iff.1 hs).1
  rw [move] at hok hafter ⊢
  rcases choose_cases (recording build) modeText hs mode with
    ⟨origin, hc, hchoose⟩ | ⟨e, hc, he, hchoose⟩ | ⟨origin, hc, ho, hchoose⟩
  · rw [hchoose] at hok hafter ⊢
    refine ⟨(Except.ok.inj hok).symm, hafter.published (List.getElem?_set_self hlt) rfl hc,
      fun other hne => List.getElem?_set_ne (Ne.symm hne)⟩
  · rw [hchoose] at hok
    cases hok
  · rw [hchoose] at hok hafter ⊢
    exact ⟨(Except.ok.inj hok).symm, hafter.published (List.getElem?_set_self hlt) rfl
      (Assoc.get?_set_self _ _ _), fun other hne => List.getElem?_set_ne (Ne.symm hne)⟩

variable (build modeText) in
/-- **A mode cannot be chosen** exactly when it has not been built and its builder fails now.  That
leaves the switchers and the cell as they were, and reports nothing. -/
theorem Memoized.of_choose_error (h : b.Memoized) (hs : b.switchers[who]? = some s) (mode : μ)
    (e : ε) :
    ((b.move (recording build) modeText (.choose who mode)).2 = .error e ↔
        (∀ origin, ⟨who, mode, .ok origin⟩ ∉ b.record) ∧
          (build who mode b.builder.1).1 = .error e) ∧
      ((b.move (recording build) modeText (.choose who mode)).2 = .error e →
        (b.move (recording build) modeText (.choose who mode)).1.switchers = b.switchers ∧
          (b.move (recording build) modeText (.choose who mode)).1.fallback = b.fallback) := by
  have hasked : (recording build who mode b.builder).1 = (build who mode b.builder.1).1 := rfl
  rw [move]
  rcases choose_cases (recording build) modeText hs mode with
    ⟨origin, hc, hchoose⟩ | ⟨e', hc, he, hchoose⟩ | ⟨origin, hc, ho, hchoose⟩
  · rw [hchoose]
    refine ⟨iff_of_false (fun hok => by cases hok) fun hnot => ?_, fun hok => by cases hok⟩
    exact hnot.1 origin ((h.kept who s hs mode origin).1 hc)
  · rw [hchoose, ← hasked, he]
    refine ⟨?_, fun _ => ⟨rfl, rfl⟩⟩
    simp only [Except.error.injEq]
    exact (and_iff_right (h.not_built hs hc)).symm
  · rw [hchoose, ← hasked, ho]
    refine ⟨iff_of_false (fun hok => by cases hok) fun hnot => ?_, fun hok => by cases hok⟩
    cases hnot.2

/-- **What switchers remember, after any run.**  The builders are those given, with what they are
asked written down.  A builder is not asked again for a mode once it has answered for it, in the
whole run. Making a switcher asks nothing and publishes nothing.  A mode chosen with success is the
mode of its switcher, and the cell holds the one origin that was ever built for it there.  A mode
cannot be chosen exactly when it has not been built and its builder fails now; then all switchers
and the cell are as they were, and nothing is reported. -/
theorem run_memoized (build : Nat → Builder μ β ε) (modeText : μ → String) (state : β)
    (cell : Origin) (moves : List (Move μ)) :
    let result := (⟨[], (state, []), cell⟩ : Board μ _).run (recording build) modeText moves
    let reached := result.1
    (reached.forget, result.2) = (⟨[], state, cell⟩ : Board μ β).run build modeText moves ∧
      reached.record.Pairwise Settled ∧
      (∀ mode, reached.move (recording build) modeText (.make mode)
        = (⟨reached.switchers ++ [⟨mode, []⟩], reached.builder, reached.fallback⟩, .ok [])) ∧
      ∀ who s mode, reached.switchers[who]? = some s →
        let next := reached.move (recording build) modeText (.choose who mode)
        (∀ events, next.2 = .ok events → events = [.fallbackSwitched (modeText mode)] ∧
          next.1.Published who mode ∧
          ∀ other, other ≠ who → next.1.switchers[other]? = reached.switchers[other]?) ∧
        ∀ e, (next.2 = .error e ↔ (∀ origin, ⟨who, mode, .ok origin⟩ ∉ reached.record) ∧
            (build who mode reached.builder.1).1 = .error e) ∧
          (next.2 = .error e →
            next.1.switchers = reached.switchers ∧ next.1.fallback = reached.fallback ∧
            reported next.2 = []) := by
  have hreached : ((⟨[], (state, []), cell⟩ : Board μ _).run (recording build) modeText
      moves).1.Memoized := memoized_run (memoized_start state cell) moves
  refine ⟨run_recording _ moves, hreached.once, fun mode => rfl, fun who s mode hs => ⟨?_, ?_⟩⟩
  · exact fun events hok => hreached.of_choose_ok hs hok
  · intro e
    obtain ⟨hiff, hkept⟩ := hreached.of_choose_error build modeText hs mode e
    refine ⟨hiff, fun herror => ⟨(hkept herror).1, (hkept herror).2, ?_⟩⟩
    rw [herror]
    rfl

/-- A builder whose answers are written down beforehand, whatever it is asked for. -/
def scripted : Builder DefaultMode (List (Except String Origin)) String := fun _ script =>
  match script with
  | [] => (.error "nothing left", [])
  | answer :: rest => (answer, rest)

/-- Two switchers, a failure, somebody else's write, and a mode chosen again: the second switcher's
origin was built last, and the first one publishes the origin that was built for it before that. -/
theorem run_memoized_scripted :
    let script : List (Except String Origin) :=
      [.error "offline", .ok (.git "first" none), .ok (.git "second" none)]
    let moves : List (Move DefaultMode) := [.make .directory, .make .directory,
      .choose 0 .gitReference, .choose 0 .gitReference, .write (.git "other" none),
      .choose 1 .gitReference]
    let start : Board DefaultMode (List (Except String Origin) × List (Asked DefaultMode String)) :=
      ⟨[], (script, []), .git "initial" none⟩
    let reached := (start.run (recording fun _ => scripted) DefaultMode.text moves).1
    let next :=
      reached.move (recording fun _ => scripted) DefaultMode.text (.choose 0 .gitReference)
    next.2 = .ok [.fallbackSwitched "DefaultInfoSwitch.GIT_REFERENCE"] ∧
      next.1.fallback = .git "first" none ∧ reached.fallback = .git "second" none ∧
      next.1.Published 0 .gitReference := by
  intro script moves start reached next
  have hs : reached.switchers[0]?
      = some ⟨.gitReference, [(.gitReference, .git "first" none)]⟩ := rfl
  have hok : next.2 = .ok [.fallbackSwitched "DefaultInfoSwitch.GIT_REFERENCE"] := rfl
  obtain ⟨-, -, -, hchoose⟩ :=
    run_memoized (fun _ => scripted) DefaultMode.text script (.git "initial" none) moves
  exact ⟨hok, rfl, rfl, ((hchoose 0 _ .gitReference hs).1 _ hok).2.1⟩

end LibraryCalls.Board
