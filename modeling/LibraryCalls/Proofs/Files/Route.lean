import LibraryCalls.Proofs.Files.Walk

/-!
# Routes

Names lead from a place to another one, and `..` among them leads back up.  What is left of them
when every step down that is taken back is struck out is a route: so many steps up first, and then
names that lead down.  A walk that gets through ends where its route leads, whatever there is on the
way, so that a route says without a look at any files where a row of names can end.

Names can leave the place where they start only by the steps up of their route, and a route leads to
a child of every place exactly if it is one step down.  At the root a step up leads nowhere, which
is why a route with steps up may still end at a child of some places.

The proof that a walk ends where its route leads goes along the names, with the route of those
behind growing by one name at a time; a step up shortens the names of the route or, if there are
none, lengthens its way up.  Nothing has to be known of the tree, because a walk that gets through
has met a directory at each step.

For the converse, a route with steps up is tried from two places that have different names all the
way, and it cannot be a child of both.

* `Route.ofNames`: the route of a row of names;
* `Route.place`: where a route leads from a place;
* `FileTree.eq_place_of_walkFrom`: a walk ends where its route leads;
* `Route.place_child_iff`: the routes that lead to a child wherever they start.
-/

namespace LibraryCalls

/-- So many steps up, and then down along names. -/
structure Route where
  up : Nat := 0
  down : List String := []
  deriving DecidableEq, Repr

namespace Route

variable {r : Route} {here : Place}

def step (r : Route) (name : String) : Route :=
  if name = ".." then
    if r.down = [] then { r with up := r.up + 1 } else { r with down := r.down.dropLast }
  else { r with down := r.down ++ [name] }

def ofNames (names : List String) : Route :=
  names.foldl step {}

/-- The place to which a route leads; above the root there is only the root. -/
def place (r : Route) (here : Place) : Place :=
  here.take (here.length - r.up) ++ r.down

theorem place_step_up : (r.step "..").place here = (r.place here).dropLast := by
  rw [step, if_pos rfl]
  split
  · next hdown =>
    rw [place, place, hdown, List.append_nil, List.append_nil, List.dropLast_eq_take,
      List.take_take, List.length_take]
    have hup : here.length - (r.up + 1)
        = min (min (here.length - r.up) here.length - 1) (here.length - r.up) := by omega
    exact congrArg here.take hup
  · next hdown => rw [place, place, List.dropLast_append_of_ne_nil hdown]

theorem place_step_down {name : String} (h : name ≠ "..") :
    (r.step name).place here = r.place here ++ [name] := by
  rw [step, if_neg h, place, place, List.append_assoc]

end Route

variable {t : FileTree} {here place : Place} {names : List String}

/-- The induction is on the names, and the route of those that are behind grows with it. -/
theorem FileTree.eq_place_foldl_of_walkFrom {r : Route}
    (h : t.walkFrom (r.place here) names = .ok place) :
    place = (names.foldl Route.step r).place here := by
  induction names generalizing r with
  | nil => exact (Except.ok.inj h).symm
  | cons name rest ih =>
    rw [walkFrom] at h
    rw [List.foldl_cons]
    split at h
    · cases h
    · cases h
    · split at h
      · next hup =>
        subst hup
        rw [← Route.place_step_up] at h
        exact ih h
      · next hdown =>
        split at h
        · cases h
        · split at h
          · cases h
          · rw [← Route.place_step_down hdown] at h
            exact ih h

/-- **A walk ends where its route leads.** -/
theorem FileTree.eq_place_of_walkFrom (h : t.walkFrom here names = .ok place) :
    place = (Route.ofNames names).place here := by
  have hstart : (Route.place {} here) = here := by
    rw [Route.place, Nat.sub_zero, List.take_length, List.append_nil]
  refine FileTree.eq_place_foldl_of_walkFrom (t := t) (r := {}) ?_
  rw [hstart]
  exact h

/-- **A route leads to a child wherever it starts** exactly if it is one step down.  One with steps
up is tried at two places that have different names all the way. -/
theorem Route.place_child_iff {r : Route} :
    (∀ here, ∃ child, r.place here = here ++ [child]) ↔ ∃ child, r = ⟨0, [child]⟩ := by
  constructor
  · intro h
    have hdown : ∀ name : String, ∃ child, r.down = List.replicate r.up name ++ [child] := by
      intro name
      obtain ⟨child, hchild⟩ := h (List.replicate r.up name)
      rw [place, List.length_replicate, Nat.sub_self, List.take_zero, List.nil_append] at hchild
      exact ⟨child, hchild⟩
    obtain ⟨up, down⟩ := r
    obtain ⟨child, hchild⟩ := hdown "a"
    obtain ⟨other, hother⟩ := hdown "b"
    cases up with
    | zero => exact ⟨child, congrArg (Route.mk 0) hchild⟩
    | succ n =>
      rw [hchild, List.replicate_succ, List.replicate_succ] at hother
      exact absurd (List.cons.inj hother).1 (by decide)
  · rintro ⟨child, rfl⟩ here
    exact ⟨child, by rw [place, Nat.sub_zero, List.take_length]⟩

end LibraryCalls
