import LibraryCalls.Proofs.Assoc
import LibraryCalls.Proofs.Host.Record
import Mathlib.Data.Finset.Card
import Mathlib.Order.Monotone.Basic

/-!
# The depth that a host needs

Producers that start each other without an end are told from the others by the depth at which they
are cut off.  A host with `n` results needs no more than `n` levels below a producer: the fragments
whose producers settle at a depth are more at every greater depth, until they are all that ever
settle.

For each depth there is the finite set of the fragments of the host whose producers settle at that
depth, and these sets increase with the depth.  Once two of them in a row are equal, all later ones
are; and as long as they are not, each has at least one element more.  With `n` results there are at
most `n` elements, so that after `n` steps nothing new can come.

It follows that the depth a host has by default is no restriction: whatever is cut off there would
have been cut off at any other depth as well.

* `Producer.Settles`, `Producer.settled`: the fragments whose producers are not cut off at a depth;
* `Producer.settles_of_length_le`: no fragment settles for the first time below the `n`-th level;
* `Producer.produceWithin_of_length_lt`, `collect_of_length_lt`: more than `n` levels are enough.
-/

namespace LibraryCalls

namespace Producer

open Host

variable {host : Host} {depth within : Nat} {code : String} {p : Producer}

/-- A fragment settles at a depth if it yields a producer that is not cut off there. -/
def Settles (host : Host) (depth : Nat) (code : String) : Prop :=
  ∃ p, host.results.get? code = some (.producer p) ∧
    (produceWithin host depth p).outcome ≠ .error .tooDeep

theorem Settles.of_le (hle : depth ≤ within) (h : Settles host depth code) :
    Settles host within code := by
  obtain ⟨p, hp, hrun⟩ := h
  rw [← produceWithin_of_le hle hrun] at hrun
  exact ⟨p, hp, hrun⟩

open Classical in
noncomputable def settled (host : Host) (depth : Nat) : Finset String :=
  host.results.keys.toFinset.filter (Settles host depth)

open Classical in
theorem mem_settled : code ∈ settled host depth ↔ Settles host depth code := by
  rw [settled, Finset.mem_filter, List.mem_toFinset, and_iff_right_iff_imp]
  rintro ⟨p, hp, -⟩
  exact List.mem_map_of_mem (Assoc.mem_of_get? hp)

open Classical in
theorem card_settled_le (host : Host) (depth : Nat) :
    (settled host depth).card ≤ host.results.length := by
  calc (settled host depth).card ≤ host.results.keys.toFinset.card := Finset.card_filter_le _ _
    _ ≤ host.results.keys.length := List.toFinset_card_le _
    _ = host.results.length := List.length_map _

theorem settled_subset (hle : depth ≤ within) : settled host depth ⊆ settled host within :=
  fun _ hcode => mem_settled.2 ((mem_settled.1 hcode).of_le hle)

/-- A producer needs one level more than the fragments that settle. -/
theorem produceWithin_succ_of_settles (hle : depth ≤ within)
    (hsettles : ∀ code, Settles host within code → Settles host depth code)
    (h : (produceWithin host (within + 1) p).outcome ≠ .error .tooDeep) :
    produceWithin host (depth + 1) p = produceWithin host (within + 1) p := by
  cases p with
  | ready d => rw [produceWithin, produceWithin]
  | custom ds => rw [produceWithin, produceWithin]
  | resolving init codes =>
    refine produceWithin_resolving_congr (fun code q hq hrun => ?_) h
    obtain ⟨q', hq', hrun'⟩ := hsettles code ⟨q, hq, hrun⟩
    obtain rfl : q' = q := by simpa [hq] using hq'.symm
    exact (produceWithin_of_le hle hrun').symm

/-- **Once no further fragment settles, none does at any greater depth.** -/
theorem settled_stable (h : settled host depth = settled host (depth + 1)) :
    settled host (depth + 1) = settled host (depth + 2) := by
  refine Finset.Subset.antisymm (settled_subset (Nat.le_succ _)) fun code hcode => ?_
  obtain ⟨p, hp, hrun⟩ := mem_settled.1 hcode
  have hsettles : ∀ code, Settles host (depth + 1) code → Settles host depth code := by
    intro code hcode
    rw [← mem_settled, h]
    exact mem_settled.2 hcode
  rw [← produceWithin_succ_of_settles (Nat.le_succ depth) hsettles hrun] at hrun
  exact mem_settled.2 ⟨p, hp, hrun⟩

/-- **Every fragment that settles does so within as many levels as there are results.**  The number
of settled fragments grows with every level until it stays the same, and there are no more of them
than results. -/
theorem settles_of_length_le (hle : host.results.length ≤ depth) (h : Settles host within code) :
    Settles host depth code := by
  have hmono : Monotone fun d => (settled host d).card :=
    fun _ _ hd => Finset.card_le_card (settled_subset hd)
  have hstable : ∀ d, (settled host d).card = (settled host (d + 1)).card →
      (settled host (d + 1)).card = (settled host (d + 2)).card := by
    intro d hd
    rw [settled_stable (Finset.eq_of_subset_of_card_le (settled_subset (Nat.le_succ d)) hd.ge)]
  have hcard : (settled host (max depth within)).card = (settled host depth).card := by
    rw [Nat.stabilises_of_monotone hmono (card_settled_le host) hstable
      (hle.trans (le_max_left ..)),
      Nat.stabilises_of_monotone hmono (card_settled_le host) hstable hle]
  rw [← mem_settled,
    Finset.eq_of_subset_of_card_le (settled_subset (le_max_left depth within)) hcard.le]
  exact mem_settled.2 (h.of_le (le_max_right depth within))

/-- **More levels than there are results are enough** for every run that is not cut off at some
depth. -/
theorem produceWithin_of_length_lt (hlt : host.results.length < depth)
    (h : (produceWithin host within p).outcome ≠ .error .tooDeep) :
    produceWithin host depth p = produceWithin host within p := by
  obtain hlt' | hle := Nat.lt_or_ge depth within
  · obtain ⟨d, rfl⟩ : ∃ d, depth = d + 1 := ⟨depth - 1, by omega⟩
    obtain ⟨w, rfl⟩ : ∃ w, within = w + 1 := ⟨within - 1, by omega⟩
    exact produceWithin_succ_of_settles (by omega)
      (fun code hcode => settles_of_length_le (Nat.le_of_lt_succ hlt) hcode) h
  · exact produceWithin_of_le hle h

end Producer

/-- A host that lets producers start each other more levels deep than it has results does not cut
off a collection that it would not cut off at some other depth. -/
theorem collect_of_length_lt {host : Host} (hlt : host.results.length < host.depth) {within : Nat}
    {producers : List Producer}
    (h : (collect (some { host with depth := within }) producers).outcome ≠ .error .tooDeep) :
    collect (some host) producers = collect (some { host with depth := within }) producers :=
  collect_congr_depth (fun _ hp => Producer.produceWithin_of_length_lt hlt hp) h

end LibraryCalls
