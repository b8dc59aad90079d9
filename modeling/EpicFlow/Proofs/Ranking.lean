import Mathlib.Order.Basic

/-!
# Ranked listings

The engine lists things in an order and leaves ties as it found them: the store lists patterns
by confidence and then by name, a search lists them by score, both with a stable sort. This
module says what such a listing is without the sort. `Ranked le xs ys` holds when `ys` lists
the elements of `xs`, never puts an element before one that `le` places strictly ahead of it,
and keeps the elements that `le` ties in the order they have in `xs`.

For an order under which each element may stand before itself, at most one listing is ranked
(`Ranked.unique`), so a ranked listing is the answer and not an answer. Merge sort by a total
preorder gives it (`ranked_mergeSort`), and only the order among the elements listed matters
(`Ranked.of_agree`, `mergeSort_agree`), so an order that is total only on the elements at hand
is enough.

Main statements:

* `Ranked.unique`: two ranked listings of one list are equal.
* `ranked_mergeSort`: merge sort by a total preorder ranks.
* `Ranked.of_agree`, `mergeSort_agree`: orders that agree on the elements rank alike and sort
  alike.
-/

set_option autoImplicit false

namespace EpicFlow

variable {α : Type}

/-- `a` and `b` tie under `le`: each may stand before the other. -/
def Ties (le : α → α → Prop) (a b : α) : Prop := le a b ∧ le b a

instance (le : α → α → Prop) [DecidableRel le] (a : α) : DecidablePred (Ties le a) :=
  fun b => inferInstanceAs (Decidable (le a b ∧ le b a))

/-- `ys` lists `xs` ranked by `le`, where `le a b` says that `a` may stand before `b`: the same
elements, none after one it may not follow, and the elements tied with an element of `xs` in the
order they have in `xs`. -/
structure Ranked (le : α → α → Prop) [DecidableRel le] (xs ys : List α) : Prop where
  perm : ys.Perm xs
  sorted : ys.Pairwise le
  stable : ∀ x ∈ xs, ys.filter (fun y => decide (Ties le x y)) = xs.filter fun y => decide (Ties le x y)

section

variable {le : α → α → Prop} [DecidableRel le]

/-- Two lists of the same elements, both ordered by `le`, that list the elements tied with each
element in the same order, are equal. By induction on the first list: the heads of the two lists
tie, so each heads the other's list of elements tied with it, and they are the same. -/
theorem eq_of_sorted_of_ties : ∀ {ys zs : List α}, ys.Pairwise le → zs.Pairwise le → ys.Perm zs →
    (∀ x ∈ ys, le x x) →
    (∀ x ∈ ys, ys.filter (fun y => decide (Ties le x y)) = zs.filter fun y => decide (Ties le x y)) →
    ys = zs
  | [], _, _, _, hp, _, _ => hp.nil_eq
  | _ :: _, [], _, _, hp, _, _ => absurd hp.length_eq (by simp)
  | a :: ys, b :: zs, hy, hz, hp, hrefl, ht => by
    have hb : b ∈ a :: ys := hp.symm.subset List.mem_cons_self
    have ha : a ∈ b :: zs := hp.subset List.mem_cons_self
    have hab : le a b := by
      rcases List.mem_cons.1 hb with rfl | hb
      · exact hrefl _ List.mem_cons_self
      · exact List.rel_of_pairwise_cons hy hb
    have hba : le b a := by
      rcases List.mem_cons.1 ha with rfl | ha
      · exact hrefl _ List.mem_cons_self
      · exact List.rel_of_pairwise_cons hz ha
    -- the elements tied with `a`: headed by `a` in the first list, by `b` in the second
    have hhead := ht a List.mem_cons_self
    rw [List.filter_cons_of_pos (by simp [Ties, hrefl a List.mem_cons_self]),
      List.filter_cons_of_pos (by simp [Ties, hab, hba])] at hhead
    obtain ⟨rfl, -⟩ := List.cons.inj hhead
    have htail : ∀ x ∈ ys, ys.filter (fun y => decide (Ties le x y)) =
        zs.filter fun y => decide (Ties le x y) := by
      intro x hx
      have h := ht x (List.mem_cons_of_mem _ hx)
      by_cases hxa : Ties le x a
      · rw [List.filter_cons_of_pos (by simpa using hxa),
          List.filter_cons_of_pos (by simpa using hxa)] at h
        exact List.cons.inj h |>.2
      · rwa [List.filter_cons_of_neg (by simpa using hxa),
          List.filter_cons_of_neg (by simpa using hxa)] at h
    rw [eq_of_sorted_of_ties hy.of_cons hz.of_cons hp.cons_inv
      (fun x hx => hrefl x (List.mem_cons_of_mem _ hx)) htail]

variable {xs ys zs : List α}

/-- Under an order in which each element of `xs` may stand before itself, `xs` has at most one
ranked listing. -/
theorem Ranked.unique (hrefl : ∀ x ∈ xs, le x x) (hy : Ranked le xs ys) (hz : Ranked le xs zs) :
    ys = zs :=
  eq_of_sorted_of_ties hy.sorted hz.sorted (hy.perm.trans hz.perm.symm)
    (fun x hx => hrefl x (hy.perm.subset hx))
    fun x hx => (hy.stable x (hy.perm.subset hx)).trans (hz.stable x (hy.perm.subset hx)).symm

/-- Orders that agree on the elements of `xs` rank its listings alike. -/
theorem Ranked.of_agree {le' : α → α → Prop} [DecidableRel le']
    (h : ∀ a ∈ xs, ∀ b ∈ xs, le a b ↔ le' a b) (hr : Ranked le' xs ys) : Ranked le xs ys where
  perm := hr.perm
  sorted := hr.sorted.imp_of_mem fun ha hb hab => (h _ (hr.perm.subset ha) _ (hr.perm.subset hb)).2 hab
  stable x hx := by
    -- on the elements at hand, ties under the two orders are the same
    have hties : ∀ y ∈ xs, decide (Ties le x y) = decide (Ties le' x y) := fun y hy =>
      decide_eq_decide.2 (and_congr (h x hx y hy) (h y hy x hx))
    rw [List.filter_congr fun y hy => hties y (hr.perm.subset hy), List.filter_congr hties]
    exact hr.stable x hx

end

/-- Merge sort looks only at the order among the elements it sorts. -/
theorem mergeSort_agree {le le' : α → α → Bool} {xs : List α} (h : ∀ a ∈ xs, ∀ b ∈ xs, le a b = le' a b) :
    xs.mergeSort le = xs.mergeSort le' := by
  simpa using List.map_mergeSort (f := id) h

/-- Merge sort by a total preorder ranks: the sorted list is a permutation, it is ordered, and
the elements tied with any element form a list ordered by `le`, which merge sort keeps as a
sublist; having as many elements as those of the sorted list, it is all of them. -/
theorem ranked_mergeSort {le : α → α → Prop} [DecidableRel le] (trans : ∀ a b c, le a b → le b c → le a c)
    (total : ∀ a b, le a b ∨ le b a) (xs : List α) :
    Ranked le xs (xs.mergeSort fun a b => decide (le a b)) := by
  have htrans : ∀ a b c, decide (le a b) = true → decide (le b c) = true → decide (le a c) = true := by
    simpa using trans
  have htotal : ∀ a b, (decide (le a b) || decide (le b a)) = true := by simpa using total
  refine ⟨List.mergeSort_perm xs _, by simpa using List.pairwise_mergeSort htrans htotal xs, fun x _ => ?_⟩
  have hsorted : (xs.filter fun y => decide (Ties le x y)).Pairwise fun a b => decide (le a b) = true := by
    refine List.pairwise_of_forall_mem_list fun a ha b hb => ?_
    simp only [List.mem_filter, decide_eq_true_eq] at ha hb
    simpa using trans a x b ha.2.2 hb.2.1
  have hsub := (List.sublist_mergeSort htrans htotal hsorted List.filter_sublist).filter
    fun y => decide (Ties le x y)
  rw [List.filter_filter, List.filter_congr (fun y _ => Bool.and_self _)] at hsub
  have hlen := ((List.mergeSort_perm xs fun a b => decide (le a b)).filter
    fun y => decide (Ties le x y)).length_eq
  exact (hsub.eq_of_length hlen.symm).symm

end EpicFlow
