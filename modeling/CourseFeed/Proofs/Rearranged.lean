import Mathlib.Data.List.Count
import Mathlib.Order.Lattice

/-!
# Lists that differ in the order of their keys

Two lists of elements with keys are rearrangements of each other if, key by key, the same elements
stand in them in the same order. This is what a stable sort leaves as it is.

* **`Rearranged.perm`** — rearrangements are permutations; exchanging neighbours with different
  keys is one (**`Rearranged.exchange`**).
* **`Rearranged.eq_of_pairwise`** — the order of the keys is all that they differ in: two
  rearrangements in which the keys ascend are equal.
* **`Rearranged.eq_mergeSort`** — so a rearrangement in which the keys ascend is the sorted list.
-/

namespace CourseFeed

/-- Two lists are permutations of each other that keep the order of elements with the same key. -/
def Rearranged {α κ : Type} [DecidableEq κ] (key : α → κ) (l l' : List α) : Prop :=
  ∀ k, (l.filter fun a => key a = k) = l'.filter fun a => key a = k

namespace Rearranged

variable {α κ : Type} {key : α → κ} {l l' : List α}

/-- **Rearrangements are permutations.** -/
theorem perm [DecidableEq κ] (h : Rearranged key l l') : l.Perm l' := by
  classical
  rw [List.perm_iff_count]
  intro a
  -- an element is as often in a list as among the elements with its key
  have hcount := congrArg (List.count a) (h (key a))
  rw [List.count_filter (by simp), List.count_filter (by simp)] at hcount
  exact hcount

/-- Neighbours with different keys may be exchanged. -/
theorem exchange [DecidableEq κ] (above below : List α) {a b : α} (h : key a ≠ key b) :
    Rearranged key (above ++ a :: b :: below) (above ++ b :: a :: below) := by
  intro k
  rw [List.filter_append, List.filter_append]
  refine congrArg _ ?_
  by_cases ha : key a = k
  · have hb : ¬ key b = k := fun hb => h (ha.trans hb.symm)
    simp [ha, hb]
  · simp [List.filter_cons, ha]

/-- **Two rearrangements in which the keys ascend are equal.** -/
theorem eq_of_pairwise [LinearOrder κ] (h : Rearranged key l l')
    (hl : l.Pairwise fun a b => key a ≤ key b) (hl' : l'.Pairwise fun a b => key a ≤ key b) :
    l = l' := by
  induction l generalizing l' with
  | nil => exact h.perm.nil_eq
  | cons a rest ih =>
      cases l' with
      | nil => exact h.perm.eq_nil
      | cons a' rest' =>
          obtain ⟨hleast, hrest⟩ := List.pairwise_cons.mp hl
          obtain ⟨hleast', hrest'⟩ := List.pairwise_cons.mp hl'
          have hle : ∀ b ∈ a :: rest, key a ≤ key b := by
            intro b hb
            rcases List.mem_cons.mp hb with rfl | hmem
            · exact le_refl _
            · exact hleast b hmem
          have hle' : ∀ b ∈ a' :: rest', key a' ≤ key b := by
            intro b hb
            rcases List.mem_cons.mp hb with rfl | hmem
            · exact le_refl _
            · exact hleast' b hmem
          -- both lists start with their least key, so with the same one
          have hkey : key a = key a' :=
            le_antisymm (hle a' (h.perm.mem_iff.mpr List.mem_cons_self))
              (hle' a (h.perm.mem_iff.mp List.mem_cons_self))
          have hfront := h (key a)
          rw [List.filter_cons_of_pos (by simp), List.filter_cons_of_pos (by simp [hkey])] at hfront
          obtain ⟨rfl, hsame⟩ := List.cons.inj hfront
          refine congrArg (a :: ·) (ih ?_ hrest hrest')
          intro k
          by_cases hk : key a = k
          · rw [← hk]
            exact hsame
          · have hother := h k
            rw [List.filter_cons_of_neg (by simpa using hk),
              List.filter_cons_of_neg (by simpa using hk)] at hother
            exact hother

/-- **A stable sort leaves the order of elements with the same key.** -/
theorem mergeSort [LinearOrder κ] (key : α → κ) (l : List α) :
    Rearranged key (l.mergeSort fun a b => key a ≤ key b) l := by
  intro k
  have hsame : (l.filter fun a => key a = k).Pairwise fun a b => key a ≤ key b := by
    refine List.pairwise_of_forall_mem_list ?_
    intro a ha b hb
    rw [of_decide_eq_true (List.mem_filter.mp ha).2, of_decide_eq_true (List.mem_filter.mp hb).2]
  -- elements of one key ascend already, so they stand in the sorted list as they are
  have hsub : (l.filter fun a => key a = k).Sublist (l.mergeSort fun a b => key a ≤ key b) :=
    List.sublist_mergeSort (fun _ _ _ => by simpa using le_trans)
      (fun a b => by simpa using le_total (key a) (key b)) (by simpa using hsame)
      List.filter_sublist
  have hfiltered := hsub.filter fun a => key a = k
  simp only [List.filter_filter, Bool.and_self] at hfiltered
  refine (hfiltered.eq_of_length ?_).symm
  exact ((List.mergeSort_perm l _).filter _).length_eq.symm

/-- **A list in which the keys ascend is the sorted form of its rearrangements.** -/
theorem eq_mergeSort [LinearOrder κ] (h : Rearranged key l l')
    (hl : l.Pairwise fun a b => key a ≤ key b) : l = l'.mergeSort fun a b => key a ≤ key b := by
  have hsorted : (l'.mergeSort fun a b => key a ≤ key b).Pairwise
      fun a b => decide (key a ≤ key b) = true :=
    List.pairwise_mergeSort (fun _ _ _ => by simpa using le_trans)
      (fun a b => by simpa using le_total (key a) (key b)) l'
  exact eq_of_pairwise (fun k => (h k).trans (mergeSort key l' k).symm) hl
    (hsorted.imp of_decide_eq_true)

end Rearranged

end CourseFeed
