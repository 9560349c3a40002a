/-
Lists without repetitions.

Erasing the repetitions of a list keeps each of its values where it occurs first.
`firstOccurrences_iff` says that this is all there is to say: the values, each once, in the order of
their first occurrence, are what erasing leaves, and nothing else is.

The proofs go from the end of a list: a last value that has occurred before is dropped, and any other
one comes last (`eraseDups_concat`).
-/
import Mathlib.Data.List.Induction
import Mathlib.Data.List.Nodup

namespace TokenGate

variable {α : Type} [BEq α] [LawfulBEq α] {values firsts front extras : List α}

/-- The values of a list, each once, in the order of their first occurrence. -/
structure FirstOccurrences (values firsts : List α) : Prop where
  nodup : firsts.Nodup
  mem_iff : ∀ a, a ∈ firsts ↔ a ∈ values
  ordered : firsts.Pairwise fun a b => values.idxOf a < values.idxOf b

/-! ### From the end -/

theorem eraseDups_concat (values : List α) (a : α) : (values ++ [a]).eraseDups =
    if a ∈ values then values.eraseDups else values.eraseDups ++ [a] := by
  rw [List.eraseDups_append]
  by_cases h : a ∈ values
  · simp [List.removeAll, h]
  · simp [List.removeAll, h, List.eraseDups_cons]

/-- Erasing repetitions keeps first occurrences. -/
theorem firstOccurrences_eraseDups (values : List α) :
    FirstOccurrences values values.eraseDups := by
  induction values using List.reverseRecOn with
  | nil => exact ⟨List.nodup_nil, fun a => Iff.rfl, List.Pairwise.nil⟩
  | append_singleton values last ih =>
    -- what stood before the last value stands where it stood
    have hplace : ∀ a ∈ values.eraseDups, (values ++ [last]).idxOf a = values.idxOf a :=
      fun a ha => List.idxOf_append_of_mem ((ih.mem_iff a).1 ha)
    have hordered : values.eraseDups.Pairwise fun a b =>
        (values ++ [last]).idxOf a < (values ++ [last]).idxOf b := by
      refine ih.ordered.imp_of_mem fun ha hb hlt => ?_
      rw [hplace _ ha, hplace _ hb]
      exact hlt
    refine ⟨?_, fun a => List.mem_eraseDups, ?_⟩
    · rw [eraseDups_concat]
      split
      · exact ih.nodup
      · next hlast =>
        exact List.nodup_append'.2 ⟨ih.nodup, List.nodup_singleton _,
          List.disjoint_singleton.2 fun h => hlast ((ih.mem_iff last).1 h)⟩
    · rw [eraseDups_concat]
      split
      · exact hordered
      · next hlast =>
        refine List.pairwise_append.2 ⟨hordered, List.pairwise_singleton _ _, fun a ha b hb => ?_⟩
        obtain rfl := List.mem_singleton.1 hb
        rw [hplace a ha, List.idxOf_append_of_notMem hlast]
        exact Nat.lt_add_right _ (List.idxOf_lt_length_iff.2 ((ih.mem_iff a).1 ha))

/-- **The values of a list, each once and in the order of their first occurrence, are what erasing
repetitions leaves**, and no other list is. -/
theorem firstOccurrences_iff : FirstOccurrences values firsts ↔ firsts = values.eraseDups := by
  constructor
  · intro h
    have he := firstOccurrences_eraseDups values
    have hperm : firsts.Perm values.eraseDups :=
      (List.perm_ext_iff_of_nodup h.nodup he.nodup).2 fun a => (h.mem_iff a).trans (he.mem_iff a).symm
    -- two lists with the same members that are ordered in the same way
    refine hperm.eq_of_pairwise (fun a b _ _ hab hba => ?_) h.ordered he.ordered
    exact absurd hab (Nat.lt_asymm hba)
  · rintro rfl
    exact firstOccurrences_eraseDups values

/-! ### What changes nothing -/

/-- A list without repetitions is what erasing them leaves. -/
theorem eraseDups_of_nodup (h : values.Nodup) : values.eraseDups = values := by
  induction values using List.reverseRecOn with
  | nil => rfl
  | append_singleton values last ih =>
    obtain ⟨hvalues, -, hlast⟩ := List.nodup_append'.1 h
    rw [eraseDups_concat, if_neg (List.disjoint_singleton.1 hlast), ih hvalues]

/-- Values that are there already add nothing. -/
theorem eraseDups_append_of_subset (h : extras ⊆ front) (rest : List α) :
    (front ++ extras ++ rest).eraseDups = (front ++ rest).eraseDups := by
  have hdropped : (extras ++ rest).removeAll front = rest.removeAll front := by
    have hextras : extras.filter (fun a => !front.elem a) = [] :=
      List.filter_eq_nil_iff.2 fun a ha => by simp [h ha]
    rw [List.removeAll, List.filter_append, hextras, List.nil_append, List.removeAll]
  rw [List.append_assoc, List.eraseDups_append, List.eraseDups_append, hdropped]

/-- Of values that follow, the new ones are added. -/
theorem eraseDups_append_filter (front rest : List α) : (front ++ rest).eraseDups =
    front.eraseDups ++ rest.eraseDups.filter (fun a => a ∉ front.eraseDups) := by
  induction rest using List.reverseRecOn with
  | nil => simp
  | append_singleton rest last ih =>
    rw [← List.append_assoc, eraseDups_concat, eraseDups_concat, ih]
    by_cases hrest : last ∈ rest
    · rw [if_pos (List.mem_append_right _ hrest), if_pos hrest]
    · by_cases hfront : last ∈ front
      · simp [hrest, hfront]
      · simp [hrest, hfront]

end TokenGate
