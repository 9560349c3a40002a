/-
The theory of ordered records.

A record whose names are distinct is a finite map that remembers an order.  Here are the equations
of looking up in records that are joined, filtered by name or mapped over, the meaning of membership
where names are distinct (`get?_eq_some_iff`), and what writing does: a new name is appended
(`set_of_notMem`), so that pairs with distinct names are written as they stand (`ofPairs_eq`), and a
name that is there is overwritten in its place (`set_append_cons`).  Whatever pairs are written, each
name ends up where it was first written, with the value that was written last (`collects_ofPairs`).  Two
records with distinct names that give every name the same value differ in their order alone
(`perm_iff_get?`), and still do so after the same is written over both.
-/
import TokenGate.Proofs.FirstOccurrences
import TokenGate.Record

namespace TokenGate.Record

variable {α β : Type}

/-! ### Names -/

@[simp] theorem names_append (r s : Record α) : names (r ++ s) = r.names ++ s.names :=
  List.map_append

@[simp] theorem names_mapValues (f : α → β) (r : Record α) :
    names (r.map fun e => (e.1, f e.2)) = r.names := by
  simp only [names, List.map_map]
  rfl

theorem mem_names_of_mem {r : Record α} {name : String} {value : α} (h : (name, value) ∈ r) :
    name ∈ r.names :=
  List.mem_map.2 ⟨(name, value), h, rfl⟩

theorem contains_iff {r : Record α} {name : String} : r.contains name = true ↔ name ∈ r.names := by
  rw [contains, Option.isSome_iff_ne_none, ne_eq, get?_eq_none_iff, Decidable.not_not]

/-! ### Looking up -/

theorem get?_append (r s : Record α) (name : String) :
    get? (r ++ s) name = (r.get? name).or (s.get? name) := by
  induction r with
  | nil => rfl
  | cons entry rest ih =>
    obtain ⟨key, value⟩ := entry
    by_cases h : key = name <;> simp [get?, h, ih]

theorem get?_append_right {r s : Record α} {name : String} (h : name ∉ r.names) :
    get? (r ++ s) name = s.get? name := by
  rw [get?_append, get?_eq_none_iff.2 h, Option.none_or]

theorem get?_mapValues (f : α → β) (r : Record α) (name : String) :
    get? (r.map fun e => (e.1, f e.2)) name = (r.get? name).map f := by
  induction r with
  | nil => rfl
  | cons entry rest ih =>
    obtain ⟨key, value⟩ := entry
    by_cases h : key = name <;> simp [get?, h, ih]

/-- Dropping entries by their names hides these names and changes no other. -/
theorem get?_filter (p : String → Bool) (r : Record α) (name : String) :
    get? (r.filter fun e => p e.1) name = if p name then r.get? name else none := by
  induction r with
  | nil => simp
  | cons entry rest ih =>
    obtain ⟨key, value⟩ := entry
    by_cases hk : key = name
    · subst hk
      by_cases hp : p key = true <;> simp [get?, hp, ih]
    · by_cases hp : p key = true <;> simp [get?, hk, hp, ih]

theorem mem_of_get? {r : Record α} {name : String} {value : α} (h : r.get? name = some value) :
    (name, value) ∈ r := by
  induction r with
  | nil => cases h
  | cons entry rest ih =>
    obtain ⟨key, old⟩ := entry
    by_cases hk : key = name
    · subst hk
      rw [get?, if_pos rfl, Option.some.injEq] at h
      rw [h]
      exact List.mem_cons_self
    · rw [get?, if_neg hk] at h
      exact List.mem_cons_of_mem _ (ih h)

/-- Where names are distinct, a record is its entries. -/
theorem get?_eq_some_iff {r : Record α} (hr : r.names.Nodup) {name : String} {value : α} :
    r.get? name = some value ↔ (name, value) ∈ r := by
  refine ⟨mem_of_get?, fun h => ?_⟩
  induction r with
  | nil => cases h
  | cons entry rest ih =>
    obtain ⟨key, old⟩ := entry
    obtain ⟨hk, hrest⟩ := List.nodup_cons.1 hr
    rcases List.mem_cons.1 h with he | hm
    · cases he
      rw [get?, if_pos rfl]
    · have hne : key ≠ name := fun e => hk (e ▸ mem_names_of_mem hm)
      rw [get?, if_neg hne]
      exact ih hrest hm

/-! ### Writing -/

/-- A new name is appended. -/
theorem set_of_notMem {r : Record α} {name : String} (value : α) (h : name ∉ r.names) :
    r.set name value = r ++ [(name, value)] := by
  induction r with
  | nil => rfl
  | cons entry rest ih =>
    obtain ⟨key, old⟩ := entry
    obtain ⟨hk, hrest⟩ := not_or.1 (mt List.mem_cons.2 h)
    rw [set, if_neg (Ne.symm hk), ih hrest, List.cons_append]

/-- A name stands somewhere for the first time. -/
theorem exists_append_cons {r : Record α} {name : String} (h : name ∈ r.names) :
    ∃ before old rest, r = before ++ (name, old) :: rest ∧ name ∉ names before := by
  induction r with
  | nil => cases h
  | cons entry r ih =>
    obtain ⟨key, value⟩ := entry
    by_cases hk : key = name
    · subst hk
      exact ⟨[], value, r, rfl, List.not_mem_nil⟩
    · obtain ⟨before, old, rest, rfl, hbefore⟩ := ih ((List.mem_cons.1 h).resolve_left (Ne.symm hk))
      refine ⟨(key, value) :: before, old, rest, rfl, fun hm => ?_⟩
      exact (List.mem_cons.1 hm).elim (Ne.symm hk) hbefore

/-- A name that is there is overwritten in its place. -/
theorem set_append_cons {before : Record α} {name : String} (h : name ∉ before.names) (old value : α)
    (rest : Record α) :
    set (before ++ (name, old) :: rest) name value = before ++ (name, value) :: rest := by
  induction before with
  | nil => rw [List.nil_append, set, if_pos rfl, List.nil_append]
  | cons entry before ih =>
    obtain ⟨key, other⟩ := entry
    obtain ⟨hkey, hbefore⟩ := not_or.1 (mt List.mem_cons.2 h)
    rw [List.cons_append, set, if_neg (Ne.symm hkey), ih hbefore, List.cons_append]

/-- Writing the value that is there changes nothing. -/
theorem set_get? {r : Record α} {name : String} {value : α} (h : r.get? name = some value) :
    r.set name value = r := by
  induction r with
  | nil => cases h
  | cons entry rest ih =>
    obtain ⟨key, old⟩ := entry
    by_cases hk : key = name
    · subst hk
      rw [get?, if_pos rfl] at h
      rw [set, if_pos rfl, Option.some.inj h]
    · rw [get?, if_neg hk] at h
      rw [set, if_neg hk, ih h]

theorem set_mapValues (f : α → β) (r : Record α) (name : String) (value : α) :
    (r.set name value).map (fun e => (e.1, f e.2)) =
      set (r.map fun e => (e.1, f e.2)) name (f value) := by
  induction r with
  | nil => rfl
  | cons entry rest ih =>
    obtain ⟨key, old⟩ := entry
    by_cases h : key = name
    · simp [set, h]
    · simp [set, h, ih]

/-- The second value under a name hides the first. -/
theorem set_set (r : Record α) (name : String) (value value' : α) :
    (r.set name value).set name value' = r.set name value' := by
  induction r with
  | nil => simp [set]
  | cons entry rest ih =>
    obtain ⟨key, old⟩ := entry
    by_cases h : key = name
    · simp [set, h]
    · simp [set, h, ih]

/-- The record with the entries of another written over it, from left to right. -/
def overwrite (r pairs : Record α) : Record α := pairs.foldl (fun r pair => r.set pair.1 pair.2) r

theorem overwrite_cons (r : Record α) (pair : String × α) (rest : Record α) :
    r.overwrite (pair :: rest) = (r.set pair.1 pair.2).overwrite rest := rfl

theorem overwrite_append (r s t : Record α) : r.overwrite (s ++ t) = (r.overwrite s).overwrite t :=
  List.foldl_append

/-- What is written hides what was there. -/
theorem get?_overwrite (r : Record α) {pairs : Record α} (h : pairs.names.Nodup) (name : String) :
    (r.overwrite pairs).get? name = (pairs.get? name).or (r.get? name) := by
  induction pairs generalizing r with
  | nil => rfl
  | cons pair rest ih =>
    obtain ⟨key, value⟩ := pair
    obtain ⟨hkey, hrest⟩ := List.nodup_cons.1 h
    rw [overwrite_cons, ih _ hrest]
    by_cases hk : key = name
    · subst hk
      rw [get?_eq_none_iff.2 hkey, Option.none_or, get?_set_self, get?, if_pos rfl, Option.some_or]
    · rw [get?_set_of_ne _ _ hk, get?, if_neg hk]

/-- New names are appended. -/
theorem overwrite_of_notMem {r pairs : Record α} (h : pairs.names.Nodup)
    (hr : ∀ name ∈ pairs.names, name ∉ r.names) : r.overwrite pairs = r ++ pairs := by
  induction pairs generalizing r with
  | nil => exact (List.append_nil r).symm
  | cons pair rest ih =>
    obtain ⟨hpair, hrest⟩ := List.nodup_cons.1 h
    obtain ⟨hnew, hnews⟩ := List.forall_mem_cons.1 hr
    rw [overwrite_cons, set_of_notMem _ hnew, ih hrest, List.append_assoc, List.singleton_append]
    intro name hname hm
    rw [names_append, List.mem_append] at hm
    rcases hm with hm | hm
    · exact hnews name hname hm
    · exact hpair (List.mem_singleton.1 hm ▸ hname)

/-- Pairs with distinct names are the record that they leave. -/
theorem ofPairs_eq {pairs : Record α} (h : pairs.names.Nodup) : ofPairs pairs = pairs :=
  overwrite_of_notMem h fun _ _ => List.not_mem_nil

theorem nodup_names_overwrite {r : Record α} (h : r.names.Nodup) (pairs : Record α) :
    (r.overwrite pairs).names.Nodup := by
  induction pairs generalizing r with
  | nil => exact h
  | cons pair rest ih => exact ih (nodup_names_set h _ _)

/-- Whatever pairs are written, the names of the record are distinct. -/
theorem nodup_names_ofPairs (pairs : Record α) : (ofPairs pairs).names.Nodup :=
  nodup_names_overwrite (r := []) List.nodup_nil pairs

/-- Writing adds no entry but the one that is written. -/
theorem mem_set {r : Record α} {name : String} {value : α} {e : String × α}
    (h : e ∈ r.set name value) : e ∈ r ∨ e = (name, value) := by
  induction r with
  | nil => exact .inr (List.mem_singleton.1 h)
  | cons entry rest ih =>
    obtain ⟨key, old⟩ := entry
    by_cases hk : key = name
    · subst hk
      rw [set, if_pos rfl] at h
      rcases List.mem_cons.1 h with rfl | h
      · exact .inr rfl
      · exact .inl (List.mem_cons_of_mem _ h)
    · rw [set, if_neg hk] at h
      rcases List.mem_cons.1 h with rfl | h
      · exact .inl List.mem_cons_self
      · exact (ih h).imp_left (List.mem_cons_of_mem _)

/-- What holds of all entries still does after writing one more of which it holds. -/
theorem forall_set {p : String × α → Prop} {r : Record α} (hr : ∀ e ∈ r, p e) {name : String}
    {value : α} (hv : p (name, value)) : ∀ e ∈ r.set name value, p e := by
  intro e he
  rcases mem_set he with he | rfl
  · exact hr e he
  · exact hv

theorem forall_overwrite {p : String × α → Prop} {r pairs : Record α} (hr : ∀ e ∈ r, p e)
    (h : ∀ e ∈ pairs, p e) : ∀ e ∈ r.overwrite pairs, p e := by
  induction pairs generalizing r with
  | nil => exact hr
  | cons pair rest ih =>
    obtain ⟨hpair, hrest⟩ := List.forall_mem_cons.1 h
    exact ih (forall_set hr hpair) hrest

/-- What holds of the values of all pairs holds of those of the record. -/
theorem forall_ofPairs {p : α → Prop} {pairs : List (String × α)} (h : ∀ e ∈ pairs, p e.2) :
    ∀ e ∈ ofPairs pairs, p e.2 :=
  forall_overwrite (p := fun e => p e.2) (fun _ he => nomatch he) h

/-! ### What writing leaves -/

/-- The values under a name, in their order. -/
def values (r : Record α) (name : String) : List α :=
  r.filterMap fun e => if e.1 = name then some e.2 else none

/-- The record holds what was written: each name where it was first written, with the value that was
written last. -/
structure Collects (r writes : Record α) : Prop where
  names : FirstOccurrences writes.names r.names
  value : ∀ name, r.get? name = (writes.values name).getLast?

theorem values_cons (name other : String) (value : α) (rest : Record α) :
    values ((name, value) :: rest) other =
      if name = other then value :: values rest other else values rest other := by
  by_cases h : name = other
  · simp [values, h]
  · simp [values, h]

theorem get?_overwrite_values (r writes : Record α) (name : String) :
    (r.overwrite writes).get? name = (writes.values name).getLast?.or (r.get? name) := by
  induction writes generalizing r with
  | nil => rfl
  | cons pair rest ih =>
    obtain ⟨key, value⟩ := pair
    rw [overwrite_cons, ih, values_cons]
    by_cases h : key = name
    · subst h
      rw [if_pos rfl, get?_set_self, List.getLast?_cons, Option.some_or, Option.or_some]
    · rw [if_neg h, get?_set_of_ne _ _ h]

/-- A name that is there keeps its place, and a new one stands where the rest begins. -/
theorem eraseDups_names_set (r : Record α) (name : String) (value : α) (rest : List String) :
    ((r.set name value).names ++ rest).eraseDups = (r.names ++ name :: rest).eraseDups := by
  rw [names_set, List.append_cons r.names name rest]
  split
  · next h => rw [eraseDups_append_of_subset (List.cons_subset.2 ⟨h, List.nil_subset _⟩)]
  · rfl

theorem names_overwrite {r : Record α} (hr : r.names.Nodup) (writes : Record α) :
    (r.overwrite writes).names = (r.names ++ writes.names).eraseDups := by
  induction writes generalizing r with
  | nil =>
    show r.names = (r.names ++ []).eraseDups
    rw [List.append_nil, eraseDups_of_nodup hr]
  | cons pair rest ih =>
    obtain ⟨name, value⟩ := pair
    rw [overwrite_cons, ih (nodup_names_set hr name value)]
    exact eraseDups_names_set r name value (names rest)

/-- **Each name stands where it was first written, with the value that was written last.** -/
theorem collects_ofPairs (writes : Record α) : (ofPairs writes).Collects writes where
  names := firstOccurrences_iff.2 (names_overwrite (r := []) List.nodup_nil writes)
  value := fun name => (get?_overwrite_values [] writes name).trans (Option.or_none)

/-! ### Entries that may be missing -/

/-- The entry of a name, if there is a value. -/
def given (name : String) (value? : Option α) : Record α := value?.elim [] fun v => [(name, v)]

theorem names_given_sublist (name : String) (value? : Option α) :
    (given name value?).names.Sublist [name] := by
  cases value? with
  | none => exact List.nil_sublist _
  | some value => exact List.Sublist.refl _

theorem get?_given (name other : String) (value? : Option α) :
    (given name value?).get? other = if name = other then value? else none := by
  cases value? with
  | none => simp [given]
  | some value => rfl

theorem mem_given {name : String} {value? : Option α} {e : String × α}
    (h : e ∈ given name value?) : value? = some e.2 := by
  cases value? with
  | none => cases h
  | some value => rw [List.mem_singleton.1 h]

/-! ### Another order -/

theorem get?_set (r : Record α) (name other : String) (value : α) :
    (r.set name value).get? other = if name = other then some value else r.get? other := by
  split
  · next h => rw [← h, get?_set_self]
  · next h => exact get?_set_of_ne r value h

section Order

variable {r r' : Record α} (hr : r.names.Nodup)

include hr

theorem nodup_of_names : List.Nodup r :=
  List.Pairwise.of_map Prod.fst (fun _ _ hne he => hne (congrArg Prod.fst he)) hr

/-- Records with distinct names have the same entries exactly if they give each name the same value. -/
theorem perm_iff_get? (hr' : r'.names.Nodup) :
    r.Perm r' ↔ ∀ name, r.get? name = r'.get? name := by
  rw [List.perm_ext_iff_of_nodup (nodup_of_names hr) (nodup_of_names hr')]
  refine ⟨fun h name => Option.ext fun value => ?_, fun h entry => ?_⟩
  · rw [get?_eq_some_iff hr, get?_eq_some_iff hr', h]
  · obtain ⟨name, value⟩ := entry
    rw [← get?_eq_some_iff hr, ← get?_eq_some_iff hr', h]

theorem nodup_names_of_perm (h : r.Perm r') : r'.names.Nodup := (h.map Prod.fst).nodup_iff.1 hr

theorem get?_of_perm (h : r.Perm r') (name : String) : r.get? name = r'.get? name :=
  (perm_iff_get? hr (nodup_names_of_perm hr h)).1 h name

theorem set_perm (h : r.Perm r') (name : String) (value : α) :
    (r.set name value).Perm (r'.set name value) := by
  have hr' := nodup_names_of_perm hr h
  refine (perm_iff_get? (nodup_names_set hr _ _) (nodup_names_set hr' _ _)).2 fun other => ?_
  rw [get?_set, get?_set, get?_of_perm hr h]

/-- It is all one to the entries which of two names is written first. -/
theorem set_set_perm {name name' : String} (hne : name ≠ name') (value value' : α) :
    ((r.set name value).set name' value').Perm ((r.set name' value').set name value) := by
  refine (perm_iff_get? (nodup_names_set (nodup_names_set hr _ _) _ _)
    (nodup_names_set (nodup_names_set hr _ _) _ _)).2 fun other => ?_
  by_cases h : name = other
  · subst h
    rw [get?_set_self, get?_set_of_ne _ _ hne.symm, get?_set_self]
  · rw [get?_set, get?_set_of_ne r value h, get?_set_of_ne (r.set name' value') value h, get?_set]

theorem overwrite_perm (h : r.Perm r') (pairs : Record α) :
    (r.overwrite pairs).Perm (r'.overwrite pairs) := by
  induction pairs generalizing r r' with
  | nil => exact h
  | cons pair rest ih => exact ih (nodup_names_set hr _ _) (set_perm hr h _ _)

end Order

end TokenGate.Record
