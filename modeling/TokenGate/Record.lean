/-
Ordered records: finite maps from names to values that remember the order of insertion.

`set` overwrites a name in its place or appends a new one, `ofPairs` reads pairs from left to right
so that the last value of a name wins at the name's first place.  The equations of `get?` and of the
names after `set` stand beside the definitions.
-/

namespace TokenGate

/-- Names with their values, in order of first insertion. -/
abbrev Record (α : Type) := List (String × α)

namespace Record

variable {α : Type}

/-- The value of a name. -/
def get? : Record α → String → Option α
  | [], _ => none
  | (key, value) :: rest, name => if key = name then some value else get? rest name

/-- The name occurs. -/
def contains (r : Record α) (name : String) : Bool := (r.get? name).isSome

/-- The names, in order. -/
def names (r : Record α) : List String := r.map Prod.fst

/-- The record with a name's value overwritten in place, or appended. -/
def set : Record α → String → α → Record α
  | [], name, value => [(name, value)]
  | (key, old) :: rest, name, value =>
    if key = name then (key, value) :: rest else (key, old) :: set rest name value

/-- The record that pairs written from left to right leave. -/
def ofPairs (pairs : List (String × α)) : Record α :=
  pairs.foldl (fun r pair => r.set pair.1 pair.2) []

/-! ### Equations -/

@[simp] theorem get?_nil (name : String) : get? ([] : Record α) name = none := rfl

@[simp] theorem get?_set_self (r : Record α) (name : String) (value : α) :
    (r.set name value).get? name = some value := by
  induction r with
  | nil => simp [set, get?]
  | cons entry rest ih =>
    obtain ⟨key, old⟩ := entry
    by_cases h : key = name <;> simp [set, get?, h, ih]

theorem get?_set_of_ne (r : Record α) {name other : String} (value : α) (h : name ≠ other) :
    (r.set name value).get? other = r.get? other := by
  induction r with
  | nil => simp [set, get?, h]
  | cons entry rest ih =>
    obtain ⟨key, old⟩ := entry
    by_cases hk : key = name
    · subst hk
      simp [set, get?, h]
    · simp only [set, hk, if_false, get?, ih]

/-- A name keeps its place; a new one comes last. -/
theorem names_set (r : Record α) (name : String) (value : α) :
    (r.set name value).names = if name ∈ r.names then r.names else r.names ++ [name] := by
  induction r with
  | nil => simp [set, names]
  | cons entry rest ih =>
    obtain ⟨key, old⟩ := entry
    by_cases h : key = name
    · simp [set, names, h]
    · have h' : ¬name = key := fun e => h e.symm
      simp only [names] at ih
      simp only [set, h, if_false, names, List.map_cons, List.mem_cons, h', false_or, ih]
      split <;> simp_all

theorem mem_names_set {r : Record α} {name other : String} {value : α} :
    other ∈ (r.set name value).names ↔ other ∈ r.names ∨ other = name := by
  rw [names_set]
  split
  · next h => exact ⟨Or.inl, fun ho => ho.elim id fun e => e ▸ h⟩
  · simp

theorem get?_eq_none_iff {r : Record α} {name : String} :
    r.get? name = none ↔ name ∉ r.names := by
  induction r with
  | nil => simp [names]
  | cons entry rest ih =>
    obtain ⟨key, old⟩ := entry
    by_cases h : key = name
    · simp [get?, names, h]
    · have h' : ¬name = key := fun e => h e.symm
      simp only [names] at ih
      simp [get?, names, h, h', ih]

/-- Setting a value keeps the names distinct. -/
theorem nodup_names_set {r : Record α} (h : r.names.Nodup) (name : String) (value : α) :
    (r.set name value).names.Nodup := by
  rw [names_set]
  split
  · exact h
  · next hn => exact List.nodup_append.2 ⟨h, by simp, by
      intro a ha b hb
      simp only [List.mem_singleton] at hb
      exact fun e => hn (hb ▸ e ▸ ha)⟩

end Record

end TokenGate
