/-
Which roles a claim grants.

A claim that is a text grants this one role, a list or a tuple grants the texts in it, each once and in
the order of their first occurrence, and any other claim grants nothing.  `Grants` says so without the
function that reads roles, and `grants_iff` that the function gives this and nothing else.

`roles_granted` is the main result.  Whatever the claims hold, roles are read from them; and the laws
of reading a list follow from those of first occurrences.  The name of the claim may be any value that
can be looked up; all texts can.  Two roles are one if they have the same characters; roles that differ in
single halves of surrogate pairs, which are no characters, are one role here (`Encoding.charAt`).
-/
import TokenGate.Proofs.FirstOccurrences
import TokenGate.Proofs.Identity

namespace TokenGate

/-- The value is a list or a tuple of the items. -/
def Datum.Lists (d : Datum) (items : List Datum) : Prop := d = .list items ∨ d = .tuple items

namespace Identity

variable {found : Option Datum} {d : Datum} {items : List Datum} {roles : List String} {role : String}

/-! ### By the shape of the claim -/

/-- The roles that a claim grants, if it is there. -/
inductive Grants : Option Datum → List String → Prop
  | single (role : String) : Grants (some (.text role)) [role]
  | several {d : Datum} {items : List Datum} {roles : List String} (hd : d.Lists items)
      (hr : FirstOccurrences (items.filterMap Datum.text?) roles) : Grants (some d) roles
  | nothing {found : Option Datum} (hk : ∀ d, found = some d → d.kind ∉ [.text, .list, .tuple]) :
      Grants found []

theorem rolesOf_of_lists (h : d.Lists items) :
    rolesOf d = (items.filterMap Datum.text?).eraseDups := by
  rcases h with rfl | rfl
  · rfl
  · rfl

/-- Every claim grants the roles that are read from it. -/
theorem grants_rolesOf (found : Option Datum) : Grants found (found.elim [] rolesOf) := by
  have several : ∀ {d items}, d.Lists items → Grants (some d) (rolesOf d) := fun {d items} h => by
    rw [rolesOf_of_lists h]
    exact .several h (firstOccurrences_eraseDups _)
  rcases found with - | d
  · exact .nothing fun d h => nomatch h
  · cases d with
    | text role => exact .single role
    | list items => exact several (.inl rfl)
    | tuple items => exact several (.inr rfl)
    | null | bool | int | float | set | bytes | dict =>
      refine .nothing fun d h => ?_
      cases h
      simp [Datum.kind]

/-- **A claim grants the roles that are read from it, and no others.** -/
theorem grants_iff : Grants found roles ↔ roles = found.elim [] rolesOf := by
  constructor
  · intro h
    cases h with
    | single role => rfl
    | several hd hr =>
      rw [firstOccurrences_iff.1 hr]
      exact (rolesOf_of_lists hd).symm
    | nothing hk =>
      rcases found with - | d
      · rfl
      · have hkind := hk d rfl
        cases d with
        | text | list | tuple => simp [Datum.kind] at hkind
        | null | bool | int | float | set | bytes | dict => rfl
  · rintro rfl
    exact grants_rolesOf found

theorem mem_texts_iff : role ∈ items.filterMap Datum.text? ↔ .text role ∈ items := by
  constructor
  · intro h
    obtain ⟨item, hitem, htext⟩ := List.mem_filterMap.1 h
    cases item with
    | text s =>
      obtain rfl := Option.some.inj htext
      exact hitem
    | _ => cases htext
  · intro h
    exact List.mem_filterMap.2 ⟨_, h, rfl⟩

/-- A role is granted by the text that it is, and by a list or a tuple with this text in it. -/
theorem Grants.mem_iff (h : Grants found roles) : role ∈ roles ↔ found = some (.text role) ∨
    ∃ d items, found = some d ∧ d.Lists items ∧ .text role ∈ items := by
  cases h with
  | single only =>
    constructor
    · intro hrole
      rw [List.mem_singleton.1 hrole]
      exact .inl rfl
    · rintro (htext | ⟨d, items, hd, hlists | hlists, -⟩)
      · cases htext
        exact List.mem_singleton_self role
      all_goals
        subst hlists
        cases hd
  | @several d items roles hd hr =>
    rw [hr.mem_iff, mem_texts_iff]
    constructor
    · intro hrole
      exact .inr ⟨d, items, rfl, hd, hrole⟩
    · rintro (htext | ⟨d', items', hd', hlists, hrole⟩)
      · obtain rfl := Option.some.inj htext
        rcases hd with hd | hd <;> cases hd
      · obtain rfl := Option.some.inj hd'
        -- the same value lists the same items
        rcases hd with rfl | rfl <;> rcases hlists with hlists | hlists <;> cases hlists
        · exact hrole
        · exact hrole
  | nothing hk =>
    constructor
    · intro hrole
      cases hrole
    · rintro (rfl | ⟨d, items, rfl, rfl | rfl, -⟩)
      all_goals simp [Datum.kind] at hk

/-! ### Lists of roles -/

/-- Repeated texts, and values that are no texts, grant nothing more. -/
theorem rolesOf_of_extras {d' : Datum} {front extras back : List Datum}
    (h : d.Lists (front ++ back)) (h' : d'.Lists (front ++ extras ++ back))
    (he : ∀ extra ∈ extras, extra.text? = none ∨ extra ∈ front) : rolesOf d' = rolesOf d := by
  have hsubset : extras.filterMap Datum.text? ⊆ front.filterMap Datum.text? := by
    intro role hrole
    obtain ⟨extra, hextra, htext⟩ := List.mem_filterMap.1 hrole
    rcases he extra hextra with hnone | hfront
    · cases hnone.symm.trans htext
    · exact List.mem_filterMap.2 ⟨extra, hfront, htext⟩
  rw [rolesOf_of_lists h, rolesOf_of_lists h', List.filterMap_append, List.filterMap_append,
    List.filterMap_append, eraseDups_append_of_subset hsubset]

/-- Items that follow grant what is new of their roles. -/
theorem rolesOf_append {first second both : Datum} {items₁ items₂ : List Datum}
    (h₁ : first.Lists items₁) (h₂ : second.Lists items₂) (h : both.Lists (items₁ ++ items₂)) :
    rolesOf both = rolesOf first ++ (rolesOf second).filter (fun role => role ∉ rolesOf first) := by
  rw [rolesOf_of_lists h₁, rolesOf_of_lists h₂, rolesOf_of_lists h, List.filterMap_append,
    eraseDups_append_filter]

/-- Roles that were read have no repetitions. -/
theorem Grants.nodup (h : Grants found roles) : roles.Nodup := by
  cases h with
  | single role => exact List.nodup_singleton role
  | several hd hr => exact hr.nodup
  | nothing hk => exact List.nodup_nil

theorem rolesOf_of_nodup (h : d.Lists (roles.map .text)) (hr : roles.Nodup) : rolesOf d = roles := by
  rw [rolesOf_of_lists h, filterMap_text?_texts, eraseDups_of_nodup hr]

/-! ### Claims of a token -/

namespace Mapping

variable {m : Mapping} {claims : Record Datum}

/-- What the claims hold under the mapping's name for the roles. -/
def Holds (m : Mapping) (claims : Record Datum) (found : Option Datum) : Prop :=
  claim? claims m.rolesClaim = .ok found

/-- A name that is a text finds what stands there. -/
theorem holds_of_text {name : String} (h : m.rolesClaim = .text name) (claims : Record Datum) :
    m.Holds claims (claims.get? name) := by
  rw [Holds, h]
  rfl

theorem Holds.roles_eq (h : m.Holds claims found) :
    m.roles claims = .ok (found.elim [] rolesOf) := by
  rw [Mapping.roles, show claim? claims m.rolesClaim = .ok found from h]
  rfl

/-- **The roles of a token are the texts of its claim, each once and in the order of their first
occurrence.**  They are read from all claims, and the identity has exactly these.  In a list, repeated
texts and values that are no texts change nothing; a list that goes on grants the new roles in
addition; and the roles that were read, taken as a list, are read as they are. -/
theorem roles_granted (hm : m.rolesClaim.changeable? = none) :
    (∀ claims, ∃ found roles, m.Holds claims found ∧ m.roles claims = .ok roles ∧
      (∀ roles', Grants found roles' ↔ roles' = roles) ∧
      (∀ role, role ∈ roles ↔ found = some (.text role) ∨
        ∃ d items, found = some d ∧ d.Lists items ∧ .text role ∈ items) ∧
      ∀ i, m.identity claims = .ok i → ∀ role, i.hasRole role = true ↔ role ∈ roles) ∧
    (∀ claims claims' d d' front extras back,
      m.Holds claims (some d) → d.Lists (front ++ back) →
      m.Holds claims' (some d') → d'.Lists (front ++ extras ++ back) →
      (∀ extra ∈ extras, extra.text? = none ∨ extra ∈ front) →
      m.roles claims' = m.roles claims) ∧
    (∀ claims₁ claims₂ claims d₁ d₂ d items₁ items₂ roles₁ roles₂,
      m.Holds claims₁ (some d₁) → d₁.Lists items₁ → m.roles claims₁ = .ok roles₁ →
      m.Holds claims₂ (some d₂) → d₂.Lists items₂ → m.roles claims₂ = .ok roles₂ →
      m.Holds claims (some d) → d.Lists (items₁ ++ items₂) →
      m.roles claims = .ok (roles₁ ++ roles₂.filter fun role => role ∉ roles₁)) ∧
    ∀ claims claims' d' roles, m.roles claims = .ok roles →
      m.Holds claims' (some d') → d'.Lists (roles.map .text) → m.roles claims' = .ok roles := by
  refine ⟨fun claims => ?_, ?_, ?_, ?_⟩
  · obtain ⟨found, hfound : m.Holds claims found⟩ := exists_claim? hm claims
    refine ⟨found, _, hfound, hfound.roles_eq, fun roles' => grants_iff, fun role => ?_,
      fun i hi role => ?_⟩
    · exact (grants_rolesOf found).mem_iff
    · obtain ⟨-, hroles⟩ := identity_eq_ok.1 hi
      rw [← Except.ok.inj (hroles.symm.trans hfound.roles_eq)]
      exact List.contains_iff_mem
  · intro claims claims' d d' front extras back hd hlists hd' hlists' he
    rw [hd.roles_eq, hd'.roles_eq]
    exact congrArg Except.ok (rolesOf_of_extras hlists hlists' he)
  · intro claims₁ claims₂ claims d₁ d₂ d items₁ items₂ roles₁ roles₂ hd₁ h₁ hr₁ hd₂ h₂ hr₂ hd h
    obtain rfl : rolesOf d₁ = roles₁ := Except.ok.inj (hd₁.roles_eq.symm.trans hr₁)
    obtain rfl : rolesOf d₂ = roles₂ := Except.ok.inj (hd₂.roles_eq.symm.trans hr₂)
    rw [hd.roles_eq]
    exact congrArg Except.ok (rolesOf_append h₁ h₂ h)
  · intro claims claims' d' roles hr hd' hlists
    obtain ⟨found, hfound : m.Holds claims found⟩ := exists_claim? hm claims
    obtain rfl : found.elim [] rolesOf = roles := Except.ok.inj (hfound.roles_eq.symm.trans hr)
    rw [hd'.roles_eq]
    exact congrArg Except.ok (rolesOf_of_nodup hlists (grants_rolesOf found).nodup)

/-- Claims with roles in a list. -/
def listing (items : List Datum) : Record Datum := [(Claim.roles, .list items)]

theorem holds_listing (items : List Datum) :
    Mapping.Holds {} (listing items) (some (.list items)) := by
  have h := holds_of_text (m := {}) rfl (listing items)
  exact h

/-- The roles of a list with repetitions and a number in it are those of its two halves together, and
the number and a repetition in the middle make no difference. -/
theorem roles_granted_listing :
    let m : Mapping := {}
    let whole := listing [.text "b", .int 5, .text "b", .text "a", .text "b"]
    m.rolesClaim.changeable? = none ∧ m.roles whole = .ok ["b", "a"] ∧
      m.roles whole = m.roles (listing [.text "b", .text "a", .text "b"]) := by
  obtain ⟨-, hextras, happend, -⟩ := roles_granted (m := {}) rfl
  refine ⟨rfl, ?_, ?_⟩
  · exact happend _ _ _ _ _ _ [.text "b", .int 5, .text "b"] [.text "a", .text "b"] ["b"] ["a", "b"]
      (holds_listing _) (.inl rfl) rfl (holds_listing _) (.inl rfl) rfl (holds_listing _) (.inl rfl)
  · refine hextras _ _ _ _ [.text "b"] [.int 5, .text "b"] [.text "a", .text "b"] (holds_listing _)
      (.inl rfl) (holds_listing _) (.inl rfl) ?_
    exact List.forall_mem_cons.2 ⟨.inl rfl, List.forall_mem_singleton.2
      (.inr (List.mem_singleton_self _))⟩

end Mapping

end Identity

end TokenGate
