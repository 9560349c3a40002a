/-
The theory of claims under construction.

What a token carries of a claim is read back as the same claim (`ofDatum?_payload`), and so the
claims of a token make up the set that it was issued for (`ofRecord_payload`).  In the other
direction, `map_ofRecord` says what a set holds that was made of given claims: what is null is left
out, and everything else is there in its order.  What becomes of a value on the way is said by
`Datum.kept` and `Datum.carried` (`forms_of_ofDatum?`); one out of a document is carried as it was given
(`payload_of_ofDatum?`).  `exists_ofRecord_iff` says of which claims a set can be made at all.
-/
import TokenGate.ClaimSet
import TokenGate.Proofs.Json.Kinds
import TokenGate.Proofs.Record

namespace TokenGate

/-- The value is null. -/
def Datum.isNull : Datum → Bool
  | .null => true
  | _ => false

/-- A value as a claim set keeps it: several values are a tuple. -/
def Datum.kept : Datum → Datum
  | .list items | .set items => .tuple items
  | d => d

/-- A value as a payload carries it: several values are a list. -/
def Datum.carried : Datum → Datum
  | .tuple items | .set items => .list items
  | d => d

theorem Datum.text?_eq_some_iff {d : Datum} {s : String} : d.text? = some s ↔ d = .text s := by
  cases d with
  | text t => rw [text?, Option.some.injEq, Datum.text.injEq]
  | _ => exact ⟨nofun, nofun⟩

theorem Datum.isNull_eq_false_iff {d : Datum} : d.isNull = false ↔ d ≠ .null := by
  cases d with
  | null => exact ⟨nofun, fun h => absurd rfl h⟩
  | _ => exact ⟨fun _ => nofun, fun _ => rfl⟩

/-- The claims that are not null, in their order. -/
def Record.nonNull (r : Record Datum) : Record Datum := r.filter fun e => !e.2.isNull

theorem Record.nonNull_of_ne {name : String} {d : Datum} (hd : d ≠ .null) (rest : Record Datum) :
    nonNull ((name, d) :: rest) = (name, d) :: nonNull rest :=
  List.filter_cons_of_pos (by rw [Datum.isNull_eq_false_iff.2 hd]; rfl)

/-! ### Values -/

namespace ClaimValue

theorem mapM_text?_texts (ss : List String) : (ss.map Datum.text).mapM Datum.text? = some ss := by
  induction ss with
  | nil => rfl
  | cons s ss ih =>
    rw [List.map_cons, List.mapM_cons, ih]
    rfl

theorem ofDatum?_payload (v : ClaimValue) : ofDatum? v.payload = some v := by
  cases v with
  | texts ss =>
    rw [payload, ofDatum?, mapM_text?_texts]
    rfl
  | _ => rfl

theorem map_text_of_mapM {items : List Datum} {ss : List String}
    (h : items.mapM Datum.text? = some ss) : items = ss.map .text := by
  induction items generalizing ss with
  | nil =>
    cases h
    rfl
  | cons d items ih =>
    rw [List.mapM_cons, Option.bind_eq_bind, Option.bind_eq_some_iff] at h
    obtain ⟨s, hs, h⟩ := h
    rw [Option.bind_eq_bind, Option.bind_eq_some_iff] at h
    obtain ⟨rest, hrest, h⟩ := h
    cases h
    cases d with
    | text t =>
      cases hs
      rw [ih hrest, List.map_cons]
    | _ => cases hs

/-- What becomes of a value that enters a set. -/
theorem forms_of_ofDatum? {d : Datum} {v : ClaimValue} (h : ofDatum? d = some v) :
    v.toDatum = d.kept ∧ v.payload = d.carried := by
  have htexts : ∀ {items : List Datum}, (items.mapM Datum.text?).map ClaimValue.texts = some v →
      v.toDatum = .tuple items ∧ v.payload = .list items := by
    intro items h
    obtain ⟨ss, hss, rfl⟩ := Option.map_eq_some_iff.1 h
    rw [map_text_of_mapM hss]
    exact ⟨rfl, rfl⟩
  cases d with
  | list items => exact htexts h
  | tuple items => exact htexts h
  | set items => exact htexts h
  | null => cases h
  | bytes value => cases h
  | dict members => cases h
  | _ =>
    cases h
    exact ⟨rfl, rfl⟩

/-- A value enters a set as the claim's value that is kept of it, if there is one. -/
theorem ofDatum?_eq_some_iff {d : Datum} {v : ClaimValue} :
    ofDatum? d = some v ↔ v.toDatum = d.kept := by
  refine ⟨fun h => (forms_of_ofDatum? h).1, fun h => ?_⟩
  have hkept : ofDatum? d = ofDatum? d.kept := by
    cases d with
    | _ => rfl
  rw [hkept, ← h]
  cases v with
  | texts ss =>
    rw [toDatum, ofDatum?, mapM_text?_texts]
    rfl
  | _ => rfl

/-- A token carries a value out of a document as it was. -/
theorem payload_of_ofDatum? {d : Datum} {v : ClaimValue} (hd : Json.Plain d)
    (h : ofDatum? d = some v) : v.payload = d := by
  cases hd with
  | list hitems =>
    obtain ⟨ss, hss, rfl⟩ := Option.map_eq_some_iff.1 h
    rw [map_text_of_mapM hss]
    rfl
  | null => cases h
  | dict => cases h
  | _ =>
    cases h
    rfl

/-- Only floating-point numbers become such. -/
theorem eq_float_of_ofDatum? {d : Datum} {x : Binary64} (h : ofDatum? d = some (.float x)) :
    d = .float x := by
  cases d with
  | float y =>
    cases h
    rfl
  | list items =>
    obtain ⟨ss, -, he⟩ := Option.map_eq_some_iff.1 h
    cases he
  | tuple items =>
    obtain ⟨ss, -, he⟩ := Option.map_eq_some_iff.1 h
    cases he
  | set items =>
    obtain ⟨ss, -, he⟩ := Option.map_eq_some_iff.1 h
    cases he
  | _ => cases h

theorem isNull_of_ofDatum? {d : Datum} {v : ClaimValue} (h : ofDatum? d = some v) :
    d.isNull = false := by
  cases d with
  | null => cases h
  | _ => rfl

theorem payload_ne_null (v : ClaimValue) : v.payload ≠ .null := by
  cases v <;> rintro ⟨⟩

end ClaimValue

/-! ### Sets -/

namespace ClaimSet

@[simp] theorem names_payload (s : ClaimSet) : s.payload.names = s.entries.names :=
  Record.names_mapValues _ _

theorem nodup_names_payload (s : ClaimSet) : s.payload.names.Nodup := by
  rw [names_payload]
  exact s.distinct

theorem get?_payload (s : ClaimSet) (name : String) :
    s.payload.get? name = (s.get? name).map ClaimValue.payload :=
  Record.get?_mapValues _ _ _

theorem contains_iff {s : ClaimSet} {name : String} : s.contains name = true ↔ name ∈ s.names :=
  Record.contains_iff

@[ext] theorem ext {s t : ClaimSet} (h : s.entries = t.entries) : s = t := by
  cases s
  cases t
  cases h
  rfl

/-- Writing a new claim appends it. -/
theorem put_payload {s : ClaimSet} {name : String} (v : ClaimValue) (hne : name ≠ "")
    (hnew : name ∉ s.names) :
    ∃ t, s.put name v.payload = .ok t ∧ t.entries = s.entries ++ [(name, v)] := by
  refine ⟨s.write name v hne, ?_, Record.set_of_notMem v hnew⟩
  rw [put, dif_neg hne, ClaimValue.ofDatum?_payload]

theorem putAll_cons_payload {s t : ClaimSet} {name : String} {v : ClaimValue}
    (rest : Record Datum) (h : s.put name v.payload = .ok t) :
    s.putAll ((name, v.payload) :: rest) = t.putAll rest := by
  rw [putAll, h]
  · exact v.payload_ne_null

/-- The claims that a set puts into a token are written over claims of other names one after the
other. -/
theorem putAll_payload {s : ClaimSet} {entries : Record ClaimValue}
    (hd : (s.entries ++ entries).names.Nodup) (hn : "" ∉ entries.names) :
    ∃ t, s.putAll (entries.map fun e => (e.1, e.2.payload)) = (t, none) ∧
      t.entries = s.entries ++ entries := by
  induction entries generalizing s with
  | nil => exact ⟨s, rfl, (List.append_nil _).symm⟩
  | cons first others ih =>
    obtain ⟨name, v⟩ := first
    obtain ⟨hfirst, hothers⟩ := not_or.1 (mt List.mem_cons.2 hn)
    -- the entries written so far have none of the names to come
    have hnew : name ∉ s.names := by
      rw [Record.names_append, List.nodup_append] at hd
      exact fun hm => hd.2.2 _ hm _ List.mem_cons_self rfl
    obtain ⟨t, ht, hte⟩ := put_payload v (Ne.symm hfirst) hnew
    have happend : t.entries ++ others = s.entries ++ (name, v) :: others := by
      rw [hte, List.append_assoc, List.singleton_append]
    obtain ⟨u, hu, hue⟩ := ih (happend ▸ hd) hothers
    refine ⟨u, ?_, hue.trans happend⟩
    rw [List.map_cons, putAll_cons_payload _ ht, hu]

/-- **The claims of a token make up the set that they were put into it from.** -/
theorem ofRecord_payload (s : ClaimSet) : ofRecord s.payload = .ok s := by
  obtain ⟨t, ht, he⟩ := putAll_payload (s := empty) s.distinct s.named
  rw [ofRecord, payload, ht]
  exact congrArg Except.ok (ext he)

/-! ### Sets of given claims -/

theorem put_eq_ok {s t : ClaimSet} {name : String} {d : Datum} (h : s.put name d = .ok t) :
    ∃ v, ClaimValue.ofDatum? d = some v ∧ t.entries = s.entries.set name v := by
  rw [put] at h
  split at h
  · cases h
  split at h
  · next v hv =>
    cases h
    exact ⟨v, hv, rfl⟩
  · cases h

theorem putAll_cons_eq_ok {s t : ClaimSet} {name : String} {d : Datum} {rest : Record Datum}
    (h : s.putAll ((name, d) :: rest) = (t, none)) :
    d = .null ∧ s.putAll rest = (t, none) ∨
      ∃ u, s.put name d = .ok u ∧ u.putAll rest = (t, none) := by
  by_cases hd : d = .null
  · subst hd
    exact .inl ⟨rfl, h⟩
  · rw [putAll] at h
    · split at h
      · next u hu => exact .inr ⟨u, hu, h⟩
      · cases h
    · exact hd

/-- A name that is not given, or as null, is left as it is. -/
theorem get?_putAll_of_absent {s t : ClaimSet} {r : Record Datum} (h : s.putAll r = (t, none))
    {name : String} (hr : ∀ e ∈ r, e.1 = name → e.2 = .null) : t.get? name = s.get? name := by
  induction r generalizing s with
  | nil =>
    cases h
    rfl
  | cons first rest ih =>
    obtain ⟨key, d⟩ := first
    obtain ⟨hfirst, hrest⟩ := List.forall_mem_cons.1 hr
    rcases putAll_cons_eq_ok h with ⟨-, h⟩ | ⟨u, hu, h⟩
    · exact ih h hrest
    · obtain ⟨v, hv, hue⟩ := put_eq_ok hu
      have hne : key ≠ name := by
        rintro rfl
        obtain rfl : d = .null := hfirst rfl
        cases hv
      rw [ih h hrest, get?, hue, Record.get?_set_of_ne _ _ hne]
      rfl

/-- A name that is given is written with its value. -/
theorem get?_putAll_of_given {s t : ClaimSet} {r : Record Datum} (hn : r.names.Nodup)
    (h : s.putAll r = (t, none)) {name : String} {d : Datum} (hr : r.get? name = some d)
    (hd : d ≠ .null) : ∃ v, ClaimValue.ofDatum? d = some v ∧ t.get? name = some v := by
  induction r generalizing s with
  | nil => cases hr
  | cons first rest ih =>
    obtain ⟨key, first⟩ := first
    obtain ⟨hkey, hrest⟩ := List.nodup_cons.1 hn
    by_cases hk : key = name
    · subst hk
      rw [Record.get?, if_pos rfl, Option.some.injEq] at hr
      subst hr
      rcases putAll_cons_eq_ok h with ⟨he, -⟩ | ⟨u, hu, h⟩
      · exact absurd he hd
      · obtain ⟨v, hv, hue⟩ := put_eq_ok hu
        refine ⟨v, hv, ?_⟩
        -- no later entry has the name, so the value stays
        rw [get?_putAll_of_absent h, get?, hue, Record.get?_set_self]
        rintro e he rfl
        exact absurd (Record.mem_names_of_mem he) hkey
    · rw [Record.get?, if_neg hk] at hr
      rcases putAll_cons_eq_ok h with ⟨-, h⟩ | ⟨u, -, h⟩
      · exact ih hrest h hr
      · exact ih hrest h hr

theorem ofRecord_eq_ok {s : ClaimSet} {r : Record Datum} (h : ofRecord r = .ok s) :
    putAll empty r = (s, none) := by
  rw [ofRecord] at h
  split at h
  · next he =>
    cases h
    exact he
  · cases h

/-- What a set holds that was made of given claims. -/
theorem get?_ofRecord_of_given {s : ClaimSet} {r : Record Datum} (h : ofRecord r = .ok s)
    (hn : r.names.Nodup) {name : String} {d : Datum} (hr : r.get? name = some d)
    (hd : d ≠ .null) : ∃ v, ClaimValue.ofDatum? d = some v ∧ s.get? name = some v :=
  get?_putAll_of_given hn (ofRecord_eq_ok h) hr hd

theorem get?_ofRecord_of_absent {s : ClaimSet} {r : Record Datum} (h : ofRecord r = .ok s)
    (hn : r.names.Nodup) {name : String} (hr : ∀ d, r.get? name = some d → d = .null) :
    s.get? name = none := by
  rw [get?_putAll_of_absent (ofRecord_eq_ok h)]
  · rfl
  · rintro ⟨key, d⟩ he rfl
    exact hr d ((Record.get?_eq_some_iff hn).2 he)

/-- Every entry of such a set was given. -/
theorem given_of_ofRecord {s : ClaimSet} {r : Record Datum} (h : ofRecord r = .ok s)
    (hn : r.names.Nodup) {name : String} {v : ClaimValue} (hs : s.get? name = some v) :
    ∃ d, r.get? name = some d ∧ ClaimValue.ofDatum? d = some v := by
  by_cases hr : ∀ d, r.get? name = some d → d = .null
  · rw [get?_ofRecord_of_absent h hn hr] at hs
    cases hs
  · obtain ⟨d, hd⟩ := Classical.not_forall.1 hr
    obtain ⟨hget, hne⟩ := Classical.not_imp.1 hd
    obtain ⟨w, hw, hsw⟩ := get?_ofRecord_of_given h hn hget hne
    rw [hs] at hsw
    exact ⟨d, hget, hsw ▸ hw⟩

/-- **A set holds the claims that it was made of, in their order, and leaves out what is null.**  The
values may be looked at in any way that is known for those that enter. -/
theorem map_putAll {α : Type} {f : ClaimValue → α} {g : Datum → α}
    (hfg : ∀ d v, ClaimValue.ofDatum? d = some v → f v = g d) {s t : ClaimSet} {r : Record Datum}
    (hn : r.names.Nodup) (hs : ∀ name ∈ r.names, name ∉ s.names) (h : s.putAll r = (t, none)) :
    t.entries.map (fun e => (e.1, f e.2)) =
      s.entries.map (fun e => (e.1, f e.2)) ++ r.nonNull.map fun e => (e.1, g e.2) := by
  induction r generalizing s with
  | nil =>
    cases h
    exact (List.append_nil _).symm
  | cons first rest ih =>
    obtain ⟨name, d⟩ := first
    obtain ⟨hname, hrest⟩ := List.nodup_cons.1 hn
    obtain ⟨hnew, hnews⟩ := List.forall_mem_cons.1 hs
    rcases putAll_cons_eq_ok h with ⟨rfl, h⟩ | ⟨u, hu, h⟩
    · exact ih hrest hnews h
    · obtain ⟨v, hv, hue⟩ := put_eq_ok hu
      rw [Record.set_of_notMem v hnew] at hue
      have hothers : ∀ other ∈ Record.names rest, other ∉ u.names := by
        intro other hother hm
        rw [names, hue, Record.names_append, List.mem_append] at hm
        rcases hm with hm | hm
        · exact hnews other hother hm
        · exact hname (List.mem_singleton.1 hm ▸ hother)
      have hkept : Record.nonNull ((name, d) :: rest) = (name, d) :: Record.nonNull rest :=
        Record.nonNull_of_ne (Datum.isNull_eq_false_iff.1 (ClaimValue.isNull_of_ofDatum? hv)) rest
      rw [ih hrest hothers h, hue, hkept, List.map_append, List.append_assoc, List.map_cons,
        List.map_cons]
      dsimp only
      rw [hfg d v hv]
      rfl

theorem map_ofRecord {α : Type} {f : ClaimValue → α} {g : Datum → α}
    (hfg : ∀ d v, ClaimValue.ofDatum? d = some v → f v = g d) {s : ClaimSet} {r : Record Datum}
    (hn : r.names.Nodup) (h : ofRecord r = .ok s) :
    s.entries.map (fun e => (e.1, f e.2)) = r.nonNull.map fun e => (e.1, g e.2) :=
  map_putAll hfg hn (fun _ _ => List.not_mem_nil) (ofRecord_eq_ok h)

/-! ### What can enter a set -/

/-- A claim that can be written: it has a name, and a value that claims have. -/
def Enterable (e : String × Datum) : Prop := e.1 ≠ "" ∧ ∃ v, ClaimValue.ofDatum? e.2 = some v

theorem exists_put_iff {s : ClaimSet} {name : String} {d : Datum} :
    (∃ t, s.put name d = .ok t) ↔ Enterable (name, d) := by
  constructor
  · rintro ⟨t, h⟩
    obtain ⟨v, hv, -⟩ := put_eq_ok h
    refine ⟨?_, v, hv⟩
    rintro rfl
    rw [put, dif_pos rfl] at h
    cases h
  · rintro ⟨hne, v, hv⟩
    exact ⟨s.write name v hne, by rw [put, dif_neg hne, hv]⟩

theorem put_eq_error {s : ClaimSet} {name : String} {d : Datum} {f : Failure}
    (h : s.put name d = .error f) : f = .claimName ∨ f = .claimKind name d.kind := by
  rw [put] at h
  split at h
  · cases h
    exact .inl rfl
  split at h
  · cases h
  · cases h
    exact .inr rfl

/-- Writing goes through to the end exactly if every claim that is not null can be written. -/
theorem exists_putAll_iff {s : ClaimSet} {r : Record Datum} :
    (∃ t, s.putAll r = (t, none)) ↔ ∀ e ∈ r, e.2 ≠ .null → Enterable e := by
  induction r generalizing s with
  | nil => exact ⟨fun _ e he => (nomatch he), fun _ => ⟨s, rfl⟩⟩
  | cons first rest ih =>
    obtain ⟨name, d⟩ := first
    rw [List.forall_mem_cons]
    by_cases hd : d = .null
    · subst hd
      rw [putAll, ih]
      exact ⟨fun h => ⟨fun hne => absurd rfl hne, h⟩, And.right⟩
    constructor
    · rintro ⟨t, h⟩
      rcases putAll_cons_eq_ok h with ⟨he, -⟩ | ⟨u, hu, h⟩
      · exact absurd he hd
      · exact ⟨fun _ => exists_put_iff.1 ⟨u, hu⟩, ih.1 ⟨t, h⟩⟩
    · rintro ⟨hfirst, hrest⟩
      obtain ⟨u, hu⟩ := exists_put_iff.2 (hfirst hd)
      obtain ⟨t, ht⟩ := ih.2 hrest
      refine ⟨t, ?_⟩
      rw [putAll, hu]
      · exact ht
      · exact hd

theorem putAll_eq_error {s t : ClaimSet} {r : Record Datum} {f : Failure}
    (h : s.putAll r = (t, some f)) : f = .claimName ∨ ∃ name kind, f = .claimKind name kind := by
  induction r generalizing s with
  | nil => cases h
  | cons first rest ih =>
    obtain ⟨name, d⟩ := first
    by_cases hd : d = .null
    · subst hd
      exact ih h
    · rw [putAll] at h
      · split at h
        · exact ih h
        · next f' hput =>
          cases h
          exact (put_eq_error hput).imp_right fun he => ⟨name, d.kind, he⟩
      · exact hd

/-- Claims make up a set exactly if each of them is null or can be written. -/
theorem exists_ofRecord_iff {r : Record Datum} :
    (∃ s, ofRecord r = .ok s) ↔ ∀ e ∈ r, e.2 ≠ .null → Enterable e := by
  rw [← exists_putAll_iff (s := empty)]
  constructor
  · rintro ⟨s, h⟩
    exact ⟨s, ofRecord_eq_ok h⟩
  · rintro ⟨s, h⟩
    exact ⟨s, by rw [ofRecord, h]⟩

theorem ofRecord_eq_error {r : Record Datum} {f : Failure} (h : ofRecord r = .error f) :
    f = .claimName ∨ ∃ name kind, f = .claimKind name kind := by
  rw [ofRecord] at h
  split at h
  · cases h
  · next he =>
    cases h
    exact putAll_eq_error he

end ClaimSet

end TokenGate
