/-
Calls to a claim set.

A set is made of given claims and written to, in any order, with any values, and a call that fails does
not keep the next one from being made.  `calls_represented` is the main result, for any number of calls.

* The set is one mapping: names that are distinct and not empty, each with a text, a truth value, a
  number or a tuple of texts.  Whatever is asked of the set is answered from it (`Describes`).
* The mapping is what has been written since the set was last made: each name stands where it was first
  written, with the value that was written last (`Collects`).
* `Puts`, `PutsAll` and `Makes` say what one more call does.  Claims are imported one by one, nulls left
  out, up to the first one that stops the import, which so leaves what the claims before that one leave.
* What the set carries into a token makes the same set again.

One call extends what has been written (`mapping_step`), and the run follows by induction
(`mapping_after`).  `exists_after_iff` is the converse of the first point: every such mapping can be
reached, so that nothing more can be said of all sets.

Names and texts are made of characters, and a name is always a text.
-/
import TokenGate.Proofs.ClaimSet

namespace TokenGate

/-! ### Values -/

/-- A value that sets keep. -/
inductive Datum.Held : Datum → Prop
  | text (s : String) : Held (.text s)
  | bool (b : Bool) : Held (.bool b)
  | int (n : Int) : Held (.int n)
  | float (x : Binary64) : Held (.float x)
  | texts (ss : List String) : Held (.tuple (ss.map .text))

namespace Datum.Held

variable {d : Datum}

theorem ne_null (h : d.Held) : d ≠ .null := by
  rintro rfl
  cases h

/-- What is kept stays as it is. -/
theorem kept_eq (h : d.Held) : d.kept = d := by
  cases h with
  | _ => rfl

end Datum.Held

namespace ClaimValue

theorem held_toDatum (v : ClaimValue) : v.toDatum.Held := by
  cases v with
  | text s => exact .text s
  | bool b => exact .bool b
  | int n => exact .int n
  | float x => exact .float x
  | texts ss => exact .texts ss

/-- A value enters a set exactly if what would be kept of it is a value that sets keep. -/
theorem exists_ofDatum?_iff {d : Datum} : (∃ v, ofDatum? d = some v) ↔ d.kept.Held := by
  constructor
  · rintro ⟨v, hv⟩
    rw [← (forms_of_ofDatum? hv).1]
    exact v.held_toDatum
  · intro h
    have htexts : ∀ items : List Datum, (Datum.tuple items).Held →
        ∃ v, (items.mapM Datum.text?).map ClaimValue.texts = some v := by
      intro items h
      cases h with
      | texts ss =>
        rw [mapM_text?_texts]
        exact ⟨.texts ss, rfl⟩
    cases d with
    | list items => exact htexts items h
    | tuple items => exact htexts items h
    | set items => exact htexts items h
    | text s => exact ⟨.text s, rfl⟩
    | bool b => exact ⟨.bool b, rfl⟩
    | int n => exact ⟨.int n, rfl⟩
    | float x => exact ⟨.float x, rfl⟩
    | null => cases h
    | bytes value => cases h
    | dict members => cases h

/-- What was kept of a value is carried as the value would be. -/
theorem payload_eq_carried (v : ClaimValue) : v.payload = v.toDatum.carried := by
  cases v with
  | _ => rfl

end ClaimValue

namespace ClaimSet

variable {s t : ClaimSet} {name : String} {value : Datum} {claims : Record Datum} {f : Failure}

/-! ### One mapping -/

/-- The mapping that a set is: the values as they are kept, under their names and in their order. -/
def mapping (s : ClaimSet) : Record Datum := s.entries.map fun e => (e.1, e.2.toDatum)

/-- The names of the mapping are distinct and not empty, its values are values that sets keep, and
whatever is asked of the set is answered from it. -/
structure Describes (s : ClaimSet) (d : Record Datum) : Prop where
  distinct : d.names.Nodup
  named : "" ∉ d.names
  held : ∀ e ∈ d, e.2.Held
  contains : ∀ name, s.contains name = true ↔ name ∈ d.names
  size : s.size = d.length
  names : s.names = d.names
  value : ∀ name default,
    (s.get? name).elim default ClaimValue.toDatum = (d.get? name).getD default
  payload : s.payload = d.map fun e => (e.1, e.2.carried)

theorem names_mapping (s : ClaimSet) : s.mapping.names = s.names := Record.names_mapValues _ _

theorem mapping_write (s : ClaimSet) (v : ClaimValue) (h : name ≠ "") :
    (s.write name v h).mapping = s.mapping.set name v.toDatum :=
  Record.set_mapValues ClaimValue.toDatum s.entries name v

theorem describes_mapping (s : ClaimSet) : s.Describes s.mapping where
  distinct := by
    rw [names_mapping]
    exact s.distinct
  named := by
    rw [names_mapping]
    exact s.named
  held := fun e he => by
    obtain ⟨entry, -, rfl⟩ := List.mem_map.1 he
    exact entry.2.held_toDatum
  contains := fun name => by
    rw [names_mapping]
    exact contains_iff
  size := (List.length_map _).symm
  names := s.names_mapping.symm
  value := fun name default => by
    rw [mapping, Record.get?_mapValues, get?]
    cases s.entries.get? name with
    | none => rfl
    | some v => rfl
  payload := by
    rw [ClaimSet.payload, mapping, List.map_map]
    exact List.map_congr_left fun e _ => congrArg (Prod.mk e.1) e.2.payload_eq_carried

/-! ### Writing one claim -/

/-- What writing one claim does to a set, and what it ends with. -/
inductive Puts (s : ClaimSet) : String → Datum → ClaimSet × Option Failure → Prop
  | unnamed (value : Datum) : Puts s "" value (s, some .claimName)
  | refused {name : String} {value : Datum} (named : name ≠ "") (unfit : ¬value.kept.Held) :
      Puts s name value (s, some (.claimKind name value.kind))
  | replaced {name : String} {value old : Datum} {before rest : Record Datum} {t : ClaimSet}
      (named : name ≠ "") (fit : value.kept.Held)
      (stood : s.mapping = before ++ (name, old) :: rest)
      (stands : t.mapping = before ++ (name, value.kept) :: rest) : Puts s name value (t, none)
  | added {name : String} {value : Datum} {t : ClaimSet} (named : name ≠ "") (fit : value.kept.Held)
      (new : name ∉ s.names) (stands : t.mapping = s.mapping ++ [(name, value.kept)]) :
      Puts s name value (t, none)

theorem put_of_held (s : ClaimSet) (hn : name ≠ "") (hd : value.kept.Held) :
    ∃ t, s.put name value = .ok t ∧ t.mapping = s.mapping.set name value.kept := by
  obtain ⟨v, hv⟩ := ClaimValue.exists_ofDatum?_iff.2 hd
  refine ⟨s.write name v hn, by rw [put, dif_neg hn, hv], ?_⟩
  rw [mapping_write, (ClaimValue.forms_of_ofDatum? hv).1]

theorem put_of_not_held (s : ClaimSet) (hn : name ≠ "") (hd : ¬value.kept.Held) :
    s.put name value = .error (.claimKind name value.kind) := by
  have hnone : ClaimValue.ofDatum? value = none :=
    Option.eq_none_iff_forall_ne_some.2 fun v hv => hd (ClaimValue.exists_ofDatum?_iff.1 ⟨v, hv⟩)
  rw [put, dif_neg hn, hnone]

theorem step_put_of_ok (h : s.put name value = .ok t) : s.step (.put name value) = (t, none) := by
  rw [step, h]

theorem step_put_of_error (h : s.put name value = .error f) :
    s.step (.put name value) = (s, some f) := by
  rw [step, h]

theorem puts_step (s : ClaimSet) (name : String) (value : Datum) :
    Puts s name value (s.step (.put name value)) := by
  by_cases hn : name = ""
  · subst hn
    rw [step_put_of_error (show s.put "" value = .error .claimName from dif_pos rfl)]
    exact .unnamed value
  by_cases hd : value.kept.Held
  · obtain ⟨t, ht, hmapping⟩ := put_of_held s hn hd
    rw [step_put_of_ok ht]
    by_cases hin : name ∈ s.names
    · rw [← names_mapping] at hin
      obtain ⟨before, old, rest, hstood, hbefore⟩ := Record.exists_append_cons hin
      refine .replaced hn hd hstood ?_
      rw [hmapping, hstood, Record.set_append_cons hbefore]
    · refine .added hn hd hin ?_
      rw [hmapping, Record.set_of_notMem]
      rwa [names_mapping]
  · rw [step_put_of_error (put_of_not_held s hn hd)]
    exact .refused hn hd

/-! ### Writing many claims -/

/-- The claim stops an import: it is not null, and has no name or no value that sets keep. -/
def Stops (e : String × Datum) : Prop := e.2 ≠ .null ∧ (e.1 = "" ∨ ¬e.2.kept.Held)

theorem not_stops_null (name : String) : ¬Stops (name, .null) := fun h => h.1 rfl

theorem not_stops_iff {e : String × Datum} : ¬Stops e ↔ (e.2 ≠ .null → Enterable e) := by
  rw [Stops, Enterable, ClaimValue.exists_ofDatum?_iff, not_and, not_or, Classical.not_not]

instance : DecidablePred Stops := fun e =>
  decidable_of_iff (e.2.isNull = false ∧ (e.1 = "" ∨ ClaimValue.ofDatum? e.2 = none)) <| by
    rw [Stops, ← ClaimValue.exists_ofDatum?_iff, Datum.isNull_eq_false_iff,
      ← Option.isSome_iff_exists, Option.not_isSome_iff_eq_none]

/-- Writing the claims one after the other, nulls left out. -/
def oneByOne (claims : Record Datum) : List Call := claims.nonNull.map fun e => .put e.1 e.2

/-- What writing many claims does to a set, and what it ends with.  They are written one after the
other; or else one of them stops the import, and what the claims before it leave is left. -/
inductive PutsAll (s : ClaimSet) : Record Datum → ClaimSet × Option Failure → Prop
  | whole {claims : Record Datum} (free : ∀ e ∈ claims, ¬Stops e) :
      PutsAll s claims (s.after (oneByOne claims), none)
  | stopped {before rest : Record Datum} {name : String} {value : Datum} {t : ClaimSet} {f : Failure}
      (free : ∀ e ∈ before, ¬Stops e) (stops : Stops (name, value))
      (left : s.step (.putAll before) = (t, none)) (fails : t.step (.put name value) = (t, some f)) :
      PutsAll s (before ++ (name, value) :: rest) (t, some f)

theorem step_putAll (s : ClaimSet) (claims : Record Datum) :
    s.step (.putAll claims) = s.putAll claims := rfl

theorem after_cons (s : ClaimSet) (call : Call) (rest : List Call) :
    s.after (call :: rest) = (s.step call).1.after rest := rfl

theorem putAll_null (s : ClaimSet) (name : String) (rest : Record Datum) :
    s.putAll ((name, .null) :: rest) = s.putAll rest := rfl

theorem putAll_of_ok (hd : value ≠ .null) (h : s.put name value = .ok t) (rest : Record Datum) :
    s.putAll ((name, value) :: rest) = t.putAll rest := by
  rw [putAll, h]
  exact hd

theorem putAll_of_error (hd : value ≠ .null) (h : s.put name value = .error f)
    (rest : Record Datum) : s.putAll ((name, value) :: rest) = (s, some f) := by
  rw [putAll, h]
  exact hd

theorem oneByOne_null (name : String) (rest : Record Datum) :
    oneByOne ((name, .null) :: rest) = oneByOne rest := rfl

theorem oneByOne_of_ne (hd : value ≠ .null) (name : String) (rest : Record Datum) :
    oneByOne ((name, value) :: rest) = .put name value :: oneByOne rest := by
  rw [oneByOne, Record.nonNull_of_ne hd]
  rfl

theorem put_of_stops (s : ClaimSet) (h : Stops (name, value)) :
    ∃ f, s.put name value = .error f := by
  by_cases hn : name = ""
  · exact ⟨.claimName, dif_pos hn⟩
  · exact ⟨_, put_of_not_held s hn (h.2.resolve_left hn)⟩

theorem put_of_not_stops (s : ClaimSet) (hd : value ≠ .null) (h : ¬Stops (name, value)) :
    ∃ t, s.put name value = .ok t ∧ t.mapping = s.mapping.set name value.kept := by
  obtain ⟨hn, hheld⟩ := not_or.1 fun hor => h ⟨hd, hor⟩
  exact put_of_held s hn (Classical.not_not.1 hheld)

/-- With a claim in front that does not stop it, an import is one of the rest to another set. -/
theorem PutsAll.cons {u : ClaimSet} {e : String × Datum} {outcome : ClaimSet × Option Failure}
    (he : ¬Stops e) (hputAll : ∀ rest, s.putAll (e :: rest) = u.putAll rest)
    (hafter : ∀ rest, s.after (oneByOne (e :: rest)) = u.after (oneByOne rest))
    (h : PutsAll u claims outcome) : PutsAll s (e :: claims) outcome := by
  cases h with
  | whole free =>
    rw [← hafter]
    exact .whole (List.forall_mem_cons.2 ⟨he, free⟩)
  | stopped free stops left fails =>
    rw [← List.cons_append]
    exact .stopped (List.forall_mem_cons.2 ⟨he, free⟩) stops ((hputAll _).trans left) fails

theorem putsAll_step (s : ClaimSet) (claims : Record Datum) :
    PutsAll s claims (s.step (.putAll claims)) := by
  rw [step_putAll]
  induction claims generalizing s with
  | nil => exact .whole fun _ he => nomatch he
  | cons first rest ih =>
    obtain ⟨name, value⟩ := first
    by_cases hd : value = .null
    · subst hd
      rw [putAll_null]
      exact (ih s).cons (not_stops_null name) (putAll_null s name) fun rest => by
        rw [oneByOne_null]
    by_cases hstops : Stops (name, value)
    · obtain ⟨f, hf⟩ := put_of_stops s hstops
      rw [putAll_of_error hd hf, ← List.nil_append ((name, value) :: rest)]
      exact .stopped (fun _ he => nomatch he) hstops rfl (step_put_of_error hf)
    · obtain ⟨t, ht, -⟩ := put_of_not_stops s hd hstops
      rw [putAll_of_ok hd ht]
      exact (ih t).cons hstops (putAll_of_ok hd ht) fun rest => by
        rw [oneByOne_of_ne hd, after_cons, step_put_of_ok ht]

/-- Nulls are left out. -/
theorem putAll_nonNull (s : ClaimSet) (claims : Record Datum) :
    s.putAll claims.nonNull = s.putAll claims := by
  induction claims generalizing s with
  | nil => rfl
  | cons first rest ih =>
    obtain ⟨name, value⟩ := first
    by_cases hd : value = .null
    · subst hd
      rw [putAll_null, ← ih]
      rfl
    · rw [Record.nonNull_of_ne hd]
      rcases h : s.put name value with f | t
      · rw [putAll_of_error hd h, putAll_of_error hd h]
      · rw [putAll_of_ok hd h, putAll_of_ok hd h, ih]

/-! ### Making a set -/

/-- What making a set does, and what it ends with.  The claims are written to the empty set; if one of
them stops this, the former set stays. -/
inductive Makes (s : ClaimSet) (claims : Record Datum) : ClaimSet × Option Failure → Prop
  | made {t : ClaimSet} (whole : empty.step (.putAll claims) = (t, none)) : Makes s claims (t, none)
  | failed {t : ClaimSet} {f : Failure} (stopped : empty.step (.putAll claims) = (t, some f)) :
      Makes s claims (s, some f)

theorem makes_step (s : ClaimSet) (claims : Record Datum) :
    Makes s claims (s.step (.make claims)) := by
  rcases h : empty.putAll claims with ⟨t, - | f⟩
  · rw [step, ofRecord, h]
    exact .made h
  · rw [step, ofRecord, h]
    exact .failed h

/-! ### What has been written -/

/-- What an import writes: the claims before the first one that stops it, nulls left out, with what is
kept of their values. -/
def entered (claims : Record Datum) : Record Datum :=
  (Record.nonNull (claims.takeWhile fun e => ¬Stops e)).map fun e => (e.1, e.2.kept)

/-- What has been written to the present set, after one more call. -/
def Call.extend (past : Record Datum) : Call → Record Datum
  | .make claims => if ∃ e ∈ claims, Stops e then past else entered claims
  | .put name value => past ++ entered [(name, value)]
  | .putAll claims => past ++ entered claims

/-- What has been written to the present set. -/
def written (calls : List Call) : Record Datum := calls.foldl Call.extend []

theorem entered_null (name : String) (rest : Record Datum) :
    entered ((name, .null) :: rest) = entered rest := by
  rw [entered, List.takeWhile_cons, if_pos (decide_eq_true (not_stops_null name))]
  rfl

theorem entered_of_stops {e : String × Datum} (h : Stops e) (rest : Record Datum) :
    entered (e :: rest) = [] := by
  rw [entered, List.takeWhile_cons, if_neg]
  · rfl
  · exact fun hnot => of_decide_eq_true hnot h

theorem entered_of_not_stops (hd : value ≠ .null) (h : ¬Stops (name, value)) (rest : Record Datum) :
    entered ((name, value) :: rest) = (name, value.kept) :: entered rest := by
  rw [entered, List.takeWhile_cons, if_pos (decide_eq_true h), Record.nonNull_of_ne hd]
  rfl

/-- **An import writes what it can**, over what is there. -/
theorem mapping_putAll (s : ClaimSet) (claims : Record Datum) :
    (s.putAll claims).1.mapping = s.mapping.overwrite (entered claims) := by
  induction claims generalizing s with
  | nil => rfl
  | cons first rest ih =>
    obtain ⟨name, value⟩ := first
    by_cases hd : value = .null
    · subst hd
      rw [putAll_null, entered_null, ih]
    by_cases hstops : Stops (name, value)
    · obtain ⟨f, hf⟩ := put_of_stops s hstops
      rw [putAll_of_error hd hf, entered_of_stops hstops]
      rfl
    · obtain ⟨t, ht, hmapping⟩ := put_of_not_stops s hd hstops
      rw [putAll_of_ok hd ht, entered_of_not_stops hd hstops, ih, hmapping, Record.overwrite_cons]

/-- Writing one claim leaves what an import of that claim does. -/
theorem step_put_fst (s : ClaimSet) (name : String) (value : Datum) :
    (s.step (.put name value)).1 = (s.putAll [(name, value)]).1 := by
  rcases h : s.put name value with f | t
  · rw [step_put_of_error h]
    by_cases hd : value = .null
    · subst hd
      rfl
    · rw [putAll_of_error hd h]
  · rw [step_put_of_ok h, putAll_of_ok _ h]
    · rfl
    · rintro rfl
      obtain ⟨v, hv, -⟩ := put_eq_ok h
      cases hv

theorem exists_ofRecord_iff_free {claims : Record Datum} :
    (∃ t, ofRecord claims = .ok t) ↔ ¬∃ e ∈ claims, Stops e := by
  simp only [exists_ofRecord_iff, ← not_stops_iff, not_exists, not_and]

/-- **A call extends what has been written.** -/
theorem mapping_step {past : Record Datum} (h : s.mapping = Record.ofPairs past) (call : Call) :
    (s.step call).1.mapping = Record.ofPairs (call.extend past) := by
  have hwrite : ∀ claims : Record Datum,
      (s.putAll claims).1.mapping = Record.ofPairs (past ++ entered claims) := fun claims => by
    rw [mapping_putAll, h]
    exact (Record.overwrite_append [] past (entered claims)).symm
  cases call with
  | make claims =>
    rw [Call.extend]
    rcases hmade : ofRecord claims with f | t
    · rw [step, hmade, if_pos]
      · exact h
      · by_contra hfree
        obtain ⟨t, ht⟩ := exists_ofRecord_iff_free.2 hfree
        cases hmade.symm.trans ht
    · rw [step, hmade, if_neg (exists_ofRecord_iff_free.1 ⟨t, hmade⟩)]
      have hempty := mapping_putAll empty claims
      rw [ofRecord_eq_ok hmade] at hempty
      exact hempty
  | put name value =>
    rw [step_put_fst]
    exact hwrite [(name, value)]
  | putAll claims => exact hwrite claims

/-- **The mapping is what has been written**, after any calls. -/
theorem mapping_after (calls : List Call) :
    (empty.after calls).mapping = Record.ofPairs (written calls) := by
  suffices h : ∀ {s : ClaimSet} {past : Record Datum}, s.mapping = Record.ofPairs past →
      (s.after calls).mapping = Record.ofPairs (calls.foldl Call.extend past) from h rfl
  induction calls with
  | nil => exact fun h => h
  | cons call rest ih =>
    intro s past h
    rw [after_cons, List.foldl_cons]
    exact ih (mapping_step h call)

theorem not_stops_of_held {e : String × Datum} (hn : e.1 ≠ "") (h : e.2.Held) : ¬Stops e := by
  rintro ⟨-, hname | hnot⟩
  · exact hn hname
  · rw [h.kept_eq] at hnot
    exact hnot h

/-- What a set keeps is written as it is. -/
theorem entered_of_held {d : Record Datum} (hn : "" ∉ d.names) (h : ∀ e ∈ d, e.2.Held) :
    entered d = d := by
  induction d with
  | nil => rfl
  | cons first rest ih =>
    obtain ⟨name, value⟩ := first
    obtain ⟨hfirst, hrest⟩ := List.forall_mem_cons.1 h
    obtain ⟨hname, hnames⟩ := not_or.1 (mt List.mem_cons.2 hn)
    rw [entered_of_not_stops hfirst.ne_null (not_stops_of_held (Ne.symm hname) hfirst),
      hfirst.kept_eq, ih hnames hrest]

/-- The mappings that sets can be are those with distinct names that are not empty and with values that
sets keep. -/
theorem exists_after_iff {d : Record Datum} :
    (∃ calls, (empty.after calls).mapping = d) ↔
      d.names.Nodup ∧ "" ∉ d.names ∧ ∀ e ∈ d, e.2.Held := by
  constructor
  · rintro ⟨calls, rfl⟩
    have h := describes_mapping (empty.after calls)
    exact ⟨h.distinct, h.named, h.held⟩
  · rintro ⟨hdistinct, hnamed, hheld⟩
    refine ⟨[.make d], ?_⟩
    have hfree : ¬∃ e ∈ d, Stops e := by
      rintro ⟨e, he, hstops⟩
      exact not_stops_of_held (fun hname => hnamed (hname ▸ Record.mem_names_of_mem he)) (hheld e he)
        hstops
    rw [mapping_after, written, List.foldl_cons, List.foldl_nil, Call.extend, if_neg hfree,
      entered_of_held hnamed hheld, Record.ofPairs_eq hdistinct]

/-- **A set is one mapping, which is what has been written**, after any calls. -/
theorem calls_represented (calls : List Call) :
    let s := empty.after calls
    s.Describes s.mapping ∧ s.mapping.Collects (written calls) ∧
      (∀ name value, Puts s name value (s.step (.put name value))) ∧
      (∀ claims, PutsAll s claims (s.step (.putAll claims))) ∧
      (∀ claims, Makes s claims (s.step (.make claims))) ∧
      (∀ name, (s.step (.put name .null)).1 = s) ∧
      (∀ claims : Record Datum, s.step (.putAll claims.nonNull) = s.step (.putAll claims) ∧
        s.step (.make claims.nonNull) = s.step (.make claims)) ∧
      ∀ t : ClaimSet, t.step (.make s.payload) = (s, none) := by
  intro s
  refine ⟨describes_mapping s, ?_, puts_step s, putsAll_step s, makes_step s, fun name => ?_,
    fun claims => ⟨putAll_nonNull s claims, ?_⟩, fun t => ?_⟩
  · show (empty.after calls).mapping.Collects (written calls)
    rw [mapping_after]
    exact Record.collects_ofPairs (written calls)
  · rw [step_put_fst, putAll_null]
    rfl
  · rw [step, step, ofRecord, ofRecord, putAll_nonNull]
  · rw [step, ofRecord_payload]

/-! ### The claims of the guest -/

/-- Calls for the guest.  The second set cannot be made, so that the first one stays, no claim is without
a name, and the import stops at a tuple that does not hold texts alone. -/
def guestCalls : List Call := [
  .make [(Claim.userId, .text "guest"), ("note", .null), (Claim.roles, .list [.text "reader"])],
  .make [(Claim.userId, .text "host"), ("level", .dict [])],
  .put "" (.text "host"),
  .put Claim.userId (.text "host"),
  .putAll [("level", .int 3), (Claim.roles, .null), ("scope", .tuple [.text "a", .int 1]),
    ("late", .bool true)]]

/-- The user was written twice and keeps its place, and what came after the tuple was not written. -/
theorem calls_represented_guest :
    let s := empty.after guestCalls
    written guestCalls = [(Claim.userId, .text "guest"), (Claim.roles, .tuple [.text "reader"]),
        (Claim.userId, .text "host"), ("level", .int 3)] ∧
      s.names = [Claim.userId, Claim.roles, "level"] ∧ s.size = 3 ∧
      s.mapping.get? Claim.userId = some (.text "host") ∧ s.contains "late" = false ∧
      s.step (.put Claim.userId .null) = (s, some (.claimKind Claim.userId .null)) ∧
      s.payload = [(Claim.userId, .text "host"), (Claim.roles, .list [.text "reader"]),
        ("level", .int 3)] ∧
      s.step (.make s.payload) = (s, none) := by
  intro s
  obtain ⟨hdescribes, hcollects, -, -, -, -, -, hmake⟩ := calls_represented guestCalls
  have hwritten : written guestCalls = [(Claim.userId, .text "guest"),
      (Claim.roles, .tuple [.text "reader"]), (Claim.userId, .text "host"), ("level", .int 3)] := rfl
  rw [hwritten] at hcollects
  refine ⟨hwritten, ?_, rfl, hcollects.value Claim.userId, rfl, rfl, rfl, hmake s⟩
  rw [hdescribes.names, firstOccurrences_iff.1 hcollects.names]
  decide

end ClaimSet

end TokenGate
