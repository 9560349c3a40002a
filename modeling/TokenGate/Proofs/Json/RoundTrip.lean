/-
Values in JSON documents, written and read back.

`Writable` are the values that a document keeps as they are: words, texts, integers that are not too
long, and lists and objects of such values, the names in an object distinct.  Floating-point numbers
are left out, and so is what only callers use.  `value_write` says that what was written for a
writable value is read as that value, and that what follows is left over.

The reader spends fuel and is told how deep it may go, so the statement for values (`value_write`)
quantifies over both, and over the text that follows.  Its induction is on `Writable`; lists and
objects are done for any items whose own documents are read back.
-/
import Mathlib.Data.List.Basic
import TokenGate.Proofs.Json.Scalar
import TokenGate.Proofs.Record

namespace TokenGate.Json

open Encoding

/-- A value that a document keeps, nested no deeper than given. -/
inductive Writable : Nat → Datum → Prop
  | null {depth} : Writable depth .null
  | bool {depth} (b : Bool) : Writable depth (.bool b)
  | int {depth} {n : Int} (h : Datum.unprintable n = false) : Writable depth (.int n)
  | text {depth} (s : String) : Writable depth (.text s)
  | list {depth} {items : List Datum} (h : ∀ d ∈ items, Writable depth d) :
      Writable (depth + 1) (.list items)
  | dict {depth} {members : Record Datum} (hn : members.names.Nodup)
      (h : ∀ e ∈ members, Writable depth e.2) : Writable (depth + 1) (.dict members)

/-! ### How documents start -/

/-- Reading a value can start here: no blank, and no end of a list. -/
def Starts (text : List Char) : Prop := ∃ c cs, text = c :: cs ∧ isBlank c = false ∧ c ≠ ']'

theorem skipBlanks_of_starts {text : List Char} (h : Starts text) : skipBlanks text = text := by
  obtain ⟨c, cs, rfl, hc, -⟩ := h
  rw [skipBlanks, List.dropWhile_cons_of_neg (by simp [hc])]

theorem Starts.append {text : List Char} (h : Starts text) (rest : List Char) :
    Starts (text ++ rest) := by
  obtain ⟨c, cs, rfl, hc⟩ := h
  exact ⟨c, cs ++ rest, rfl, hc⟩

theorem starts_of_isDigit {c : Char} {cs : List Char} (h : c.isDigit = true) :
    Starts (c :: cs) := by
  refine ⟨c, cs, rfl, ?_, ?_⟩
  · simp only [isBlank, Bool.or_eq_false_iff, beq_eq_false_iff_ne]
    refine ⟨⟨⟨?_, ?_⟩, ?_⟩, ?_⟩ <;> rintro rfl <;> exact absurd h (by decide)
  · rintro rfl
    exact absurd h (by decide)

/-- A number starts with a digit, or with a minus sign and a digit. -/
theorem starts_signed (negative : Bool) {d : Char} {ds : List Char} (h : d.isDigit = true) :
    Starts ((if negative then ['-'] else []) ++ d :: ds) := by
  cases negative with
  | true => exact ⟨'-', _, rfl, rfl, by decide⟩
  | false => exact starts_of_isDigit h

theorem exists_writeInt (n : Int) : ∃ d ds, d.isDigit = true ∧
    writeInt n = (if decide (n < 0) then ['-'] else []) ++ d :: ds := by
  obtain ⟨d, ds, hd⟩ := List.exists_cons_of_ne_nil (digits_toDigits n.natAbs).ne_nil
  refine ⟨d, ds, (digits_toDigits n.natAbs).isDigit d (hd ▸ List.mem_cons_self), ?_⟩
  rw [writeInt, hd]
  simp only [decide_eq_true_eq]

theorem starts_write {depth : Nat} {d : Datum} (h : Writable depth d) :
    Starts (write .compact d) := by
  cases h with
  | null => exact ⟨'n', _, rfl, rfl, by decide⟩
  | bool b => cases b with
    | false => exact ⟨'f', _, rfl, rfl, by decide⟩
    | true => exact ⟨'t', _, rfl, rfl, by decide⟩
  | @int _ n h =>
    obtain ⟨d, ds, hd, hw⟩ := exists_writeInt n
    rw [write, hw]
    exact starts_signed _ hd
  | text s => exact ⟨'"', _, rfl, rfl, by decide⟩
  | list h => exact ⟨'[', _, rfl, rfl, by decide⟩
  | dict hn h => exact ⟨'\x7b', _, rfl, rfl, by decide⟩

/-! ### One value -/

/-- The document of a value is read as another value, whatever follows. -/
def ReadsAs (depth : Nat) (d d' : Datum) : Prop :=
  ∀ fuel rest, 2 * (write .compact d).length ≤ fuel → EndsNumber rest →
    value Datum.digitLimit fuel depth (write .compact d ++ rest) = .ok (d', rest)

/-- The document of a value is read as the value, whatever follows. -/
def Reads (depth : Nat) (d : Datum) : Prop := ReadsAs depth d d

theorem endsNumber_comma (rest : List Char) : EndsNumber (',' :: rest) := by
  rintro c ⟨⟩
  decide

theorem endsNumber_bracket (rest : List Char) : EndsNumber (']' :: rest) := by
  rintro c ⟨⟩
  decide

theorem endsNumber_brace (rest : List Char) : EndsNumber (closeBrace :: rest) := by
  rintro c ⟨⟩
  decide

variable {limit fuel depth : Nat} {rest : List Char}

theorem value_word {text : List Char} {d : Datum} (h : word? text = some (d, rest))
    (hc : ∀ c ∈ text.head?, c ≠ '"' ∧ c ≠ openBrace ∧ c ≠ '[') :
    value limit (fuel + 1) depth text = .ok (d, rest) := by
  rcases text with - | ⟨c, cs⟩
  · cases h
  · obtain ⟨hq, hb, hl⟩ := hc c rfl
    cases depth <;> simp only [value, if_neg hq, if_neg hb, if_neg hl, h]

/-- A word is read as what it stands for. -/
theorem reads_word {d : Datum} {c : Char} {cs : List Char} (hw : write .compact d = c :: cs)
    (hc : c ≠ '"' ∧ c ≠ openBrace ∧ c ≠ '[')
    (h : ∀ rest, word? (c :: cs ++ rest) = some (d, rest)) : Reads depth d := by
  intro fuel rest hf hr
  rw [hw] at hf ⊢
  rw [List.length_cons] at hf
  obtain ⟨fuel, rfl⟩ : ∃ k, fuel = k + 1 := ⟨fuel - 1, by omega⟩
  apply value_word (h rest)
  rintro _ ⟨⟩
  exact hc

theorem value_number {text : List Char} (h : word? text = none)
    (hc : ∀ c ∈ text.head?, c ≠ '"' ∧ c ≠ openBrace ∧ c ≠ '[') (hne : text ≠ []) :
    value limit (fuel + 1) depth text = number limit text := by
  rcases text with - | ⟨c, cs⟩
  · exact absurd rfl hne
  · obtain ⟨hq, hb, hl⟩ := hc c rfl
    cases depth <;> simp only [value, if_neg hq, if_neg hb, if_neg hl, h]

theorem value_quote (text : List Char) : value limit (fuel + 1) depth ('"' :: text) =
    (string ('"' :: text)).map fun (s, rest) => (.text s, rest) := by
  cases depth <;> rfl

/-- No word starts with a digit. -/
theorem word?_digit {c : Char} {cs : List Char} (h : c.isDigit = true) : word? (c :: cs) = none := by
  have hne : ∀ x : Char, x.isDigit = false → x ≠ c := by
    rintro x hx rfl
    rw [h] at hx
    cases hx
  simp [word?, words, List.isPrefixOf?, hne]

/-- One word starts with a minus sign, but no digit follows there. -/
theorem word?_minus {c : Char} {cs : List Char} (h : c.isDigit = true) :
    word? ('-' :: c :: cs) = none := by
  have hne : 'I' ≠ c := by
    rintro rfl
    cases h
  simp [word?, words, List.isPrefixOf?, hne]

/-- Neither a text, nor an object, a list or a word starts like a number, so a number is read. -/
theorem value_signed (negative : Bool) {d : Char} {ds : List Char} (h : d.isDigit = true) :
    value limit (fuel + 1) depth ((if negative then ['-'] else []) ++ d :: ds) =
      number limit ((if negative then ['-'] else []) ++ d :: ds) := by
  cases negative with
  | true =>
    refine value_number (word?_minus h) ?_ (List.cons_ne_nil _ _)
    rintro c ⟨⟩
    decide
  | false =>
    refine value_number (word?_digit h) ?_ (List.cons_ne_nil _ _)
    rintro c ⟨⟩
    refine ⟨?_, ?_, ?_⟩ <;> rintro rfl <;> exact absurd h (by decide)

theorem reads_int {n : Int} (h : Datum.unprintable n = false) : Reads depth (.int n) := by
  intro fuel rest hf hr
  obtain ⟨d, ds, hd, hw⟩ := exists_writeInt n
  have hnumber := number_writeInt h hr
  rw [write, hw] at hf ⊢
  rw [hw, List.append_assoc, List.cons_append] at hnumber
  obtain ⟨fuel, rfl⟩ : ∃ k, fuel = k + 1 := by
    rw [List.length_append, List.length_cons] at hf
    exact ⟨fuel - 1, by omega⟩
  rw [List.append_assoc, List.cons_append, value_signed _ hd, hnumber]

/-! ### Items with separators -/

theorem writeItems_eq_map (layout : Layout) (items : List Datum) :
    writeItems layout items = items.map (write layout) := by
  induction items with
  | nil => rfl
  | cons first others ih => rw [writeItems, ih, List.map_cons]

/-- The document of a member. -/
def writeMember (layout : Layout) (e : String × Datum) : List Char :=
  writeText e.1 ++ layout.member ++ write layout e.2

theorem writeMembers_eq_map (layout : Layout) (members : Record Datum) :
    writeMembers layout members = members.map (writeMember layout) := by
  induction members with
  | nil => rfl
  | cons first others ih => rw [writeMembers, ih, List.map_cons, writeMember]

theorem joinWith_cons_cons (separator a b : List Char) (others : List (List Char)) :
    joinWith separator (a :: b :: others) = a ++ separator ++ joinWith separator (b :: others) :=
  rfl

/-- Joined items start as the first one does. -/
theorem starts_joinWith {a : List Char} (separator : List Char) (others : List (List Char))
    (h : Starts a) : Starts (joinWith separator (a :: others)) := by
  obtain ⟨c, cs, rfl, hc⟩ := h
  cases others with
  | nil => exact ⟨c, cs, rfl, hc⟩
  | cons b others => exact ⟨c, _, rfl, hc⟩

theorem skipBlanks_cons {c : Char} (hc : isBlank c = false) (rest : List Char) :
    skipBlanks (c :: rest) = c :: rest := by
  rw [skipBlanks, List.dropWhile_cons_of_neg (by simp [hc])]

/-! ### Lists -/

/-- A list ends after a value with a closing bracket. -/
theorem items_last {text : List Char} {first : Datum}
    (hv : value limit fuel depth text = .ok (first, ']' :: rest)) :
    items limit (fuel + 1) depth text = .ok ([first], rest) := by
  rw [items, hv]
  rfl

/-- A list goes on after a value with a comma. -/
theorem items_comma {text tail : List Char} {first : Datum} {others : List Datum}
    (hv : value limit fuel depth text = .ok (first, ',' :: tail))
    (ho : items limit fuel depth (skipBlanks tail) = .ok (others, rest)) :
    items limit (fuel + 1) depth text = .ok (first :: others, rest) := by
  rw [items, hv]
  simp only [skipBlanks_cons (show isBlank ',' = false from rfl), if_neg (show ',' ≠ ']' by decide),
    if_true, ho]
  rfl

theorem items_write {values : List Datum} (hne : values ≠ []) (hr : ∀ d ∈ values, Reads depth d)
    (hs : ∀ d ∈ values, Starts (write .compact d))
    (hf : 2 * (joinWith [','] (values.map (write .compact))).length < fuel) :
    items Datum.digitLimit fuel depth
        (joinWith [','] (values.map (write .compact)) ++ ']' :: rest) = .ok (values, rest) := by
  induction values generalizing fuel with
  | nil => exact absurd rfl hne
  | cons first others ih =>
    obtain ⟨hfirst, hothers⟩ := List.forall_mem_cons.1 hr
    obtain ⟨fuel, rfl⟩ : ∃ k, fuel = k + 1 := ⟨fuel - 1, by omega⟩
    rcases others with - | ⟨second, others⟩
    · exact items_last (hfirst fuel _ (Nat.le_of_lt_succ hf) (endsNumber_bracket rest))
    · have hsothers := (List.forall_mem_cons.1 hs).2
      have hstart : Starts (joinWith [','] ((second :: others).map (write .compact))) :=
        starts_joinWith _ _ (hsothers second List.mem_cons_self)
      rw [List.map_cons, List.map_cons, joinWith_cons_cons, ← List.map_cons] at hf ⊢
      simp only [List.length_append, List.length_singleton] at hf
      rw [List.append_assoc, List.append_assoc, List.singleton_append]
      refine items_comma (hfirst fuel _ (by omega) (endsNumber_comma _)) ?_
      -- no blank was written after the comma
      rw [skipBlanks_of_starts (hstart.append _)]
      exact ih (List.cons_ne_nil _ _) hothers hsothers (by omega)

/-! ### Objects -/

/-- An object ends after a member with a closing brace. -/
theorem members_last {name : String} {tail : List Char} {first : Datum}
    (hs : Starts tail)
    (hv : value limit fuel depth tail = .ok (first, closeBrace :: rest)) :
    members limit (fuel + 1) depth (writeText name ++ ':' :: tail) = .ok ([(name, first)], rest) := by
  have hskip := skipBlanks_of_starts hs
  rw [members, if_neg (by simp [writeText]), string_writeText]
  simp only [skipBlanks_cons (show isBlank ':' = false from rfl), if_true, hskip, hv]
  rfl

/-- An object goes on after a member with a comma. -/
theorem members_comma {name : String} {tail after : List Char} {first : Datum}
    {others : Record Datum} (hs : Starts tail)
    (hv : value limit fuel depth tail = .ok (first, ',' :: after))
    (ho : members limit fuel depth (skipBlanks after) = .ok (others, rest)) :
    members limit (fuel + 1) depth (writeText name ++ ':' :: tail) =
      .ok ((name, first) :: others, rest) := by
  have hskip := skipBlanks_of_starts hs
  rw [members, if_neg (by simp [writeText]), string_writeText]
  simp only [skipBlanks_cons (show isBlank ':' = false from rfl), if_true, hskip, hv,
    skipBlanks_cons (show isBlank ',' = false from rfl),
    if_neg (show ',' ≠ closeBrace by decide), ho]
  rfl

theorem starts_writeMember (e : String × Datum) : Starts (writeMember .compact e) :=
  ⟨'"', _, rfl, rfl, by decide⟩

theorem writeMember_append (name : String) (d : Datum) (rest : List Char) :
    writeMember .compact (name, d) ++ rest = writeText name ++ ':' :: (write .compact d ++ rest) := by
  rw [writeMember, List.append_assoc, List.append_assoc]
  rfl

theorem length_write_le_writeMember (name : String) (d : Datum) :
    (write .compact d).length ≤ (writeMember .compact (name, d)).length := by
  rw [writeMember, List.length_append]
  exact Nat.le_add_left _ _

/-- Members are read, each value as another one. -/
theorem members_write {pairs : Record Datum} {f : Datum → Datum} (hne : pairs ≠ [])
    (hr : ∀ e ∈ pairs, ReadsAs depth e.2 (f e.2)) (hs : ∀ e ∈ pairs, Starts (write .compact e.2))
    (hf : 2 * (joinWith [','] (pairs.map (writeMember .compact))).length < fuel) :
    members Datum.digitLimit fuel depth
        (joinWith [','] (pairs.map (writeMember .compact)) ++ closeBrace :: rest) =
      .ok (pairs.map fun e => (e.1, f e.2), rest) := by
  induction pairs generalizing fuel with
  | nil => exact absurd rfl hne
  | cons first others ih =>
    obtain ⟨hfirst, hothers⟩ := List.forall_mem_cons.1 hr
    obtain ⟨hsfirst, hsothers⟩ := List.forall_mem_cons.1 hs
    obtain ⟨fuel, rfl⟩ : ∃ k, fuel = k + 1 := ⟨fuel - 1, by omega⟩
    obtain ⟨name, d⟩ := first
    change ReadsAs depth d (f d) at hfirst
    have hle := length_write_le_writeMember name d
    rcases others with - | ⟨second, others⟩
    · rw [List.map_cons, List.map_nil, joinWith] at hf ⊢
      rw [writeMember_append]
      exact members_last (hsfirst.append _) (hfirst fuel _ (by omega) (endsNumber_brace rest))
    · have hstart : Starts (joinWith [','] ((second :: others).map (writeMember .compact))) :=
        starts_joinWith _ _ (starts_writeMember second)
      rw [List.map_cons, List.map_cons, joinWith_cons_cons, ← List.map_cons] at hf ⊢
      simp only [List.length_append, List.length_singleton] at hf
      rw [List.append_assoc, List.append_assoc, List.singleton_append, writeMember_append]
      refine members_comma (hsfirst.append _) (hfirst fuel _ (by omega) (endsNumber_comma _)) ?_
      rw [skipBlanks_of_starts (hstart.append _)]
      exact ih (List.cons_ne_nil _ _) hothers hsothers (by omega)

/-! ### All values -/

theorem value_bracket {text : List Char} (hs : Starts text) {values : List Datum}
    (hi : items limit fuel depth text = .ok (values, rest)) :
    value limit (fuel + 1) (depth + 1) ('[' :: text) = .ok (.list values, rest) := by
  have hskip := skipBlanks_of_starts hs
  obtain ⟨c, cs, rfl, -, hc⟩ := hs
  rw [value, if_neg (by decide), if_neg (by decide), if_pos rfl]
  simp only [hskip, List.head?_cons, Option.some.injEq, if_neg hc, hi]
  rfl

theorem value_brace {text : List Char} (hs : text.head? = some '"') {pairs : Record Datum}
    (hn : pairs.names.Nodup) (hm : members limit fuel depth text = .ok (pairs, rest)) :
    value limit (fuel + 1) (depth + 1) (openBrace :: text) = .ok (.dict pairs, rest) := by
  rcases text with - | ⟨c, cs⟩
  · cases hs
  · cases hs
    rw [value, if_neg (by decide), if_pos rfl]
    simp only [skipBlanks_cons (show isBlank '"' = false from rfl), List.head?_cons,
      Option.some.injEq, if_neg (show '"' ≠ closeBrace by decide), hm, Except.map,
      Record.ofPairs_eq hn]

/-- The document of an object is read as an object, if the documents of its values are read. -/
theorem readsAs_dict {pairs : Record Datum} {f : Datum → Datum} (hn : pairs.names.Nodup)
    (hr : ∀ e ∈ pairs, ReadsAs depth e.2 (f e.2)) (hs : ∀ e ∈ pairs, Starts (write .compact e.2)) :
    ReadsAs (depth + 1) (.dict pairs) (.dict (pairs.map fun e => (e.1, f e.2))) := by
  intro fuel rest hf hends
  rw [write, writeMembers_eq_map] at hf ⊢
  simp only [List.length_append, List.length_cons, List.length_nil] at hf
  obtain ⟨fuel, rfl⟩ : ∃ k, fuel = k + 1 := ⟨fuel - 1, by omega⟩
  rcases pairs with - | ⟨first, others⟩
  · rfl
  · rw [List.append_assoc, List.singleton_append, List.cons_append]
    refine value_brace (by cases others <;> rfl) ?_
      (members_write (List.cons_ne_nil _ _) hr hs ?_)
    · rwa [Record.names_mapValues]
    · change 2 * ((joinWith [','] ((first :: others).map (writeMember .compact))).length + 1 +
        (0 + 1)) ≤ _ at hf
      omega

/-- **A written value is read back**, with what follows it left over. -/
theorem value_write {d : Datum} (h : Writable depth d) : Reads depth d := by
  induction h with
  | null => exact reads_word rfl (by decide) fun rest => rfl
  | bool b =>
    cases b with
    | false => exact reads_word rfl (by decide) fun rest => rfl
    | true => exact reads_word rfl (by decide) fun rest => rfl
  | int h => exact reads_int h
  | text s =>
    intro fuel rest hf hr
    rw [write] at hf ⊢
    have hs := string_writeText s rest
    rw [writeText, List.cons_append, List.cons_append] at hs ⊢
    rw [writeText, List.length_append, List.length_cons] at hf
    obtain ⟨fuel, rfl⟩ : ∃ k, fuel = k + 1 := ⟨fuel - 1, by omega⟩
    rw [value_quote, hs]
    rfl
  | @list depth values h ih =>
    -- one unit of fuel is for the bracket, and two for each character of the items are left
    intro fuel rest hf hr
    rw [write, writeItems_eq_map] at hf ⊢
    simp only [List.length_append, List.length_cons, List.length_nil] at hf
    obtain ⟨fuel, rfl⟩ : ∃ k, fuel = k + 1 := ⟨fuel - 1, by omega⟩
    rcases values with - | ⟨first, others⟩
    · rfl
    · have hs : ∀ d ∈ first :: others, Starts (write .compact d) := fun d hd =>
        starts_write (h d hd)
      have hstart := starts_joinWith [','] (others.map (write .compact))
        (hs first List.mem_cons_self)
      rw [List.append_assoc, List.singleton_append, List.cons_append]
      refine value_bracket (hstart.append _) (items_write (List.cons_ne_nil _ _) ih hs ?_)
      change 2 * ((joinWith [','] ((first :: others).map (write .compact))).length + 1 + (0 + 1)) ≤ _
        at hf
      omega
  | @dict depth members hn h ih =>
    have hdict := readsAs_dict (f := fun d => d) hn ih fun e he => starts_write (h e he)
    rwa [List.map_id'] at hdict

end TokenGate.Json
