/-
Blank characters and trimming.

`isBlank` is the set of characters that separate words in Unicode, with the four ASCII information
separators; the zero-width space and the byte-order mark are not in it.  `trim` drops blanks from
both ends, and `trimEndChars` from the right end only.
-/

namespace TokenGate.Text

/-- Tab to carriage return, the information separators, space, and the blanks of Unicode. -/
def isBlank (c : Char) : Bool :=
  let n := c.toNat
  (0x09 ≤ n && n ≤ 0x0D) || (0x1C ≤ n && n ≤ 0x20) || n == 0x85 || n == 0xA0 || n == 0x1680 ||
    (0x2000 ≤ n && n ≤ 0x200A) || n == 0x2028 || n == 0x2029 || n == 0x202F || n == 0x205F ||
    n == 0x3000

/-- A list without the items at its end that satisfy `p`. -/
def dropEndWhile {α : Type} (p : α → Bool) (items : List α) : List α :=
  (items.reverse.dropWhile p).reverse

/-- A list of characters without the blanks at its end. -/
def trimEndChars (cs : List Char) : List Char := dropEndWhile isBlank cs

/-- A list of characters without the blanks at its two ends. -/
def trimChars (cs : List Char) : List Char := trimEndChars (cs.dropWhile isBlank)

/-- The text without the blanks at its two ends. -/
def trim (s : String) : String := String.ofList (trimChars s.toList)

/-- The text has no character but blanks. -/
def blank (s : String) : Bool := s.toList.all isBlank

/-! ### What trimming leaves -/

theorem dropWhile_eq_nil_iff {p : Char → Bool} {cs : List Char} :
    cs.dropWhile p = [] ↔ ∀ c ∈ cs, p c = true := by
  induction cs with
  | nil => simp
  | cons c cs ih => by_cases h : p c = true <;> simp [h, ih]

/-- Nothing is left of a text exactly when it holds blanks only. -/
theorem trimChars_eq_nil_iff {cs : List Char} :
    trimChars cs = [] ↔ ∀ c ∈ cs, isBlank c = true := by
  unfold trimChars trimEndChars dropEndWhile
  rw [List.reverse_eq_nil_iff, dropWhile_eq_nil_iff]
  constructor
  · intro h
    have hnil : cs.dropWhile isBlank = [] := by
      match hd : cs.dropWhile isBlank with
      | [] => rfl
      | c :: rest =>
        have hc : isBlank c = true := h c (by simp [hd])
        have hhead := List.head?_dropWhile_not isBlank cs
        rw [hd] at hhead
        simp [hc] at hhead
    exact dropWhile_eq_nil_iff.1 hnil
  · intro h c hc
    exact h c ((List.dropWhile_sublist isBlank).subset (List.mem_reverse.1 hc))

end TokenGate.Text
