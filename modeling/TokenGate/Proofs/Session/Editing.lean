/-
Calls to a builder.

A builder of a session is edited and built from, in any order, with any arguments, and a call that fails
does not keep the next one from being made.  `calls_atomic` is the main result, for any number of calls.

* A call that fails leaves all builders as they were, and so does building, whether it fails or not.  An
  edit fails exactly if its arguments make no change, whatever was called before, and `Edit.Makes` says
  which change they make.
* In the end each setting has the value of the last edit of it that did not fail (`Builder.LastWins`).
* The calls that fail can be left out.  Edits of different settings, one right after the other, can be
  swapped; if both write claims, then all that may differ is the order of the claims, and the members of
  the tokens stand in another order.

One call does to the session's builder what `Call.after` does to a builder (`get?_step_call`), and the
run follows by induction (`get?_after`).  The builder is the same in both cases, not only its tokens: it
builds the same at every clock and with every id.
-/
import TokenGate.Proofs.Token.Changes
import TokenGate.Session

namespace TokenGate

namespace Session

open Builder

/-! ### Calls -/

/-- A call to a builder: an edit, or building a token, which is stored under a name. -/
inductive Call where
  | edit (edit : Edit)
  | build (token : String)

/-- The call as a step of a session. -/
def Call.step (name : String) : Call → Step
  | edit e => .edit name e
  | build token => .build name token

/-- The change that a call makes, if it makes one. -/
def Call.change? : Call → Option Change
  | edit e => e.change?
  | build _ => none

/-- The builder after a call. -/
def Call.after (b : Builder) : Call → Builder
  | edit e => b.after e
  | build _ => b

/-- The failure that a call ends with. -/
def Answer.failure? : Answer → Option Failure
  | .failed f | .editFailed f _ => some f
  | _ => none

/-- The session after calls to the builder of a name. -/
def after (s : Session) (name : String) (calls : List Call) : Session :=
  (s.run (calls.map (Call.step name))).2

/-- The calls that do not fail when all of them are made. -/
def succeeding (s : Session) (name : String) : List Call → List Call
  | [] => []
  | call :: rest =>
    let next := s.step (call.step name)
    if next.1.failure?.isSome then next.2.succeeding name rest
    else call :: next.2.succeeding name rest

variable {s : Session} {name : String} {b : Builder}

/-! ### One call -/

theorem editBuilder_eq (hb : s.builders.get? name = some b) (e : Edit) :
    (s.editBuilder name e).2.builders = s.builders.set name (b.after e) ∧
      ((s.editBuilder name e).1.failure?.isSome = true ↔ e.change? = none) := by
  rw [Session.editBuilder, hb, Builder.after]
  dsimp only
  rcases hc : e.change? with - | c
  · obtain ⟨f, hf⟩ := edit_of_none b hc
    rw [hf]
    exact ⟨rfl, iff_of_true rfl rfl⟩
  · rw [edit_of_some b hc]
    exact ⟨rfl, iff_of_false Bool.false_ne_true (Option.some_ne_none c)⟩

theorem buildToken_builders (s : Session) (name token : String) :
    (s.buildToken name token).2.builders = s.builders := by
  rw [Session.buildToken]
  split
  · rfl
  · dsimp only
    split
    · rfl
    · rfl

/-- **A call does to the builder of the name what it does to a builder.** -/
theorem get?_step_call (hb : s.builders.get? name = some b) (call : Call) :
    (s.step (call.step name)).2.builders.get? name = some (call.after b) := by
  cases call with
  | edit e =>
    show (s.editBuilder name e).2.builders.get? name = some (b.after e)
    rw [(editBuilder_eq hb e).1, Record.get?_set_self]
  | build token =>
    show (s.buildToken name token).2.builders.get? name = some b
    rw [buildToken_builders, hb]

/-- **A call that fails leaves every builder as it was.** -/
theorem builders_of_failed {call : Call}
    (h : (s.step (call.step name)).1.failure?.isSome = true) :
    (s.step (call.step name)).2.builders = s.builders := by
  cases call with
  | build token => exact buildToken_builders s name token
  | edit e =>
    change (s.editBuilder name e).1.failure?.isSome = true at h
    show (s.editBuilder name e).2.builders = s.builders
    rcases hb : s.builders.get? name with - | b
    · rw [Session.editBuilder, hb]
    · -- the builder is stored again after the call, and it is the one that was there
      obtain ⟨hbuilders, hfails⟩ := editBuilder_eq hb e
      rw [hbuilders, after_eq, hfails.1 h, Option.elim_none, Record.set_get? hb]

/-- A call that fails makes no change. -/
theorem after_of_failed (hb : s.builders.get? name = some b) {call : Call}
    (h : (s.step (call.step name)).1.failure?.isSome = true) : call.after b = b := by
  have hget := get?_step_call hb call
  rw [builders_of_failed h, hb] at hget
  exact (Option.some.inj hget).symm

/-! ### Any number of calls -/

theorem after_cons (s : Session) (name : String) (call : Call) (rest : List Call) :
    s.after name (call :: rest) = (s.step (call.step name)).2.after name rest := rfl

/-- **Calls do to the builder of the name what they do to a builder**, one after the other. -/
theorem get?_after (hb : s.builders.get? name = some b) (calls : List Call) :
    (s.after name calls).builders.get? name = some (calls.foldl Call.after b) := by
  -- each call is made in the session and to the builder that the one before it left
  induction calls generalizing s b with
  | nil => exact hb
  | cons call rest ih =>
    rw [after_cons, List.foldl_cons]
    exact ih (get?_step_call hb call)

/-- Calls leave what their changes leave. -/
theorem foldl_after_eq (b : Builder) (calls : List Call) :
    calls.foldl Call.after b = (calls.filterMap Call.change?).foldl apply b := by
  induction calls generalizing b with
  | nil => rfl
  | cons call rest ih =>
    rw [List.foldl_cons, ih]
    cases call with
    | build token => rfl
    | edit e =>
      rw [Call.after, after_eq]
      rcases h : e.change? with - | c
      · rw [List.filterMap_cons_none (show (Call.edit e).change? = none from h)]
        rfl
      · rw [List.filterMap_cons_some (show (Call.edit e).change? = some c from h)]
        rfl

/-- The calls that fail can be left out. -/
theorem foldl_succeeding (hb : s.builders.get? name = some b) (calls : List Call) :
    (s.succeeding name calls).foldl Call.after b = calls.foldl Call.after b := by
  -- the rest is made in the session after the call in both cases, whether the call is kept or not
  induction calls generalizing s b with
  | nil => rfl
  | cons call rest ih =>
    have hnext := ih (get?_step_call hb call)
    rw [succeeding, List.foldl_cons]
    split
    · next h =>
      rw [after_of_failed hb h] at hnext ⊢
      exact hnext
    · exact hnext

theorem foldl_sameClaims {b b' : Builder} (h : SameClaims b b') (calls : List Call) :
    SameClaims (calls.foldl Call.after b) (calls.foldl Call.after b') := by
  induction calls generalizing b b' with
  | nil => exact h
  | cons call rest ih =>
    rw [List.foldl_cons, List.foldl_cons]
    cases call with
    | edit e => exact ih (h.after e)
    | build token => exact ih h

/-- **Calls to a builder are made as a whole or not at all, and the last one wins.**  A call that fails
leaves the builders as they are, and so does building.  In the end every setting has the value of its
last edit that did not fail, which is what the edit makes of its arguments; calls that fail can be left out, and two edits of different settings can be
swapped, but for the order of the claims if they write two of them. -/
theorem calls_atomic (hb : s.builders.get? name = some b) (calls : List Call) :
    let t := s.after name calls
    (∀ call : Call,
      (t.step (call.step name)).1.failure?.isSome = true ∨ (∃ token, call = .build token) →
      (t.step (call.step name)).2.builders = t.builders) ∧
    (∀ e, (t.step (.edit name e)).1.failure?.isSome = true ↔ e.change? = none) ∧
    (∀ (e : Edit) (c : Change), e.change? = some c ↔ e.Makes c) ∧
    (∃ b', t.builders.get? name = some b' ∧ LastWins b (calls.filterMap Call.change?) b') ∧
    (s.after name (s.succeeding name calls)).builders.get? name = t.builders.get? name ∧
    ∀ before e e' rest, calls = before ++ .edit e :: .edit e' :: rest → e.setting ≠ e'.setting →
      ∃ b₁ b₂, t.builders.get? name = some b₁ ∧
        (s.after name (before ++ .edit e' :: .edit e :: rest)).builders.get? name = some b₂ ∧
        (e.claim? = none ∨ e'.claim? = none → b₁ = b₂) ∧ SameClaims b₁ b₂ ∧
        ∀ clock nextId, (b₁.build clock nextId).nextId = (b₂.build clock nextId).nextId ∧
          Token.SameMembers b₁.algorithm (b₁.build clock nextId).outcome
            (b₂.build clock nextId).outcome := by
  have hafter := get?_after hb
  refine ⟨fun call h => ?_, fun e => (editBuilder_eq (hafter calls) e).2,
    fun e c => change?_eq_some_iff, ⟨_, hafter calls, ?_⟩, ?_, fun before e e' rest hcalls hne => ?_⟩
  · rcases h with h | ⟨token, rfl⟩
    · exact builders_of_failed h
    · exact buildToken_builders _ name token
  · rw [foldl_after_eq]
    exact lastWins b _
  · rw [hafter, hafter, foldl_succeeding hb]
  · subst hcalls
    refine ⟨_, _, hafter _, hafter _, fun hone => ?_, ?_⟩
    · -- up to the two edits, and after them, the calls are the same
      rw [List.foldl_append, List.foldl_append]
      exact congrArg (rest.foldl Call.after) (after_comm _ hne hone)
    · rw [List.foldl_append, List.foldl_append]
      have hsame := foldl_sameClaims (after_sameClaims (before.foldl Call.after b) hne) rest
      exact ⟨hsame, hsame.build⟩

/-! ### A builder of the guest -/

/-- Calls for the guest.  A truth value is no duration, a token cannot be built before the claims are
complete, and a claim needs a name. -/
def guestCalls : List Call := [
  .edit (.expiry (.int 10)),
  .edit (.expiry (.bool true)),
  .build "early",
  .edit (.roles (.text "reader")),
  .edit (.userId (.text "host")),
  .edit (.claim "" (.text "guest")),
  .edit (.userId (.text "guest"))]

/-- The same calls, with the user before the roles. -/
def guestCalls' : List Call := guestCalls.take 3 ++
  .edit (.userId (.text "host")) :: .edit (.roles (.text "reader")) :: guestCalls.drop 5

/-- Of the seven calls three fail, and of those that are left the last ones win.  With the user before
the roles, the claims are the same in another order. -/
theorem calls_atomic_guest :
    let s := (Session.step { clock := .int 0 } (.create "first" (.text "k") (.text "HS256"))).2
    s.builders.get? "first" = some ⟨.hs256, .text "k", .empty, {}⟩ ∧
      (s.succeeding "first" guestCalls).length = 4 ∧
      ∃ b₁ b₂,
        (s.after "first" (s.succeeding "first" guestCalls)).builders.get? "first" = some b₁ ∧
        b₁.policy.expiry = some (.int 10) ∧ b₁.policy.issuedAt = true ∧
        b₁.claims.names = [Claim.roles, Claim.userId] ∧
        b₁.claims.get? Claim.userId = some (.text "guest") ∧
        (s.after "first" guestCalls').builders.get? "first" = some b₂ ∧ SameClaims b₁ b₂ ∧
        b₂.claims.names = [Claim.userId, Claim.roles] := by
  intro s
  have hb : s.builders.get? "first" = some ⟨.hs256, .text "k", .empty, {}⟩ := rfl
  obtain ⟨-, -, -, ⟨b₁, hb₁, hlast⟩, hsucceeding, hswap⟩ := calls_atomic hb guestCalls
  obtain ⟨-, -, -, ⟨b₂, hb₂, hlast'⟩, -⟩ := calls_atomic hb guestCalls'
  obtain ⟨_, _, hget, hget', -, hsame, -⟩ := hswap (guestCalls.take 3) (.roles (.text "reader"))
    (.userId (.text "host")) (guestCalls.drop 5) rfl (by decide)
  cases hb₁.symm.trans hget
  cases hb₂.symm.trans hget'
  refine ⟨hb, rfl, b₁, b₂, hsucceeding.trans hb₁, hlast.expiry, hlast.issuedAt, ?_, hlast.value _, hb₂,
    hsame, ?_⟩
  · rw [hlast.names]
    decide
  · rw [hlast'.names]
    decide

end Session

end TokenGate
