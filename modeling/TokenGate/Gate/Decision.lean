/-
Decisions of a gate, and what a gate does on the way to one.

A `Decision` is the final state of a request, with the identity, the renewed token, the refusal and
the answer of the next stage as far as the state has them.  A `Call` is something that a gate does
to the request or the response, and an `Event` something that it notes in the journal; an `Outcome`
lists both in order.
-/
import TokenGate.Identity
import TokenGate.Journal
import TokenGate.Request

namespace TokenGate.Gate

/-! ### Decisions -/

/-- The final states of a request. -/
inductive State where
  | noConstraint
  | authenticated
  | renewed
  | rejectedMissing
  | rejectedInvalid
  deriving DecidableEq, Repr

/-- The name of a state. -/
def State.name : State → String
  | noConstraint => "no_constraint"
  | authenticated => "authenticated"
  | renewed => "renewed"
  | rejectedMissing => "rejected_missing"
  | rejectedInvalid => "rejected_invalid"

/-- The request goes on to the next stage. -/
def State.passes : State → Bool
  | noConstraint | authenticated | renewed => true
  | rejectedMissing | rejectedInvalid => false

/-- The final word on a request.  The answer of the next stage is of any type. -/
structure Decision (α : Type) where
  state : State
  identity : Option Identity := none
  renewedToken : Option String := none
  refusal : Option Refusal := none
  result : Option α := none

/-- What a client that is rejected is told. -/
def Decision.message {α : Type} (d : Decision α) : Option String :=
  d.refusal.map Refusal.description

/-! ### Calls -/

/-- How a request that passed was recognised. -/
def marker : String := "TOKEN"

/-- Something done to the request or the response. -/
inductive Call where
  | look (lookup : Lookup)
  | attach (identity : Identity) (marker : String)
  | setHeader (name : Datum) (value : String)
  | unauthorized (status : Nat) (message : String)
  | next

/-- The identity and the marker that a call attaches. -/
def Call.attached? : Call → Option (Identity × String)
  | attach identity marker => some (identity, marker)
  | _ => none

/-- The header that a call sets. -/
def Call.header? : Call → Option (Datum × String)
  | setHeader name value => some (name, value)
  | _ => none

/-- The status and the message that a call tells an unauthorized client. -/
def Call.unauthorized? : Call → Option (Nat × String)
  | unauthorized status message => some (status, message)
  | _ => none

/-- The call runs the next stage. -/
def Call.isNext : Call → Bool
  | next => true
  | _ => false

/-! ### Events -/

/-- Something noted in the journal. -/
inductive Event where
  | tokenMissing
  | tokenRejected (refusal : Refusal)
  | authenticated (userId : String)
  | rebuilt (claims : Nat) (newId : Bool)
  | renewed (userId : String)
  | renewalFailed (reason userId : String)
  deriving DecidableEq, Repr

/-- The journal entry of an event, its values in the order of their names. -/
def Event.entry : Event → Journal.Entry
  | tokenMissing => ⟨.info, .text "token_missing", []⟩
  | tokenRejected r =>
    ⟨.info, .text "token_rejected",
      [("error", .text r.kind.name), ("reason", .text r.text)]⟩
  | authenticated userId => ⟨.debug, .text "request_authenticated", [("user_id", .text userId)]⟩
  | rebuilt claims newId =>
    ⟨.debug, .text "token_rebuilt",
      [("claims", .int claims), ("token_id_regenerated", .bool newId)]⟩
  | renewed userId => ⟨.debug, .text "token_renewed", [("user_id", .text userId)]⟩
  | renewalFailed reason userId =>
    ⟨.warning, .text "token_renewal_failed",
      [("reason", .text reason), ("user_id", .text userId)]⟩

/-! ### Outcomes -/

/-- What becomes of a request: a decision, or a failure that is nobody's answer; the calls and
events up to there; and the next free id number. -/
structure Outcome (α : Type) where
  decision : Except Failure (Decision α)
  calls : List Call
  events : List Event
  nextId : Nat

/-- The identity and the marker that the request was given. -/
def Outcome.attached? {α : Type} (o : Outcome α) : Option (Identity × String) :=
  o.calls.reverse.findSome? Call.attached?

end TokenGate.Gate
