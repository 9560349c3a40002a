/-
A small application that shows what its gate attached.

Three views answer with the identity of the request and the way it was recognised.  Two of them are
guarded, either by themselves or by the beginning of their path; the third is open to all.
-/
import TokenGate.Web.App

namespace TokenGate.Web.Showcase

/-- An identity as a document. -/
def identityDocument (i : Identity) : Datum :=
  .dict [("user_id", .text i.userId), ("roles", .list (i.roles.map .text))]

/-- What the gate attached, as a document. -/
def attachedDocument (attached : Option (Identity × String)) : Datum :=
  .dict
    [("identity", attached.elim .null fun a => identityDocument a.1),
     ("auth_type", attached.elim .null fun a => .text a.2)]

/-- The view of all three paths. -/
def view (v : Visit) : Served := ⟨.ok (.document 200 (attachedDocument v.attached)), v.nextId⟩

/-- The body of an answer to a request that is rejected. -/
def rejection (message : String) : Datum := .dict [("description", .text message)]

/-- The methods of all three paths. -/
def methods : List String := ["GET", "POST"]

/-- The routes; the guarded ones guard themselves unless a predicate does. -/
def routes (byThemselves : Bool) : List Route :=
  [⟨"/x", methods, byThemselves, view⟩, ⟨"/api/x", methods, byThemselves, view⟩,
   ⟨"/public", methods, false, view⟩]

/-- The application behind a gate; with a beginning of paths, exactly these paths are guarded. -/
def app (gate : Option Gate) (guardedStart : Option String) : App :=
  { gate
    routes := routes guardedStart.isNone
    guardedPath := guardedStart.map fun start path => path.startsWith start
    rejection }

end TokenGate.Web.Showcase
