import TokenGate.LoginService
import TokenGate.Session
import TokenGate.Web.Showcase
import TokenGate.Proofs.Gate.Protocol
import TokenGate.Proofs.Gate.Sliding
import TokenGate.Proofs.Json.Kinds
import TokenGate.Proofs.Token.Authenticity
import TokenGate.Proofs.Token.Window
import TokenGate.Proofs.Token.Checked
import TokenGate.Proofs.Gate.Reissue
import TokenGate.Proofs.Gate.Transparency
import TokenGate.Proofs.Gate.Totality
import TokenGate.Proofs.Gate.Renewability
import TokenGate.Proofs.Gate.Secrecy
import TokenGate.Proofs.Gate.Forgery
import TokenGate.Proofs.Token.Exchange
import TokenGate.Proofs.Token.Phases
import TokenGate.Proofs.Gate.Delivery
import TokenGate.Proofs.Token.Reserved
import TokenGate.Proofs.Token.Rebuild
import TokenGate.Proofs.Gate.Live
import TokenGate.Proofs.Json.Float
import TokenGate.Proofs.Token.Id
import TokenGate.Proofs.Gate.Renewer
import TokenGate.Proofs.Session.Ids
import TokenGate.Proofs.Source.Bearer
import TokenGate.Proofs.Source.Precedence
import TokenGate.Proofs.Token.Changes
import TokenGate.Proofs.Session.Editing
import TokenGate.Proofs.Token.Hindrance
import TokenGate.Proofs.Session.Building
import TokenGate.Proofs.Identity.Roles
import TokenGate.Proofs.Web.Guarding
import TokenGate.Proofs.LoginService
import TokenGate.Proofs.ClaimSet.Calls
