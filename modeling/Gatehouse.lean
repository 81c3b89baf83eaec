import Gatehouse.Json.Canonical
import Gatehouse.Proofs.Roles.Provenance
import Gatehouse.Proofs.Service.Authorization
import Gatehouse.Proofs.Service.Cacheless
import Gatehouse.Proofs.Service.GateStack
import Gatehouse.Proofs.Service.Precedence
import Gatehouse.Token.Parts
import Gatehouse.Proofs.Service.CacheIndependence
import Gatehouse.Proofs.Json.Spelling
import Gatehouse.Proofs.Json.TextList
import Gatehouse.Proofs.Interleaving
import Gatehouse.Proofs.Roles.FailOpen
import Gatehouse.Proofs.Service.RolesAfterDeletion
import Gatehouse.Proofs.Service.Deletion
import Gatehouse.Proofs.Screen.Search
import Gatehouse.Proofs.Text.Blank
import Gatehouse.Proofs.Screen.Signature
import Gatehouse.Proofs.Screen.Sanitize
import Gatehouse.Proofs.Service.Statements
import Gatehouse.Proofs.Service.Listing
import Gatehouse.Proofs.Service.Screening
import Gatehouse.Proofs.Text.Split
import Gatehouse.Proofs.Web.Form
import Gatehouse.Proofs.Screen.Refusal
import Gatehouse.Proofs.TrustedProxies
import Gatehouse.Proofs.Crypto.Base64Url
import Gatehouse.Proofs.Json.Numbers
import Gatehouse.Proofs.Json.Integers
import Gatehouse.Proofs.Json.Grammar
import Gatehouse.Proofs.Json.Skip
import Gatehouse.Proofs.Json.Fields
import Gatehouse.Proofs.Json.Records
import Gatehouse.Proofs.Json.Members
import Gatehouse.Proofs.Service.Bodies
import Gatehouse.Proofs.Json.Compact
import Gatehouse.Proofs.Json.Canonical
import Gatehouse.Proofs.Token.Signed
import Gatehouse.Proofs.Token.Payload
import Gatehouse.Proofs.Token.Issuer
import Gatehouse.Proofs.Service.UserRecords
import Gatehouse.Proofs.Service.Failures
import Gatehouse.Proofs.Service.ErrorBodies
import Gatehouse.Proofs.Service.BodyLimit
import Gatehouse.Proofs.Settings
import Gatehouse.Proofs.Loading
import Gatehouse.Proofs.Web.Header
import Gatehouse.Proofs.Service.ResponseHeaders
import Gatehouse.Proofs.Service.Origins
import Gatehouse.Proofs.Token.Lifetime
import Gatehouse.Proofs.Screen.Written
import Gatehouse.Proofs.Screen.Invariance
import Gatehouse.Proofs.Text.Replace
import Gatehouse.Proofs.Screen.NormalForm
import Gatehouse.Proofs.Identity.Extraction
import Gatehouse.Proofs.Identity.RoleGate
import Gatehouse.Proofs.Service.GateRearrangement
import Gatehouse.Proofs.Service.UserWrites
import Gatehouse.Proofs.Users.Row
import Gatehouse.Proofs.Roles.Stretches
import Gatehouse.Proofs.Service.Redaction
