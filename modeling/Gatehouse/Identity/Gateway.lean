import Gatehouse.Identity.Principal
import Gatehouse.Net.Address

/-! The trust boundary.  Identity headers count only if the peer that sent them may speak for its
callers. -/

namespace Gatehouse.Identity

open Net Web

/-- The peers that may send identity headers. -/
inductive Trust where
  /-- Every peer, since none but the gateway can reach the service. -/
  | everyone
  /-- The peers with one of these addresses. -/
  | peers (allowed : List IpAddress)
  deriving DecidableEq, Repr

namespace Trust

/-- No address at all stands for every peer. -/
def ofPeers : List IpAddress → Trust
  | [] => .everyone
  | allowed => .peers allowed

/-- May the peer send identity headers?  An unknown peer may not, unless every peer may. -/
def admits : Trust → Option SocketAddress → Bool
  | .everyone, _ => true
  | .peers allowed, some peer => allowed.any (· == peer.ip)
  | .peers _, none => false

end Trust

/-- How identities are read. -/
structure GatewayPolicy where
  trust : Trust
  requireRole : Bool
  deriving DecidableEq, Repr

/-- The caller of a request, if its peer is trusted. -/
def GatewayPolicy.extract (policy : GatewayPolicy) (headers : Headers)
    (peer : Option SocketAddress) : Except IdentityError Principal :=
  if policy.trust.admits peer then Principal.ofHeaders headers policy.requireRole
  else .error .untrusted

end Gatehouse.Identity
