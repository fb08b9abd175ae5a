import Balancer.Config.Directive
import Balancer.Config.Server
import Balancer.Config.Vocabulary

/-!
# The parts of a proxy section

Frontends, backends and `listen` sections are put together from three parts:

* `ProxyBody`: what every proxy section can carry;
* `Intake`: accepting traffic and routing it;
* `Pool`: balancing and servers.

A frontend has a body and an intake, a backend a body and a pool, a `listen` section all three.
-/

namespace Balancer

/-- **What every proxy section can carry.** -/
structure ProxyBody where
  mode : Option Mode := none
  description : Option String := none
  disabled : Bool := false
  maxconn : Option Nat := none
  logGlobal : Bool := false
  logs : List LogTarget := []
  logFormat : Option String := none
  uniqueIdFormat : Option String := none
  uniqueIdHeader : Option String := none
  timeouts : Timeouts := {}
  options : ProxyOptions := {}
  acls : List Acl := []
  rules : RuleSet := {}
  stickTable : Option StickTable := none
  stickRules : List StickRule := []
  redirects : List Redirect := []
  stats : Option Stats := none
  compression : Option Compression := none
  errorPages : List ErrorPage := []
deriving DecidableEq, Repr, Inhabited

/-- **The accepting side** of a proxy: where it listens and where it sends traffic. -/
structure Intake where
  binds : List Bind := []
  monitorUri : Option String := none
  useBackends : List UseBackend := []
  defaultBackend : Option String := none
deriving DecidableEq, Repr, Inhabited

/-- **The serving side** of a proxy: its servers and how one is chosen. -/
structure Pool where
  balance : Option Balance := none
  hashType : Option String := none
  cookie : Option Cookie := none
  retries : Option Nat := none
  httpReuse : Option String := none
  fullconn : Option Nat := none
  healthCheck : Option HealthCheck := none
  useServers : List UseServer := []
  defaultServer : Option ServerOptions := none
  serverTemplates : List ServerTemplate := []
  servers : List Server := []
  loops : List ServerLoop := []
deriving Repr, Inhabited

end Balancer
