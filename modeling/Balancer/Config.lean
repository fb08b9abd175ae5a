import Balancer.Config.Proxy

/-!
# Configurations

A configuration holds the sections of a load balancer's configuration, and beside them what only
exists while it is designed: variables, templates, imports, and the loops and spreads inside its
pools. A configuration that is *normal* has none of the latter, imports apart, and can be written
out.
-/

namespace Balancer

/-! ### Sections -/

/-- **The process-wide settings.** -/
structure Global where
  daemon : Bool := false
  masterWorker : Bool := false
  user : Option String := none
  group : Option String := none
  uid : Option Nat := none
  gid : Option Nat := none
  chroot : Option String := none
  pidfile : Option String := none
  nbthread : Option Nat := none
  cpuMap : List String := []
  hardStopAfter : Option String := none
  insecureForkWanted : Bool := false
  description : Option String := none
  maxconn : Option Nat := none
  maxconnrate : Option Nat := none
  maxsessrate : Option Nat := none
  maxsslconn : Option Nat := none
  maxsslrate : Option Nat := none
  ulimitN : Option Nat := none
  spreadChecks : Option Nat := none
  caBase : Option String := none
  crtBase : Option String := none
  sslDefaultBindCiphers : Option String := none
  sslDefaultBindCiphersuites : Option String := none
  sslDefaultBindOptions : List String := []
  sslDefaultServerCiphers : Option String := none
  sslDefaultServerCiphersuites : Option String := none
  sslDefaultServerOptions : List String := []
  sslDhParamFile : Option String := none
  sslServerVerify : Option String := none
  logs : List LogTarget := []
  logTag : Option String := none
  logSendHostname : Option String := none
  statsSockets : List StatsSocket := []
  statsTimeout : Option String := none
  tune : OrderedMap String := {}
  listenerMultiQueue : Option Bool := none
  idlePoolShared : Option Bool := none
  sslKeylog : Option Bool := none
  setenv : OrderedMap String := {}
  luaLoad : List String := []
deriving DecidableEq, Repr, Inhabited

/-- **The settings that proxies inherit.** -/
structure Defaults where
  name : Option String := none
  body : ProxyBody := {}
  pool : Pool := {}
deriving Repr, Inhabited

/-- **A frontend**: accepts traffic and hands it to backends. -/
structure Frontend where
  name : String
  body : ProxyBody := {}
  intake : Intake := {}
deriving DecidableEq, Repr, Inhabited

/-- **A backend**: a pool of servers. -/
structure Backend where
  name : String
  body : ProxyBody := {}
  pool : Pool := {}
deriving Repr, Inhabited

/-- **A `listen` section**: a frontend and its backend in one. -/
structure Listen where
  name : String
  body : ProxyBody := {}
  intake : Intake := {}
  pool : Pool := {}
deriving Repr, Inhabited

/-- **A Lua script**, kept in a file or written into the document. -/
structure Script where
  name : String
  path : Option String
  source : Option String
deriving DecidableEq, Repr

/-- The directory of scripts that name no path. -/
def Script.defaultDirectory : String := "/etc/haproxy/lua"

/-- Where a script is loaded from. -/
def Script.loadPath (script : Script) : String :=
  script.path.getD s!"{Script.defaultDirectory}/{script.name}.lua"

/-- **A named address.** -/
structure Endpoint where
  name : String
  address : String
  port : Option Nat
deriving DecidableEq, Repr

/-- **A group of peers** that share stick tables. -/
structure Peers where
  name : String
  peers : List Endpoint := []
deriving DecidableEq, Repr

/-- **A group of name servers.** -/
structure Resolvers where
  name : String
  nameservers : List Endpoint := []
  parseResolvConf : Bool := false
  resolveRetries : Option Nat := none
  timeoutResolve : Option String := none
  timeoutRetry : Option String := none
  hold : OrderedMap String := {}
  acceptedPayloadSize : Option Nat := none
deriving DecidableEq, Repr

/-- **A group of mail servers.** -/
structure Mailers where
  name : String
  mailers : List Endpoint := []
  timeoutMail : Option String := none
deriving DecidableEq, Repr

/-! ### Design-time entities -/

/-- **A template**: parameters that servers can take over by name. -/
structure Template where
  name : String
  params : OrderedMap Value
deriving Repr

/-! ### The whole -/

/-- **A configuration.** -/
structure Configuration where
  global : Option Global := none
  defaults : Option Defaults := none
  frontends : List Frontend := []
  backends : List Backend := []
  listens : List Listen := []
  scripts : List Script := []
  peers : List Peers := []
  resolvers : List Resolvers := []
  mailers : List Mailers := []
  definitions : OrderedMap Value := {}
  templates : OrderedMap Template := {}
  imports : List String := []
deriving Repr, Inhabited

namespace Configuration

/-- The pools of servers with the names of their sections: backends, then `listen` sections. -/
def pools (config : Configuration) : List (String × Pool) :=
  config.backends.map (fun b => (b.name, b.pool)) ++ config.listens.map fun l => (l.name, l.pool)

/-- The accepting sides with the names and bodies of their sections: frontends, then `listen`
sections. -/
def entryPoints (config : Configuration) : List (String × ProxyBody × Intake) :=
  config.frontends.map (fun f => (f.name, f.body, f.intake)) ++
    config.listens.map fun l => (l.name, l.body, l.intake)

/-- The configuration with every pool replaced, backends first. -/
def mapPoolsM {m : Type → Type} [Monad m] (f : Pool → m Pool) (config : Configuration) :
    m Configuration := do
  let backends ← config.backends.mapM fun b => do return { b with pool := ← f b.pool }
  let listens ← config.listens.mapM fun l => do return { l with pool := ← f l.pool }
  return { config with backends, listens }

/-- Whether nothing is left that only exists while the configuration is designed. -/
def isNormal (config : Configuration) : Bool :=
  config.definitions.isEmpty && config.templates.isEmpty &&
    config.pools.all fun (_, pool) =>
      pool.loops.isEmpty && pool.servers.all fun server => server.spreads.isEmpty

end Configuration

end Balancer
