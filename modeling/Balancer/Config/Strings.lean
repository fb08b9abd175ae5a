import Balancer.Config

/-!
# The texts of a configuration

Substitution changes texts wherever they occur in a configuration. Which of its parts are such
texts is said here, once: `Strings.traverse` runs an action over all of them, from the first
section to the last, and puts the results in their places. The shape stays as it is: no list gets
longer or shorter, no optional field appears or disappears, and the keys of maps are not touched.

What only exists while a configuration is designed is left out. The stages that own loops,
templates and variables look at them by themselves.
-/

namespace Balancer

/-- **Types with texts in them.** -/
class Strings (α : Type) where
  /-- Runs an action on every text, in order, and puts the results in their places. -/
  traverse {m : Type → Type} [Monad m] (f : String → m String) : α → m α

/-! ### Containers -/

instance : Strings String where
  traverse f s := f s

instance {α : Type} [Strings α] : Strings (Option α) where
  traverse f
    | none => pure none
    | some a => do return some (← Strings.traverse f a)

instance {α : Type} [Strings α] : Strings (List α) where
  traverse f items := items.mapM (Strings.traverse f)

/-- The values of a map are changed, its keys are not. -/
instance {α : Type} [Strings α] : Strings (OrderedMap α) where
  traverse f map := do return map.withValues (← map.values.mapM (Strings.traverse f))

/-! ### Directives -/

/-- Runs an action on every text of a condition. -/
@[nospecialize] def Acl.traverse {m : Type → Type} [Monad m] (f : String → m String)
    (acl : Acl) : m Acl := do
  let name ← Strings.traverse f acl.name
  let criterion ← Strings.traverse f acl.criterion
  let flags ← Strings.traverse f acl.flags
  let values ← Strings.traverse f acl.values
  return { acl with name, criterion, flags, values }

instance : Strings Acl := ⟨Acl.traverse⟩

/-- Runs an action on every text of a rule; its parameters count, their names do not. -/
@[nospecialize] def Rule.traverse {m : Type → Type} [Monad m] (f : String → m String)
    (rule : Rule) : m Rule := do
  let action ← Strings.traverse f rule.action
  let params ← Strings.traverse f rule.params
  let condition ← Strings.traverse f rule.condition
  return { rule with action, params, condition }

instance : Strings Rule := ⟨Rule.traverse⟩

/-- Runs an action on every text of a set of rules. -/
@[nospecialize] def RuleSet.traverse {m : Type → Type} [Monad m] (f : String → m String)
    (rules : RuleSet) : m RuleSet := do
  let httpRequest ← Strings.traverse f rules.httpRequest
  let httpResponse ← Strings.traverse f rules.httpResponse
  let httpAfterResponse ← Strings.traverse f rules.httpAfterResponse
  let tcpRequest ← Strings.traverse f rules.tcpRequest
  let tcpResponse ← Strings.traverse f rules.tcpResponse
  let httpCheck ← Strings.traverse f rules.httpCheck
  let tcpCheck ← Strings.traverse f rules.tcpCheck
  return { rules with
    httpRequest, httpResponse, httpAfterResponse, tcpRequest, tcpResponse, httpCheck, tcpCheck }

instance : Strings RuleSet := ⟨RuleSet.traverse⟩

/-- Runs an action on every text of an address to listen on. -/
@[nospecialize] def Bind.traverse {m : Type → Type} [Monad m] (f : String → m String)
    (bind : Bind) : m Bind := do
  let address ← Strings.traverse f bind.address
  let crt ← Strings.traverse f bind.crt
  let crtList ← Strings.traverse f bind.crtList
  let caFile ← Strings.traverse f bind.caFile
  let verify ← Strings.traverse f bind.verify
  let alpn ← Strings.traverse f bind.alpn
  let ciphers ← Strings.traverse f bind.ciphers
  let ciphersuites ← Strings.traverse f bind.ciphersuites
  let sslMinVer ← Strings.traverse f bind.sslMinVer
  let sslMaxVer ← Strings.traverse f bind.sslMaxVer
  let interface ← Strings.traverse f bind.interface
  let name ← Strings.traverse f bind.name
  let mode ← Strings.traverse f bind.mode
  let user ← Strings.traverse f bind.user
  let group ← Strings.traverse f bind.group
  let level ← Strings.traverse f bind.level
  return { bind with
    address, crt, crtList, caFile, verify, alpn, ciphers, ciphersuites, sslMinVer, sslMaxVer,
    interface, name, mode, user, group, level }

instance : Strings Bind := ⟨Bind.traverse⟩

/-- Runs an action on every text of a choice of a backend. -/
@[nospecialize] def UseBackend.traverse {m : Type → Type} [Monad m] (f : String → m String)
    (choice : UseBackend) : m UseBackend := do
  let backend ← Strings.traverse f choice.backend
  let condition ← Strings.traverse f choice.condition
  return { choice with backend, condition }

instance : Strings UseBackend := ⟨UseBackend.traverse⟩

/-- Runs an action on every text of a choice of a server. -/
@[nospecialize] def UseServer.traverse {m : Type → Type} [Monad m] (f : String → m String)
    (choice : UseServer) : m UseServer := do
  let server ← Strings.traverse f choice.server
  let condition ← Strings.traverse f choice.condition
  return { choice with server, condition }

instance : Strings UseServer := ⟨UseServer.traverse⟩

/-- Runs an action on every text of a redirect. -/
@[nospecialize] def Redirect.traverse {m : Type → Type} [Monad m] (f : String → m String)
    (redirect : Redirect) : m Redirect := do
  let target ← Strings.traverse f redirect.target
  let setCookie ← Strings.traverse f redirect.setCookie
  let condition ← Strings.traverse f redirect.condition
  return { redirect with target, setCookie, condition }

instance : Strings Redirect := ⟨Redirect.traverse⟩

/-- Runs an action on every text of a stick table. -/
@[nospecialize] def StickTable.traverse {m : Type → Type} [Monad m] (f : String → m String)
    (table : StickTable) : m StickTable := do
  let kind ← Strings.traverse f table.kind
  let size ← Strings.traverse f table.size
  let expire ← Strings.traverse f table.expire
  let peers ← Strings.traverse f table.peers
  let store ← Strings.traverse f table.store
  return { table with kind, size, expire, peers, store }

instance : Strings StickTable := ⟨StickTable.traverse⟩

/-- Runs an action on every text of a stick rule. -/
@[nospecialize] def StickRule.traverse {m : Type → Type} [Monad m] (f : String → m String)
    (rule : StickRule) : m StickRule := do
  let pattern ← Strings.traverse f rule.pattern
  let table ← Strings.traverse f rule.table
  let condition ← Strings.traverse f rule.condition
  return { rule with pattern, table, condition }

instance : Strings StickRule := ⟨StickRule.traverse⟩

/-- Runs an action on every text of a compression. -/
@[nospecialize] def Compression.traverse {m : Type → Type} [Monad m] (f : String → m String)
    (compression : Compression) : m Compression := do
  let algo ← Strings.traverse f compression.algo
  let types ← Strings.traverse f compression.types
  return { compression with algo, types }

instance : Strings Compression := ⟨Compression.traverse⟩

/-- Runs an action on every text of an error page. -/
@[nospecialize] def ErrorPage.traverse {m : Type → Type} [Monad m] (f : String → m String)
    (page : ErrorPage) : m ErrorPage := do
  let target ← Strings.traverse f page.target
  return { page with target }

instance : Strings ErrorPage := ⟨ErrorPage.traverse⟩

/-- Runs an action on every text of a statistics page. -/
@[nospecialize] def Stats.traverse {m : Type → Type} [Monad m] (f : String → m String)
    (stats : Stats) : m Stats := do
  let uri ← Strings.traverse f stats.uri
  let realm ← Strings.traverse f stats.realm
  let auth ← Strings.traverse f stats.auth
  let refresh ← Strings.traverse f stats.refresh
  let admin ← Strings.traverse f stats.admin
  let scope ← Strings.traverse f stats.scope
  return { stats with uri, realm, auth, refresh, admin, scope }

instance : Strings Stats := ⟨Stats.traverse⟩

/-- Runs an action on every text of a log target. -/
@[nospecialize] def LogTarget.traverse {m : Type → Type} [Monad m] (f : String → m String)
    (log : LogTarget) : m LogTarget := do
  let address ← Strings.traverse f log.address
  let facility ← Strings.traverse f log.facility
  let level ← Strings.traverse f log.level
  let minLevel ← Strings.traverse f log.minLevel
  let format ← Strings.traverse f log.format
  return { log with address, facility, level, minLevel, format }

instance : Strings LogTarget := ⟨LogTarget.traverse⟩

/-- Runs an action on every text of a control socket. -/
@[nospecialize] def StatsSocket.traverse {m : Type → Type} [Monad m] (f : String → m String)
    (socket : StatsSocket) : m StatsSocket := do
  let path ← Strings.traverse f socket.path
  let mode ← Strings.traverse f socket.mode
  let level ← Strings.traverse f socket.level
  let user ← Strings.traverse f socket.user
  let group ← Strings.traverse f socket.group
  return { socket with path, mode, level, user, group }

instance : Strings StatsSocket := ⟨StatsSocket.traverse⟩

/-! ### Servers -/

/-- Runs an action on every text of the options of a server. -/
@[nospecialize] def ServerOptions.traverse {m : Type → Type} [Monad m] (f : String → m String)
    (options : ServerOptions) : m ServerOptions := do
  let inter ← Strings.traverse f options.inter
  let fastinter ← Strings.traverse f options.fastinter
  let downinter ← Strings.traverse f options.downinter
  let verify ← Strings.traverse f options.verify
  let caFile ← Strings.traverse f options.caFile
  let crt ← Strings.traverse f options.crt
  let sni ← Strings.traverse f options.sni
  let alpn ← Strings.traverse f options.alpn
  let ciphers ← Strings.traverse f options.ciphers
  let sslMinVer ← Strings.traverse f options.sslMinVer
  let cookie ← Strings.traverse f options.cookie
  let resolvers ← Strings.traverse f options.resolvers
  let resolvePrefer ← Strings.traverse f options.resolvePrefer
  let initAddr ← Strings.traverse f options.initAddr
  let slowstart ← Strings.traverse f options.slowstart
  let agentInter ← Strings.traverse f options.agentInter
  let track ← Strings.traverse f options.track
  let observe ← Strings.traverse f options.observe
  let onError ← Strings.traverse f options.onError
  let onMarkedDown ← Strings.traverse f options.onMarkedDown
  let proto ← Strings.traverse f options.proto
  let source ← Strings.traverse f options.source
  return { options with
    inter, fastinter, downinter, verify, caFile, crt, sni, alpn, ciphers, sslMinVer, cookie,
    resolvers, resolvePrefer, initAddr, slowstart, agentInter, track, observe, onError,
    onMarkedDown, proto, source }

instance : Strings ServerOptions := ⟨ServerOptions.traverse⟩

/-- Runs an action on every text of a server; its spreads are names and stay. -/
@[nospecialize] def Server.traverse {m : Type → Type} [Monad m] (f : String → m String)
    (server : Server) : m Server := do
  let name ← Strings.traverse f server.name
  let address ← Strings.traverse f server.address
  let options ← Strings.traverse f server.options
  return { server with name, address, options }

instance : Strings Server := ⟨Server.traverse⟩

/-- Runs an action on every text of a family of servers. -/
@[nospecialize] def ServerTemplate.traverse {m : Type → Type} [Monad m] (f : String → m String)
    (template : ServerTemplate) : m ServerTemplate := do
  let stem ← Strings.traverse f template.stem
  let count ← Strings.traverse f template.count
  let fqdn ← Strings.traverse f template.fqdn
  let options ← Strings.traverse f template.options
  return { template with stem, count, fqdn, options }

instance : Strings ServerTemplate := ⟨ServerTemplate.traverse⟩

/-- Runs an action on every text of a health check. -/
@[nospecialize] def HealthCheck.traverse {m : Type → Type} [Monad m] (f : String → m String)
    (check : HealthCheck) : m HealthCheck := do
  let method ← Strings.traverse f check.method
  let uri ← Strings.traverse f check.uri
  let version ← Strings.traverse f check.version
  let host ← Strings.traverse f check.host
  let expect ← Strings.traverse f check.expect
  let user ← Strings.traverse f check.user
  let inter ← Strings.traverse f check.inter
  return { check with method, uri, version, host, expect, user, inter }

instance : Strings HealthCheck := ⟨HealthCheck.traverse⟩

/-- Runs an action on every text of a cookie. -/
@[nospecialize] def Cookie.traverse {m : Type → Type} [Monad m] (f : String → m String)
    (cookie : Cookie) : m Cookie := do
  let name ← Strings.traverse f cookie.name
  let mode ← Strings.traverse f cookie.mode
  let domain ← Strings.traverse f cookie.domain
  let maxidle ← Strings.traverse f cookie.maxidle
  let maxlife ← Strings.traverse f cookie.maxlife
  return { cookie with name, mode, domain, maxidle, maxlife }

instance : Strings Cookie := ⟨Cookie.traverse⟩

/-! ### Sections -/

/-- Runs an action on every text of a set of timeouts. -/
@[nospecialize] def Timeouts.traverse {m : Type → Type} [Monad m] (f : String → m String)
    (timeouts : Timeouts) : m Timeouts := do
  let connect ← Strings.traverse f timeouts.connect
  let client ← Strings.traverse f timeouts.client
  let server ← Strings.traverse f timeouts.server
  let httpRequest ← Strings.traverse f timeouts.httpRequest
  let httpKeepAlive ← Strings.traverse f timeouts.httpKeepAlive
  let queue ← Strings.traverse f timeouts.queue
  let tunnel ← Strings.traverse f timeouts.tunnel
  let check ← Strings.traverse f timeouts.check
  let clientFin ← Strings.traverse f timeouts.clientFin
  let serverFin ← Strings.traverse f timeouts.serverFin
  let tarpit ← Strings.traverse f timeouts.tarpit
  return { timeouts with
    connect, client, server, httpRequest, httpKeepAlive, queue, tunnel, check, clientFin,
    serverFin, tarpit }

instance : Strings Timeouts := ⟨Timeouts.traverse⟩

/-- Runs an action on every text of the options of a proxy. -/
@[nospecialize] def ProxyOptions.traverse {m : Type → Type} [Monad m] (f : String → m String)
    (options : ProxyOptions) : m ProxyOptions := do
  let forwardforExcept ← Strings.traverse f options.forwardforExcept
  return { options with forwardforExcept }

instance : Strings ProxyOptions := ⟨ProxyOptions.traverse⟩

/-- Runs an action on every text of the body of a proxy section. -/
@[nospecialize] def ProxyBody.traverse {m : Type → Type} [Monad m] (f : String → m String)
    (body : ProxyBody) : m ProxyBody := do
  let description ← Strings.traverse f body.description
  let logs ← Strings.traverse f body.logs
  let logFormat ← Strings.traverse f body.logFormat
  let uniqueIdFormat ← Strings.traverse f body.uniqueIdFormat
  let uniqueIdHeader ← Strings.traverse f body.uniqueIdHeader
  let timeouts ← Strings.traverse f body.timeouts
  let options ← Strings.traverse f body.options
  let acls ← Strings.traverse f body.acls
  let rules ← Strings.traverse f body.rules
  let stickTable ← Strings.traverse f body.stickTable
  let stickRules ← Strings.traverse f body.stickRules
  let redirects ← Strings.traverse f body.redirects
  let stats ← Strings.traverse f body.stats
  let compression ← Strings.traverse f body.compression
  let errorPages ← Strings.traverse f body.errorPages
  return { body with
    description, logs, logFormat, uniqueIdFormat, uniqueIdHeader, timeouts, options, acls, rules,
    stickTable, stickRules, redirects, stats, compression, errorPages }

instance : Strings ProxyBody := ⟨ProxyBody.traverse⟩

/-- Runs an action on every text of the accepting side. -/
@[nospecialize] def Intake.traverse {m : Type → Type} [Monad m] (f : String → m String)
    (intake : Intake) : m Intake := do
  let binds ← Strings.traverse f intake.binds
  let monitorUri ← Strings.traverse f intake.monitorUri
  let useBackends ← Strings.traverse f intake.useBackends
  let defaultBackend ← Strings.traverse f intake.defaultBackend
  return { intake with binds, monitorUri, useBackends, defaultBackend }

instance : Strings Intake := ⟨Intake.traverse⟩

/-- Runs an action on every text of a pool; its algorithm and its loops stay as they are. -/
@[nospecialize] def Pool.traverse {m : Type → Type} [Monad m] (f : String → m String)
    (pool : Pool) : m Pool := do
  let hashType ← Strings.traverse f pool.hashType
  let cookie ← Strings.traverse f pool.cookie
  let httpReuse ← Strings.traverse f pool.httpReuse
  let healthCheck ← Strings.traverse f pool.healthCheck
  let useServers ← Strings.traverse f pool.useServers
  let defaultServer ← Strings.traverse f pool.defaultServer
  let serverTemplates ← Strings.traverse f pool.serverTemplates
  let servers ← Strings.traverse f pool.servers
  return { pool with
    hashType, cookie, httpReuse, healthCheck, useServers, defaultServer, serverTemplates, servers }

instance : Strings Pool := ⟨Pool.traverse⟩

/-- Runs an action on every text of the process-wide settings. -/
@[nospecialize] def Global.traverse {m : Type → Type} [Monad m] (f : String → m String)
    (global : Global) : m Global := do
  let user ← Strings.traverse f global.user
  let group ← Strings.traverse f global.group
  let chroot ← Strings.traverse f global.chroot
  let pidfile ← Strings.traverse f global.pidfile
  let cpuMap ← Strings.traverse f global.cpuMap
  let hardStopAfter ← Strings.traverse f global.hardStopAfter
  let description ← Strings.traverse f global.description
  let caBase ← Strings.traverse f global.caBase
  let crtBase ← Strings.traverse f global.crtBase
  let sslDefaultBindCiphers ← Strings.traverse f global.sslDefaultBindCiphers
  let sslDefaultBindCiphersuites ← Strings.traverse f global.sslDefaultBindCiphersuites
  let sslDefaultBindOptions ← Strings.traverse f global.sslDefaultBindOptions
  let sslDefaultServerCiphers ← Strings.traverse f global.sslDefaultServerCiphers
  let sslDefaultServerCiphersuites ← Strings.traverse f global.sslDefaultServerCiphersuites
  let sslDefaultServerOptions ← Strings.traverse f global.sslDefaultServerOptions
  let sslDhParamFile ← Strings.traverse f global.sslDhParamFile
  let sslServerVerify ← Strings.traverse f global.sslServerVerify
  let logs ← Strings.traverse f global.logs
  let logTag ← Strings.traverse f global.logTag
  let logSendHostname ← Strings.traverse f global.logSendHostname
  let statsSockets ← Strings.traverse f global.statsSockets
  let statsTimeout ← Strings.traverse f global.statsTimeout
  let tune ← Strings.traverse f global.tune
  let setenv ← Strings.traverse f global.setenv
  let luaLoad ← Strings.traverse f global.luaLoad
  return { global with
    user, group, chroot, pidfile, cpuMap, hardStopAfter, description, caBase, crtBase,
    sslDefaultBindCiphers, sslDefaultBindCiphersuites, sslDefaultBindOptions,
    sslDefaultServerCiphers, sslDefaultServerCiphersuites, sslDefaultServerOptions, sslDhParamFile,
    sslServerVerify, logs, logTag, logSendHostname, statsSockets, statsTimeout, tune, setenv,
    luaLoad }

instance : Strings Global := ⟨Global.traverse⟩

/-- Runs an action on every text of the inherited settings. -/
@[nospecialize] def Defaults.traverse {m : Type → Type} [Monad m] (f : String → m String)
    (defaults : Defaults) : m Defaults := do
  let name ← Strings.traverse f defaults.name
  let body ← Strings.traverse f defaults.body
  let pool ← Strings.traverse f defaults.pool
  return { defaults with name, body, pool }

instance : Strings Defaults := ⟨Defaults.traverse⟩

/-- Runs an action on every text of a frontend. -/
@[nospecialize] def Frontend.traverse {m : Type → Type} [Monad m] (f : String → m String)
    (frontend : Frontend) : m Frontend := do
  let name ← Strings.traverse f frontend.name
  let body ← Strings.traverse f frontend.body
  let intake ← Strings.traverse f frontend.intake
  return { frontend with name, body, intake }

instance : Strings Frontend := ⟨Frontend.traverse⟩

/-- Runs an action on every text of a backend. -/
@[nospecialize] def Backend.traverse {m : Type → Type} [Monad m] (f : String → m String)
    (backend : Backend) : m Backend := do
  let name ← Strings.traverse f backend.name
  let body ← Strings.traverse f backend.body
  let pool ← Strings.traverse f backend.pool
  return { backend with name, body, pool }

instance : Strings Backend := ⟨Backend.traverse⟩

/-- Runs an action on every text of a `listen` section. -/
@[nospecialize] def Listen.traverse {m : Type → Type} [Monad m] (f : String → m String)
    (listen : Listen) : m Listen := do
  let name ← Strings.traverse f listen.name
  let body ← Strings.traverse f listen.body
  let intake ← Strings.traverse f listen.intake
  let pool ← Strings.traverse f listen.pool
  return { listen with name, body, intake, pool }

instance : Strings Listen := ⟨Listen.traverse⟩

/-- Runs an action on the texts of a script; its source is not a text of the configuration. -/
@[nospecialize] def Script.traverse {m : Type → Type} [Monad m] (f : String → m String)
    (script : Script) : m Script := do
  let name ← Strings.traverse f script.name
  let path ← Strings.traverse f script.path
  return { script with name, path }

instance : Strings Script := ⟨Script.traverse⟩

/-- Runs an action on every text of an endpoint. -/
@[nospecialize] def Endpoint.traverse {m : Type → Type} [Monad m] (f : String → m String)
    (endpoint : Endpoint) : m Endpoint := do
  let name ← Strings.traverse f endpoint.name
  let address ← Strings.traverse f endpoint.address
  return { endpoint with name, address }

instance : Strings Endpoint := ⟨Endpoint.traverse⟩

/-- Runs an action on every text of a group of peers. -/
@[nospecialize] def Peers.traverse {m : Type → Type} [Monad m] (f : String → m String)
    (group : Peers) : m Peers := do
  let name ← Strings.traverse f group.name
  let peers ← Strings.traverse f group.peers
  return { group with name, peers }

instance : Strings Peers := ⟨Peers.traverse⟩

/-- Runs an action on every text of a group of name servers. -/
@[nospecialize] def Resolvers.traverse {m : Type → Type} [Monad m] (f : String → m String)
    (group : Resolvers) : m Resolvers := do
  let name ← Strings.traverse f group.name
  let nameservers ← Strings.traverse f group.nameservers
  let timeoutResolve ← Strings.traverse f group.timeoutResolve
  let timeoutRetry ← Strings.traverse f group.timeoutRetry
  let hold ← Strings.traverse f group.hold
  return { group with name, nameservers, timeoutResolve, timeoutRetry, hold }

instance : Strings Resolvers := ⟨Resolvers.traverse⟩

/-- Runs an action on every text of a group of mail servers. -/
@[nospecialize] def Mailers.traverse {m : Type → Type} [Monad m] (f : String → m String)
    (group : Mailers) : m Mailers := do
  let name ← Strings.traverse f group.name
  let mailers ← Strings.traverse f group.mailers
  let timeoutMail ← Strings.traverse f group.timeoutMail
  return { group with name, mailers, timeoutMail }

instance : Strings Mailers := ⟨Mailers.traverse⟩

/-! ### The whole -/

/-- **Runs an action on every text of a configuration**, section by section. Variables, templates
and imports are not among them. -/
@[nospecialize] def Configuration.traverse {m : Type → Type} [Monad m] (f : String → m String)
    (config : Configuration) : m Configuration := do
  let global ← Strings.traverse f config.global
  let defaults ← Strings.traverse f config.defaults
  let frontends ← Strings.traverse f config.frontends
  let backends ← Strings.traverse f config.backends
  let listens ← Strings.traverse f config.listens
  let scripts ← Strings.traverse f config.scripts
  let peers ← Strings.traverse f config.peers
  let resolvers ← Strings.traverse f config.resolvers
  let mailers ← Strings.traverse f config.mailers
  return { config with
    global, defaults, frontends, backends, listens, scripts, peers, resolvers, mailers }

instance : Strings Configuration := ⟨Configuration.traverse⟩

end Balancer
