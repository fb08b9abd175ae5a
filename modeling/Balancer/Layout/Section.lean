import Balancer.Layout.Block
import Balancer.Layout.Directive

/-!
# The blocks of sections

Proxy sections share one order of lines, family by family, whatever parts they are made of: the
lines of a part that a section does not have are just not there.
-/

namespace Balancer

open Layout Text

/-! ### Process-wide settings -/

/-- The lines about the process. -/
def Global.processLines (global : Global) : List Line :=
  flagLine "daemon" global.daemon ++ flagLine "master-worker" global.masterWorker ++
    optionLine "user" global.user ++ optionLine "group" global.group ++
    countLine "uid" global.uid ++ countLine "gid" global.gid ++
    optionLine "chroot" global.chroot ++ optionLine "pidfile" global.pidfile ++
    countLine "nbthread" global.nbthread ++ global.cpuMap.map (fun map => ["cpu-map", map]) ++
    flagLine "insecure-fork-wanted" global.insecureForkWanted ++
    optionLine "description" global.description ++
    optionLine "hard-stop-after" global.hardStopAfter

/-- The lines about limits. -/
def Global.limitLines (global : Global) : List Line :=
  countLine "maxconn" global.maxconn ++ countLine "maxconnrate" global.maxconnrate ++
    countLine "maxsessrate" global.maxsessrate ++ countLine "maxsslconn" global.maxsslconn ++
    countLine "maxsslrate" global.maxsslrate ++ countLine "ulimit-n" global.ulimitN ++
    countLine "spread-checks" global.spreadChecks

/-- The lines about TLS. -/
def Global.tlsLines (global : Global) : List Line :=
  optionLine "ca-base" global.caBase ++ optionLine "crt-base" global.crtBase ++
    optionLine "ssl-default-bind-ciphers" global.sslDefaultBindCiphers ++
    optionLine "ssl-default-bind-ciphersuites" global.sslDefaultBindCiphersuites ++
    listLine "ssl-default-bind-options" global.sslDefaultBindOptions ++
    optionLine "ssl-default-server-ciphers" global.sslDefaultServerCiphers ++
    optionLine "ssl-default-server-ciphersuites" global.sslDefaultServerCiphersuites ++
    listLine "ssl-default-server-options" global.sslDefaultServerOptions ++
    optionLine "ssl-dh-param-file" global.sslDhParamFile ++
    optionLine "ssl-server-verify" global.sslServerVerify

/-- The lines about logs, statistics and tuning. -/
def Global.serviceLines (global : Global) : List Line :=
  global.logs.map LogTarget.line ++ optionLine "log-tag" global.logTag ++
    optionLine "log-send-hostname" global.logSendHostname ++
    global.statsSockets.map StatsSocket.line ++ optionLine "stats timeout" global.statsTimeout ++
    global.tune.entries.map (fun (key, value) => ["tune." ++ key, value]) ++
    switchLine "tune.listener.multi-queue" global.listenerMultiQueue ++
    switchLine "tune.idle-pool.shared" global.idlePoolShared ++
    switchLine "tune.ssl.keylog" global.sslKeylog ++
    global.setenv.entries.map (fun (name, value) => ["setenv", name, quote value])

/-- **The block of the process-wide settings**, which also load the scripts. -/
def Global.block (global : Global) (scripts : List Script) : Block where
  header := ["global"]
  lines :=
    global.processLines ++ global.limitLines ++ global.tlsLines ++ global.serviceLines ++
      global.luaLoad.map (fun path => ["lua-load", path]) ++
      scripts.map (fun script => ["lua-load", script.loadPath])

/-! ### Proxies -/

/-- The lines of a pool that stand before the conditions: how a server is chosen and checked. -/
def Pool.choiceLines (pool : Pool) : List Line :=
  optionLine "balance" (pool.balance.map Balance.text) ++ optionLine "hash-type" pool.hashType ++
    countLine "retries" pool.retries ++ optionLine "http-reuse" pool.httpReuse ++
    countLine "fullconn" pool.fullconn ++ (pool.cookie.map Cookie.line).toList ++
    (pool.healthCheck.map HealthCheck.lines).getD []

/-- The lines of a pool at the end of its section: the servers. -/
def Pool.serverLines (pool : Pool) : List Line :=
  pool.useServers.map UseServer.line ++
    ((effectiveDefaults pool.defaultServer pool.healthCheck).map
      ServerOptions.defaultLine).toList ++
    pool.serverTemplates.map ServerTemplate.line ++ pool.servers.map Server.line

/-- The lines of an accepting side at the end of its section: where the traffic goes. -/
def Intake.routeLines (intake : Intake) : List Line :=
  intake.useBackends.map UseBackend.line ++
    optionLine "default_backend" intake.defaultBackend

/-- The lines of a body about logs, timeouts and options. -/
def ProxyBody.serviceLines (body : ProxyBody) : List Line :=
  flagLine "log global" body.logGlobal ++ body.logs.map LogTarget.line ++
    optionLine "log-format" (body.logFormat.map quote) ++
    optionLine "unique-id-format" (body.uniqueIdFormat.map quote) ++
    optionLine "unique-id-header" body.uniqueIdHeader ++ body.timeouts.lines ++
    body.options.lines

/-- The lines of a body about traffic. -/
def ProxyBody.trafficLines (body : ProxyBody) : List Line :=
  body.acls.map Acl.line ++ (body.stickTable.map StickTable.line).toList ++
    body.rules.written.map Rule.line ++ body.stickRules.map StickRule.line ++
    body.redirects.map Redirect.line ++ (body.stats.map Stats.lines).getD [] ++
    (body.compression.map Compression.lines).getD [] ++ body.errorPages.map ErrorPage.line

/-- **The lines of a proxy section** with a body and perhaps an accepting and a serving side. -/
def proxyLines (body : ProxyBody) (intake : Option Intake) (pool : Option Pool) : List Line :=
  optionLine "description" body.description ++ flagLine "disabled" body.disabled ++
    optionLine "mode" (body.mode.map Mode.keyword) ++
    (intake.map fun intake => intake.binds.map Bind.line).getD [] ++
    countLine "maxconn" body.maxconn ++
    (intake.map fun intake => optionLine "monitor-uri" intake.monitorUri).getD [] ++
    body.serviceLines ++ (pool.map Pool.choiceLines).getD [] ++ body.trafficLines ++
    (intake.map Intake.routeLines).getD [] ++ (pool.map Pool.serverLines).getD []

/-- The block of the inherited settings. -/
def Defaults.block (defaults : Defaults) : Block where
  header := "defaults" :: defaults.name.toList
  lines := proxyLines defaults.body none (some defaults.pool)

/-- The block of a frontend. -/
def Frontend.block (frontend : Frontend) : Block where
  header := ["frontend", frontend.name]
  lines := proxyLines frontend.body (some frontend.intake) none

/-- The block of a backend. -/
def Backend.block (backend : Backend) : Block where
  header := ["backend", backend.name]
  lines := proxyLines backend.body none (some backend.pool)

/-- The block of a `listen` section. -/
def Listen.block (listen : Listen) : Block where
  header := ["listen", listen.name]
  lines := proxyLines listen.body (some listen.intake) (some listen.pool)

/-! ### Groups of endpoints -/

/-- The block of a group of peers. -/
def Peers.block (group : Peers) : Block where
  header := ["peers", group.name]
  lines := group.peers.map (Endpoint.line "peer")

/-- The block of a group of name servers. -/
def Resolvers.block (group : Resolvers) : Block where
  header := ["resolvers", group.name]
  lines :=
    group.nameservers.map (Endpoint.line "nameserver") ++
      flagLine "parse-resolv-conf" group.parseResolvConf ++
      countLine "resolve_retries" group.resolveRetries ++
      optionLine "timeout resolve" group.timeoutResolve ++
      optionLine "timeout retry" group.timeoutRetry ++
      group.hold.entries.map (fun (status, period) => ["hold", status, period]) ++
      countLine "accepted_payload_size" group.acceptedPayloadSize

/-- The block of a group of mail servers. -/
def Mailers.block (group : Mailers) : Block where
  header := ["mailers", group.name]
  lines :=
    group.mailers.map (Endpoint.line "mailer") ++ optionLine "timeout mail" group.timeoutMail

end Balancer
