import Balancer.Config
import Balancer.View.Value

/-!
# The view of a configuration

Every field of every record, in the order of the records, under the names that the document uses.
-/

namespace Balancer

/-! ### Enumerations -/

/-- The view of the mode of a proxy. -/
instance : HasView Mode where
  view
    | .http => .text "Http"
    | .tcp => .text "Tcp"

/-- The view of the family of a rule. -/
instance : HasView RuleKind where
  view
    | .httpRequest => .text "HttpRequest"
    | .httpResponse => .text "HttpResponse"
    | .httpAfterResponse => .text "HttpAfterResponse"
    | .tcpRequest => .text "TcpRequest"
    | .tcpResponse => .text "TcpResponse"
    | .httpCheck => .text "HttpCheck"
    | .tcpCheck => .text "TcpCheck"

/-- The view of the kind of a redirect. -/
instance : HasView RedirectKind where
  view
    | .location => .text "Location"
    | .leading => .text "Prefix"
    | .scheme => .text "Scheme"

/-- The view of the kind of a stick rule. -/
instance : HasView StickRuleKind where
  view
    | .matching => .text "Match"
    | .on => .text "On"
    | .storeRequest => .text "StoreRequest"
    | .storeResponse => .text "StoreResponse"

/-- The view of the kind of an error page. -/
instance : HasView ErrorPageKind where
  view
    | .file => .text "File"
    | .location => .text "Location"
    | .location302 => .text "Location302"
    | .location303 => .text "Location303"

/-- The view of the protocol of a health check. -/
instance : HasView CheckKind where
  view
    | .http => .text "Http"
    | .tcp => .text "Tcp"
    | .sslHello => .text "SslHello"
    | .mysql => .text "Mysql"
    | .pgsql => .text "Pgsql"
    | .redis => .text "Redis"
    | .smtp => .text "Smtp"
    | .ldap => .text "Ldap"

/-! ### Directives -/

/-- The view of an address to listen on. -/
instance : HasView Bind where
  view bind :=
    .record
      [("address", view bind.address),
       ("port", view bind.port),
       ("ssl", view bind.ssl),
       ("crt", view bind.crt),
       ("crt_list", view bind.crtList),
       ("ca_file", view bind.caFile),
       ("verify", view bind.verify),
       ("alpn", view bind.alpn),
       ("ciphers", view bind.ciphers),
       ("ciphersuites", view bind.ciphersuites),
       ("ssl_min_ver", view bind.sslMinVer),
       ("ssl_max_ver", view bind.sslMaxVer),
       ("strict_sni", view bind.strictSni),
       ("accept_proxy", view bind.acceptProxy),
       ("transparent", view bind.transparent),
       ("v4v6", view bind.v4v6),
       ("v6only", view bind.v6only),
       ("defer_accept", view bind.deferAccept),
       ("tfo", view bind.tfo),
       ("allow_0rtt", view bind.allow0rtt),
       ("interface", view bind.interface),
       ("name", view bind.name),
       ("mode", view bind.mode),
       ("user", view bind.user),
       ("group", view bind.group),
       ("level", view bind.level),
       ("maxconn", view bind.maxconn)]

/-- The view of a condition. -/
instance : HasView Acl where
  view acl :=
    .record
      [("name", view acl.name),
       ("criterion", view acl.criterion),
       ("flags", view acl.flags),
       ("values", view acl.values)]

/-- The view of a rule. -/
instance : HasView Rule where
  view rule :=
    .record
      [("kind", view rule.kind),
       ("action", view rule.action),
       ("params", view rule.params),
       ("condition", view rule.condition)]

/-- The view of a set of rules. -/
instance : HasView RuleSet where
  view rules :=
    .record
      [("http_request", view rules.httpRequest),
       ("http_response", view rules.httpResponse),
       ("http_after_response", view rules.httpAfterResponse),
       ("tcp_request", view rules.tcpRequest),
       ("tcp_response", view rules.tcpResponse),
       ("http_check", view rules.httpCheck),
       ("tcp_check", view rules.tcpCheck)]

/-- The view of a choice of a backend. -/
instance : HasView UseBackend where
  view choice :=
    .record
      [("backend", view choice.backend),
       ("condition", view choice.condition)]

/-- The view of a choice of a server. -/
instance : HasView UseServer where
  view choice :=
    .record
      [("server", view choice.server),
       ("condition", view choice.condition)]

/-- The view of a redirect. -/
instance : HasView Redirect where
  view redirect :=
    .record
      [("kind", view redirect.kind),
       ("target", view redirect.target),
       ("code", view redirect.code),
       ("drop_query", view redirect.dropQuery),
       ("append_slash", view redirect.appendSlash),
       ("set_cookie", view redirect.setCookie),
       ("condition", view redirect.condition)]

/-- The view of a stick table. -/
instance : HasView StickTable where
  view table :=
    .record
      [("kind", view table.kind),
       ("len", view table.len),
       ("size", view table.size),
       ("expire", view table.expire),
       ("nopurge", view table.nopurge),
       ("peers", view table.peers),
       ("store", view table.store)]

/-- The view of a stick rule. -/
instance : HasView StickRule where
  view rule :=
    .record
      [("kind", view rule.kind),
       ("pattern", view rule.pattern),
       ("table", view rule.table),
       ("condition", view rule.condition)]

/-- The view of a compression. -/
instance : HasView Compression where
  view compression :=
    .record
      [("algo", view compression.algo),
       ("types", view compression.types),
       ("offload", view compression.offload)]

/-- The view of an error page. -/
instance : HasView ErrorPage where
  view page :=
    .record
      [("code", view page.code),
       ("kind", view page.kind),
       ("target", view page.target)]

/-- The view of a statistics page. -/
instance : HasView Stats where
  view stats :=
    .record
      [("enable", view stats.enable),
       ("uri", view stats.uri),
       ("realm", view stats.realm),
       ("auth", view stats.auth),
       ("refresh", view stats.refresh),
       ("hide_version", view stats.hideVersion),
       ("show_legends", view stats.showLegends),
       ("show_node", view stats.showNode),
       ("admin", view stats.admin),
       ("scope", view stats.scope)]

/-- The view of a log target. -/
instance : HasView LogTarget where
  view log :=
    .record
      [("address", view log.address),
       ("facility", view log.facility),
       ("level", view log.level),
       ("min_level", view log.minLevel),
       ("format", view log.format),
       ("length", view log.length)]

/-- The view of a control socket. -/
instance : HasView StatsSocket where
  view socket :=
    .record
      [("path", view socket.path),
       ("mode", view socket.mode),
       ("level", view socket.level),
       ("user", view socket.user),
       ("group", view socket.group),
       ("expose_fd_listeners", view socket.exposeFdListeners)]

/-! ### Servers -/

/-- The view of a value of a slot type. -/
def SlotType.view : (type : SlotType) → type.Carrier → View
  | .flag, on => HasView.view on
  | .port, n => HasView.view n
  | .count, n => HasView.view n
  | .text, s => HasView.view s
  | .texts, items => HasView.view items

/-- The view of an option of a server. -/
def ServerSlot.view (slot : ServerSlot) : Option slot.type.Carrier → View
  | some value => slot.type.view value
  | none => .null

/-- The view of the options of a server: all of them, set or not. -/
instance : HasView ServerOptions where
  view options :=
    .record (ServerSlot.all.map fun slot => (slot.key, slot.view (options.get slot)))

/-- The view of the options that are set. -/
def ServerOptions.setView (options : ServerOptions) : View :=
  .record (ServerSlot.all.filterMap fun slot =>
    (options.get slot).map fun value => (slot.key, slot.type.view value))

/-- The view of a server. -/
instance : HasView Server where
  view server :=
    .record
      [("name", view server.name),
       ("address", view server.address),
       ("port", view server.port),
       ("params", view server.options),
       ("templates", view server.spreads)]

/-- The view of a family of servers. -/
instance : HasView ServerTemplate where
  view template :=
    .record
      [("prefix", view template.stem),
       ("count", view template.count),
       ("fqdn", view template.fqdn),
       ("port", view template.port),
       ("params", view template.options)]

/-- The view of a bound. -/
instance : HasView Bound where
  view
    | .integer n => .variant "Integer" (view n)
    | .expr source => .variant "Expr" (view source)

/-- The view of what a loop runs over. -/
instance : HasView LoopIterable where
  view
    | .range start stop =>
      .variant "Range" (.record [("start", view start), ("end", view stop)])
    | .list items => .variant "List" (view items)

/-- The view of a loop. -/
instance : HasView ServerLoop where
  view loop :=
    .record
      [("variable", view loop.binder),
       ("iterable", view loop.iterable),
       ("body", view loop.body)]

/-- The view of a health check. -/
instance : HasView HealthCheck where
  view check :=
    .record
      [("kind", view check.kind),
       ("method", view check.method),
       ("uri", view check.uri),
       ("version", view check.version),
       ("host", view check.host),
       ("expect", view check.expect),
       ("user", view check.user),
       ("disable_on_404", view check.disableOn404),
       ("inter", view check.inter),
       ("rise", view check.rise),
       ("fall", view check.fall)]

/-- The view of a cookie. -/
instance : HasView Cookie where
  view cookie :=
    .record
      [("name", view cookie.name),
       ("mode", view cookie.mode),
       ("indirect", view cookie.indirect),
       ("nocache", view cookie.nocache),
       ("httponly", view cookie.httponly),
       ("secure", view cookie.secure),
       ("domain", view cookie.domain),
       ("maxidle", view cookie.maxidle),
       ("maxlife", view cookie.maxlife)]

/-! ### Sections -/

/-- The view of a balancing algorithm. -/
instance : HasView Balance where
  view
    | .roundRobin => .text "RoundRobin"
    | .staticRr => .text "StaticRr"
    | .leastConn => .text "LeastConn"
    | .first => .text "First"
    | .source => .text "Source"
    | .uri => .text "Uri"
    | .random => .text "Random"
    | .other algorithm => .variant "Other" (.text algorithm)

/-- The view of the timeouts: all of them, set or not. -/
instance : HasView Timeouts where
  view timeouts :=
    .record (TimeoutSlot.all.map fun slot => (slot.key, view (timeouts.get slot)))

/-- The view of the options: all of them, on or not. -/
instance : HasView ProxyOptions where
  view options :=
    .record (ProxyFlag.all.map (fun flag => (flag.key, view (options.has flag))) ++
      [("forwardfor_except", view options.forwardforExcept)])

/-- The view of the body of a proxy section. -/
instance : HasView ProxyBody where
  view body :=
    .record
      [("mode", view body.mode),
       ("description", view body.description),
       ("disabled", view body.disabled),
       ("maxconn", view body.maxconn),
       ("log_global", view body.logGlobal),
       ("logs", view body.logs),
       ("log_format", view body.logFormat),
       ("unique_id_format", view body.uniqueIdFormat),
       ("unique_id_header", view body.uniqueIdHeader),
       ("timeouts", view body.timeouts),
       ("options", view body.options),
       ("acls", view body.acls),
       ("rules", view body.rules),
       ("stick_table", view body.stickTable),
       ("stick_rules", view body.stickRules),
       ("redirects", view body.redirects),
       ("stats", view body.stats),
       ("compression", view body.compression),
       ("error_pages", view body.errorPages)]

/-- The view of the accepting side. -/
instance : HasView Intake where
  view intake :=
    .record
      [("binds", view intake.binds),
       ("monitor_uri", view intake.monitorUri),
       ("use_backends", view intake.useBackends),
       ("default_backend", view intake.defaultBackend)]

/-- The view of the serving side. -/
instance : HasView Pool where
  view pool :=
    .record
      [("balance", view pool.balance),
       ("hash_type", view pool.hashType),
       ("cookie", view pool.cookie),
       ("retries", view pool.retries),
       ("http_reuse", view pool.httpReuse),
       ("fullconn", view pool.fullconn),
       ("health_check", view pool.healthCheck),
       ("use_servers", view pool.useServers),
       ("default_server", view pool.defaultServer),
       ("server_templates", view pool.serverTemplates),
       ("servers", view pool.servers),
       ("loops", view pool.loops)]

/-- The view of the process-wide settings. -/
instance : HasView Global where
  view global :=
    .record
      [("daemon", view global.daemon),
       ("master_worker", view global.masterWorker),
       ("user", view global.user),
       ("group", view global.group),
       ("uid", view global.uid),
       ("gid", view global.gid),
       ("chroot", view global.chroot),
       ("pidfile", view global.pidfile),
       ("nbthread", view global.nbthread),
       ("cpu_map", view global.cpuMap),
       ("hard_stop_after", view global.hardStopAfter),
       ("insecure_fork_wanted", view global.insecureForkWanted),
       ("description", view global.description),
       ("maxconn", view global.maxconn),
       ("maxconnrate", view global.maxconnrate),
       ("maxsessrate", view global.maxsessrate),
       ("maxsslconn", view global.maxsslconn),
       ("maxsslrate", view global.maxsslrate),
       ("ulimit_n", view global.ulimitN),
       ("spread_checks", view global.spreadChecks),
       ("ca_base", view global.caBase),
       ("crt_base", view global.crtBase),
       ("ssl_default_bind_ciphers", view global.sslDefaultBindCiphers),
       ("ssl_default_bind_ciphersuites", view global.sslDefaultBindCiphersuites),
       ("ssl_default_bind_options", view global.sslDefaultBindOptions),
       ("ssl_default_server_ciphers", view global.sslDefaultServerCiphers),
       ("ssl_default_server_ciphersuites", view global.sslDefaultServerCiphersuites),
       ("ssl_default_server_options", view global.sslDefaultServerOptions),
       ("ssl_dh_param_file", view global.sslDhParamFile),
       ("ssl_server_verify", view global.sslServerVerify),
       ("logs", view global.logs),
       ("log_tag", view global.logTag),
       ("log_send_hostname", view global.logSendHostname),
       ("stats_sockets", view global.statsSockets),
       ("stats_timeout", view global.statsTimeout),
       ("tune", view global.tune),
       ("listener_multi_queue", view global.listenerMultiQueue),
       ("idle_pool_shared", view global.idlePoolShared),
       ("ssl_keylog", view global.sslKeylog),
       ("setenv", view global.setenv),
       ("lua_load", view global.luaLoad)]

/-- The view of the inherited settings. -/
instance : HasView Defaults where
  view defaults :=
    .record
      [("name", view defaults.name),
       ("common", view defaults.body),
       ("back", view defaults.pool)]

/-- The view of a frontend. -/
instance : HasView Frontend where
  view frontend :=
    .record
      [("name", view frontend.name),
       ("common", view frontend.body),
       ("front", view frontend.intake)]

/-- The view of a backend. -/
instance : HasView Backend where
  view backend :=
    .record
      [("name", view backend.name),
       ("common", view backend.body),
       ("back", view backend.pool)]

/-- The view of a `listen` section. -/
instance : HasView Listen where
  view listen :=
    .record
      [("name", view listen.name),
       ("common", view listen.body),
       ("front", view listen.intake),
       ("back", view listen.pool)]

/-- The view of a script; all scripts are of one kind. -/
instance : HasView Script where
  view script :=
    .record
      [("name", view script.name),
       ("kind", .text "Lua"),
       ("path", view script.path),
       ("source", view script.source)]

/-- The view of an endpoint. -/
instance : HasView Endpoint where
  view endpoint :=
    .record
      [("name", view endpoint.name),
       ("address", view endpoint.address),
       ("port", view endpoint.port)]

/-- The view of a group of peers. -/
instance : HasView Peers where
  view group :=
    .record
      [("name", view group.name),
       ("peers", view group.peers)]

/-- The view of a group of name servers. -/
instance : HasView Resolvers where
  view group :=
    .record
      [("name", view group.name),
       ("nameservers", view group.nameservers),
       ("parse_resolv_conf", view group.parseResolvConf),
       ("resolve_retries", view group.resolveRetries),
       ("timeout_resolve", view group.timeoutResolve),
       ("timeout_retry", view group.timeoutRetry),
       ("hold", view group.hold),
       ("accepted_payload_size", view group.acceptedPayloadSize)]

/-- The view of a group of mail servers. -/
instance : HasView Mailers where
  view group :=
    .record
      [("name", view group.name),
       ("mailers", view group.mailers),
       ("timeout_mail", view group.timeoutMail)]

/-! ### The whole -/

/-- The view of a variable: its name stands beside its value. -/
def variableView : String × Value → String × View
  | (name, value) => (name, .record [("name", view name), ("value", view value)])

/-- The view of a template; all templates are for servers. -/
instance : HasView Template where
  view template :=
    .record
      [("name", view template.name),
       ("kind", .text "Server"),
       ("params", view template.params)]

/-- **The view of a configuration.** -/
instance : HasView Configuration where
  view config :=
    .record
      [("global", view config.global),
       ("defaults", view config.defaults),
       ("frontends", view config.frontends),
       ("backends", view config.backends),
       ("listens", view config.listens),
       ("scripts", view config.scripts),
       ("peers", view config.peers),
       ("resolvers", view config.resolvers),
       ("mailers", view config.mailers),
       ("variables", .record (config.definitions.entries.map variableView)),
       ("templates", view config.templates),
       ("imports", view config.imports)]

end Balancer
