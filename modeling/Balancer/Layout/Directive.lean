import Balancer.Config
import Balancer.Layout.Rule
import Balancer.Layout.Server

/-!
# The lines of directives

How each of the flat records of a configuration is written.
-/

namespace Balancer

open Layout Text

/-- The items with commas between them, where there are any. -/
def commaList (items : List String) : Option String :=
  if items.isEmpty then none else some (join "," items)

/-! ### Single lines -/

/-- The line of a log target. -/
def LogTarget.line (log : LogTarget) : Line :=
  ["log", log.address] ++ count "len" log.length ++ option "format" log.format ++
    [log.facility] ++ log.level.toList ++ log.minLevel.toList

/-- The line of a control socket. -/
def StatsSocket.line (socket : StatsSocket) : Line :=
  ["stats socket", socket.path] ++ option "mode" socket.mode ++ option "level" socket.level ++
    option "user" socket.user ++ option "group" socket.group ++
    flag "expose-fd listeners" socket.exposeFdListeners

/-- The line of an address to listen on. -/
def Bind.line (bind : Bind) : Line :=
  ["bind", Layout.address bind.address bind.port] ++ flag "ssl" bind.ssl ++
    bind.crt.flatMap (fun crt => ["crt", crt]) ++ option "crt-list" bind.crtList ++
    option "ca-file" bind.caFile ++ option "verify" bind.verify ++
    option "alpn" (commaList bind.alpn) ++ option "ciphers" bind.ciphers ++
    option "ciphersuites" bind.ciphersuites ++ option "ssl-min-ver" bind.sslMinVer ++
    option "ssl-max-ver" bind.sslMaxVer ++ flag "strict-sni" bind.strictSni ++
    flag "accept-proxy" bind.acceptProxy ++ flag "transparent" bind.transparent ++
    flag "v4v6" bind.v4v6 ++ flag "v6only" bind.v6only ++ flag "defer-accept" bind.deferAccept ++
    flag "tfo" bind.tfo ++ flag "allow-0rtt" bind.allow0rtt ++
    option "interface" bind.interface ++ option "name" bind.name ++ option "mode" bind.mode ++
    option "user" bind.user ++ option "group" bind.group ++ option "level" bind.level ++
    count "maxconn" bind.maxconn

/-- The line of a named condition. -/
def Acl.line (acl : Acl) : Line :=
  ["acl", acl.name, acl.criterion] ++ acl.flags ++ acl.values

/-- The line of a choice of a backend. -/
def UseBackend.line (choice : UseBackend) : Line :=
  ["use_backend", choice.backend] ++ Layout.condition choice.condition

/-- The line of a choice of a server. -/
def UseServer.line (choice : UseServer) : Line :=
  ["use-server", choice.server] ++ Layout.condition choice.condition

/-- The line of a redirect. -/
def Redirect.line (redirect : Redirect) : Line :=
  ["redirect", redirect.kind.keyword, redirect.target] ++ count "code" redirect.code ++
    flag "drop-query" redirect.dropQuery ++ flag "append-slash" redirect.appendSlash ++
    option "set-cookie" redirect.setCookie ++ Layout.condition redirect.condition

/-- The line of a stick table. -/
def StickTable.line (table : StickTable) : Line :=
  ["stick-table", "type", table.kind] ++ count "len" table.len ++ ["size", table.size] ++
    option "expire" table.expire ++ flag "nopurge" table.nopurge ++
    option "peers" table.peers ++ option "store" (commaList table.store)

/-- The line of a stick rule. -/
def StickRule.line (rule : StickRule) : Line :=
  ["stick", rule.kind.keyword, rule.pattern] ++ option "table" rule.table ++
    Layout.condition rule.condition

/-- The line of an error page. -/
def ErrorPage.line (page : ErrorPage) : Line :=
  [page.kind.keyword, natText page.code, page.target]

/-- The line of a cookie. -/
def Cookie.line (cookie : Cookie) : Line :=
  ["cookie", cookie.name] ++ cookie.mode.toList ++ flag "indirect" cookie.indirect ++
    flag "nocache" cookie.nocache ++ flag "httponly" cookie.httponly ++
    flag "secure" cookie.secure ++ option "domain" cookie.domain ++
    option "maxidle" cookie.maxidle ++ option "maxlife" cookie.maxlife

/-- The line of an endpoint under a keyword. -/
def Endpoint.line (keyword : String) (endpoint : Endpoint) : Line :=
  [keyword, endpoint.name, Layout.address endpoint.address endpoint.port]

/-! ### Groups of lines -/

/-- The line of an option; `forwardfor` also names the network that it leaves out. -/
def ProxyFlag.line (except : Option String) (flag : ProxyFlag) : Line :=
  match flag, except with
  | .forwardfor, some network => ["option forwardfor except", network]
  | _, _ => ["option", flag.wire]

/-- The lines of the options. -/
def ProxyOptions.lines (options : ProxyOptions) : List Line :=
  options.enabled.map (ProxyFlag.line options.forwardforExcept)

/-- The lines of the timeouts. -/
def Timeouts.lines (timeouts : Timeouts) : List Line :=
  timeouts.written.map fun (name, value) => ["timeout", name, value]

/-- The first line of an HTTP check: the request where the author gives any of it. -/
def HealthCheck.requestLine (check : HealthCheck) : Line :=
  if check.method.isSome || check.uri.isSome then
    ["option httpchk", check.method.getD "GET", check.uri.getD "/"] ++ check.version.toList
  else ["option httpchk"]

/-- The lines of a health check. -/
def HealthCheck.lines (check : HealthCheck) : List Line :=
  match check.kind with
  | .http =>
    [check.requestLine] ++ optionLine "http-check send hdr Host" check.host ++
      optionLine "http-check expect" check.expect ++
      flagLine "http-check disable-on-404" check.disableOn404
  | .tcp => [["option tcp-check"]] ++ optionLine "tcp-check expect" check.expect
  | .sslHello => [["option ssl-hello-chk"]]
  | .mysql => ["option mysql-check" :: option "user" check.user]
  | .pgsql => ["option pgsql-check" :: option "user" check.user]
  | .redis => [["option redis-check"]]
  | .smtp => [["option smtpchk"]]
  | .ldap => [["option ldap-check"]]

/-- The lines of the statistics page. Blanks in its realm are escaped. -/
def Stats.lines (stats : Stats) : List Line :=
  flagLine "stats enable" stats.enable ++ optionLine "stats uri" stats.uri ++
    optionLine "stats realm" (stats.realm.map (replaceChar ' ' ['\\', ' '])) ++
    stats.auth.map (fun credentials => ["stats auth", credentials]) ++
    optionLine "stats refresh" stats.refresh ++
    flagLine "stats hide-version" stats.hideVersion ++
    flagLine "stats show-legends" stats.showLegends ++ flagLine "stats show-node" stats.showNode ++
    (stats.admin.map fun admin => "stats admin" :: Layout.condition (some admin)).toList ++
    stats.scope.map (fun scope => ["stats scope", scope])

/-- The lines of compression. -/
def Compression.lines (compression : Compression) : List Line :=
  listLine "compression algo" compression.algo ++
    listLine "compression type" compression.types ++
    flagLine "compression offload" compression.offload

end Balancer
