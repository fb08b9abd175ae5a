import Balancer.Config
import Balancer.Entry.Error

/-!
# Entries

An entry is a child of a section whose kind has been decided: a pair with its value, or one of the
directives that sections are made of. Between the document and the configuration stands the list
of entries of each section.
-/

namespace Balancer

/-- **A directive** with its kind decided. -/
inductive Directive where
  | pair (key : String) (value : Value)
  | bind (content : Bind)
  | acl (content : Acl)
  | rule (content : Rule)
  | useBackend (content : UseBackend)
  | useServer (content : UseServer)
  | redirect (content : Redirect)
  | stickTable (content : StickTable)
  | stickRule (content : StickRule)
  | compression (content : Compression)
  | errorPage (content : ErrorPage)
  | stats (content : Stats)
  | log (content : LogTarget)
  | timeouts (content : Timeouts)
  | options (content : ProxyOptions)
  | cookie (content : Cookie)
  | healthCheck (content : HealthCheck)
  | server (content : Server)
  | defaultServer (content : ServerOptions)
  | serverTemplate (content : ServerTemplate)
  | loop (content : ServerLoop)
  | statsSocket (content : StatsSocket)
  | tune (content : OrderedMap String)
  | setenv (content : OrderedMap String)
  | hold (content : OrderedMap String)
  | peer (content : Endpoint)
  | nameserver (content : Endpoint)
  | mailer (content : Endpoint)
deriving Repr

/-- The name of a directive as the author wrote it. -/
def Directive.name : Directive → String
  | pair key _ => key
  | bind _ => "bind"
  | acl _ => "acl"
  | rule content => content.kind.directive
  | useBackend _ => "use_backend"
  | useServer _ => "use_server"
  | redirect _ => "redirect"
  | stickTable _ => "stick_table"
  | stickRule _ => "stick"
  | compression _ => "compression"
  | errorPage _ => "error_page"
  | stats _ => "stats"
  | log _ => "log"
  | timeouts _ => "timeouts"
  | options _ => "options"
  | cookie _ => "cookie"
  | healthCheck _ => "health_check"
  | server _ => "server"
  | defaultServer _ => "default_server"
  | serverTemplate _ => "server_template"
  | loop _ => "for"
  | statsSocket _ => "stats_socket"
  | tune _ => "tune"
  | setenv _ => "setenv"
  | hold _ => "hold"
  | peer _ => "peer"
  | nameserver _ => "nameserver"
  | mailer _ => "mailer"

/-- **An entry** of a section: a directive and where it stands. -/
structure Entry where
  directive : Directive
  position : Option Position
deriving Repr

end Balancer
