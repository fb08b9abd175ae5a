import Balancer.Config.ServerOptions
import Balancer.Value

/-!
# Servers

Concrete servers, the loops that produce them, health checks and cookies.
-/

namespace Balancer

/-! ### Servers -/

/-- **A server**, with the names of the templates it still has to take over. -/
structure Server where
  name : String
  address : String
  port : Option Nat := none
  options : ServerOptions := {}
  spreads : List String := []
deriving DecidableEq, Repr, Inhabited

/-- **A family of servers** found by name resolution at run time. -/
structure ServerTemplate where
  stem : String
  count : String
  fqdn : String
  port : Option Nat
  options : ServerOptions
deriving DecidableEq, Repr

/-! ### Loops -/

/-- A bound of a range: an integer, or a text that has to be evaluated first. -/
inductive Bound where
  | integer (n : Int64)
  | expr (source : String)
deriving DecidableEq, Repr

/-- What a loop over servers runs over. -/
inductive LoopIterable where
  | range (start stop : Bound)
  | list (items : List Value)
deriving Repr

/-- **A loop over servers**: its body is repeated for each value of the loop variable. -/
structure ServerLoop where
  binder : String
  iterable : LoopIterable
  body : List Server
deriving Repr

/-! ### Health checks -/

/-- The protocol of a health check. -/
inductive CheckKind where
  | http | tcp | sslHello | mysql | pgsql | redis | smtp | ldap
deriving DecidableEq, Repr

namespace CheckKind

/-- The name of the protocol in a document. -/
def directive : CheckKind → String
  | http => "http"
  | tcp => "tcp"
  | sslHello => "ssl_hello"
  | mysql => "mysql"
  | pgsql => "pgsql"
  | redis => "redis"
  | smtp => "smtp"
  | ldap => "ldap"

/-- The protocol with a given name in a document. -/
def ofDirective? (name : String) : Option CheckKind :=
  [http, tcp, sslHello, mysql, pgsql, redis, smtp, ldap].find? fun kind => kind.directive == name

/-- Whether the check has to log in to a database. -/
def isDatabase : CheckKind → Bool
  | mysql | pgsql => true
  | _ => false

end CheckKind

/-- **A health check.** -/
structure HealthCheck where
  kind : CheckKind
  method : Option String := none
  uri : Option String := none
  version : Option String := none
  host : Option String := none
  expect : Option String := none
  user : Option String := none
  disableOn404 : Bool := false
  inter : Option String := none
  rise : Nat
  fall : Nat
deriving DecidableEq, Repr

/-- The number of successes after which the engine takes a server up on its own account. -/
def HealthCheck.defaultRise : Nat := 2

/-- The number of failures after which the engine takes a server down on its own account. -/
def HealthCheck.defaultFall : Nat := 3

/-! ### Cookies -/

/-- **A cookie** that keeps a client on its server. -/
structure Cookie where
  name : String
  mode : Option String
  indirect : Bool
  nocache : Bool
  httponly : Bool
  secure : Bool
  domain : Option String
  maxidle : Option String
  maxlife : Option String
deriving DecidableEq, Repr

end Balancer
