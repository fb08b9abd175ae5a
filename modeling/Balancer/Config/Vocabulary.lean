import Balancer.Text.Search

/-!
# Modes, balancing, timeouts and options of a proxy

The small vocabularies that proxy sections share. Timeouts and options are open to repeated
blocks: a later block is merged into what is there, slot by slot.
-/

namespace Balancer

open Text

/-! ### Modes -/

/-- The layer at which a proxy works. -/
inductive Mode where
  | http | tcp
deriving DecidableEq, Repr

/-- The keyword of a mode. -/
def Mode.keyword : Mode → String
  | http => "http"
  | tcp => "tcp"

/-- The mode with a given keyword. -/
def Mode.ofKeyword? (word : String) : Option Mode :=
  [Mode.http, Mode.tcp].find? fun mode => mode.keyword == word

/-! ### Balancing -/

/-- **How a server is chosen**: one of the well known algorithms, or any other one with its
arguments as the author wrote it. -/
inductive Balance where
  | roundRobin | staticRr | leastConn | first | source | uri | random
  | other (algorithm : String)
deriving DecidableEq, Repr

/-- The text of a balancing algorithm. -/
def Balance.text : Balance → String
  | roundRobin => "roundrobin"
  | staticRr => "static-rr"
  | leastConn => "leastconn"
  | first => "first"
  | source => "source"
  | uri => "uri"
  | random => "random"
  | other algorithm => algorithm

/-- The balancing algorithm that a text names. -/
def Balance.ofText (s : String) : Balance :=
  let known := [roundRobin, staticRr, leastConn, first, source, uri, random]
  (known.find? fun balance => balance.text == s).getD (other s)

/-! ### Timeouts -/

/-- The timeouts that a proxy can set, in the order in which they are written. -/
inductive TimeoutSlot where
  | connect | client | server | httpRequest | httpKeepAlive | queue | tunnel | check | clientFin
  | serverFin | tarpit
deriving DecidableEq, Repr

namespace TimeoutSlot

/-- All timeouts in order. -/
def all : List TimeoutSlot :=
  [connect, client, server, httpRequest, httpKeepAlive, queue, tunnel, check, clientFin,
   serverFin, tarpit]

/-- The key of a timeout in a document. -/
def key : TimeoutSlot → String
  | connect => "connect"
  | client => "client"
  | server => "server"
  | httpRequest => "http_request"
  | httpKeepAlive => "http_keep_alive"
  | queue => "queue"
  | tunnel => "tunnel"
  | check => "check"
  | clientFin => "client_fin"
  | serverFin => "server_fin"
  | tarpit => "tarpit"

/-- The timeout with a given key. -/
def ofKey? (key : String) : Option TimeoutSlot :=
  all.find? fun slot => slot.key == key

/-- The name of a timeout in the written configuration: its key with dashes. -/
def wire (slot : TimeoutSlot) : String := replaceChar '_' ['-'] slot.key

end TimeoutSlot

/-- **The timeouts of a proxy.** -/
structure Timeouts where
  connect : Option String := none
  client : Option String := none
  server : Option String := none
  httpRequest : Option String := none
  httpKeepAlive : Option String := none
  queue : Option String := none
  tunnel : Option String := none
  check : Option String := none
  clientFin : Option String := none
  serverFin : Option String := none
  tarpit : Option String := none
deriving DecidableEq, Repr, Inhabited

namespace Timeouts

/-- The value of a timeout. -/
def get (timeouts : Timeouts) : TimeoutSlot → Option String
  | .connect => timeouts.connect
  | .client => timeouts.client
  | .server => timeouts.server
  | .httpRequest => timeouts.httpRequest
  | .httpKeepAlive => timeouts.httpKeepAlive
  | .queue => timeouts.queue
  | .tunnel => timeouts.tunnel
  | .check => timeouts.check
  | .clientFin => timeouts.clientFin
  | .serverFin => timeouts.serverFin
  | .tarpit => timeouts.tarpit

/-- The timeouts with one of them set. -/
def set (timeouts : Timeouts) (value : String) : TimeoutSlot → Timeouts
  | .connect => { timeouts with connect := value }
  | .client => { timeouts with client := value }
  | .server => { timeouts with server := value }
  | .httpRequest => { timeouts with httpRequest := value }
  | .httpKeepAlive => { timeouts with httpKeepAlive := value }
  | .queue => { timeouts with queue := value }
  | .tunnel => { timeouts with tunnel := value }
  | .check => { timeouts with check := value }
  | .clientFin => { timeouts with clientFin := value }
  | .serverFin => { timeouts with serverFin := value }
  | .tarpit => { timeouts with tarpit := value }

/-- The timeouts after a later block: what it sets replaces what was there. -/
def merge (timeouts later : Timeouts) : Timeouts where
  connect := later.connect.or timeouts.connect
  client := later.client.or timeouts.client
  server := later.server.or timeouts.server
  httpRequest := later.httpRequest.or timeouts.httpRequest
  httpKeepAlive := later.httpKeepAlive.or timeouts.httpKeepAlive
  queue := later.queue.or timeouts.queue
  tunnel := later.tunnel.or timeouts.tunnel
  check := later.check.or timeouts.check
  clientFin := later.clientFin.or timeouts.clientFin
  serverFin := later.serverFin.or timeouts.serverFin
  tarpit := later.tarpit.or timeouts.tarpit

/-- The timeouts that are set, under their written names. -/
def written (timeouts : Timeouts) : List (String × String) :=
  TimeoutSlot.all.filterMap fun slot => (timeouts.get slot).map fun value => (slot.wire, value)

end Timeouts

/-! ### Options -/

/-- The options that a proxy can switch on, in the order in which they are written. -/
inductive ProxyFlag where
  | httplog | tcplog | dontlognull | dontlogNormal | logHealthChecks | logSeparateErrors
  | logasap | forwardfor | httpServerClose | httpKeepAlive | httpclose | httpBufferRequest
  | httpNoDelay | redispatch | abortonclose | allbackups | preferLastServer | persist
  | tcpSmartAccept | tcpSmartConnect | tcpka | clitcpka | srvtcpka | spliceAuto
  | independentStreams | nolinger | contstats | socketStats
deriving DecidableEq, Repr

namespace ProxyFlag

/-- All options in order. -/
def all : List ProxyFlag :=
  [httplog, tcplog, dontlognull, dontlogNormal, logHealthChecks, logSeparateErrors, logasap,
   forwardfor, httpServerClose, httpKeepAlive, httpclose, httpBufferRequest, httpNoDelay,
   redispatch, abortonclose, allbackups, preferLastServer, persist, tcpSmartAccept,
   tcpSmartConnect, tcpka, clitcpka, srvtcpka, spliceAuto, independentStreams, nolinger,
   contstats, socketStats]

/-- The key of an option in a document. -/
def key : ProxyFlag → String
  | httplog => "httplog"
  | tcplog => "tcplog"
  | dontlognull => "dontlognull"
  | dontlogNormal => "dontlog_normal"
  | logHealthChecks => "log_health_checks"
  | logSeparateErrors => "log_separate_errors"
  | logasap => "logasap"
  | forwardfor => "forwardfor"
  | httpServerClose => "http_server_close"
  | httpKeepAlive => "http_keep_alive"
  | httpclose => "httpclose"
  | httpBufferRequest => "http_buffer_request"
  | httpNoDelay => "http_no_delay"
  | redispatch => "redispatch"
  | abortonclose => "abortonclose"
  | allbackups => "allbackups"
  | preferLastServer => "prefer_last_server"
  | persist => "persist"
  | tcpSmartAccept => "tcp_smart_accept"
  | tcpSmartConnect => "tcp_smart_connect"
  | tcpka => "tcpka"
  | clitcpka => "clitcpka"
  | srvtcpka => "srvtcpka"
  | spliceAuto => "splice_auto"
  | independentStreams => "independent_streams"
  | nolinger => "nolinger"
  | contstats => "contstats"
  | socketStats => "socket_stats"

/-- The option with a given key. -/
def ofKey? (key : String) : Option ProxyFlag :=
  all.find? fun flag => flag.key == key

/-- The name of an option in the written configuration: its key with dashes. -/
def wire (flag : ProxyFlag) : String := replaceChar '_' ['-'] flag.key

/-- Whether an option has a meaning in HTTP mode only. -/
def httpOnly : ProxyFlag → Bool
  | httplog | forwardfor | httpServerClose | httpKeepAlive | httpclose | httpBufferRequest
  | httpNoDelay => true
  | _ => false

/-- Whether an option has a meaning in TCP mode only. -/
def tcpOnly : ProxyFlag → Bool
  | tcplog => true
  | _ => false

end ProxyFlag

/-- **The options of a proxy**: the set of those that are on, one bit for each, and the network
that `forwardfor` leaves out. -/
structure ProxyOptions where
  flags : BitVec 28 := 0
  forwardforExcept : Option String := none
deriving DecidableEq, Repr, Inhabited

namespace ProxyOptions

/-- Whether an option is on. -/
def has (options : ProxyOptions) (flag : ProxyFlag) : Bool :=
  options.flags.getLsbD flag.ctorIdx

/-- The options with one of them switched on or off. -/
def set (options : ProxyOptions) (flag : ProxyFlag) (on : Bool) : ProxyOptions :=
  let bit := BitVec.twoPow 28 flag.ctorIdx
  { options with flags := if on then options.flags ||| bit else options.flags &&& ~~~bit }

/-- The options after a later block: what either switches on is on. -/
def merge (options later : ProxyOptions) : ProxyOptions where
  flags := options.flags ||| later.flags
  forwardforExcept := later.forwardforExcept.or options.forwardforExcept

/-- The options that are on, in order. -/
def enabled (options : ProxyOptions) : List ProxyFlag :=
  ProxyFlag.all.filter options.has

end ProxyOptions

end Balancer
