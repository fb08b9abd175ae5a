import Balancer.Report.Finding
import Balancer.Text.Blank

/-!
# Audit

Settings that work and are still a risk: privileges that are never dropped, statistics pages that
anybody can read, old protocols, certificates nobody checks, broken ciphers. Each risk has a level.
-/

namespace Balancer

open Text

/-! ### Risks -/

/-- **Levels of risk**, from the least to the greatest. -/
inductive Level where
  | low | medium | high | critical
deriving DecidableEq, Repr

namespace Level

/-- All levels, from the least to the greatest. -/
def all : List Level := [low, medium, high, critical]

/-- The place of a level in the order. -/
def rank : Level → Nat
  | low => 0
  | medium => 1
  | high => 2
  | critical => 3

/-- The name of a level. -/
def text : Level → String
  | low => "low"
  | medium => "medium"
  | high => "high"
  | critical => "critical"

/-- The greater of two levels. -/
def max (a b : Level) : Level := if a.rank ≤ b.rank then b else a

end Level

/-- **The risks** that a configuration can take. -/
inductive Risk where
  | runsAsRoot
  | keepsPrivileges
  | noChroot
  | openSocket (path : String)
  | openStats
  | weakCredentials (user : String)
  | openAdmin
  | showsVersion
  | trustsServers
  | legacyProtocols (address : String)
  | skipsVerification (server : String)
  | weakCiphers (directive : String) (ciphers : List String)
deriving DecidableEq, Repr

/-- The level of a risk. -/
def Risk.level : Risk → Level
  | runsAsRoot | openAdmin => .critical
  | keepsPrivileges | openStats | weakCredentials _ | trustsServers | weakCiphers _ _ => .high
  | noChroot | openSocket _ | legacyProtocols _ | skipsVerification _ => .medium
  | showsVersion => .low

/-- The text of a risk. -/
def Risk.message : Risk → String
  | runsAsRoot => "runs as root"
  | keepsPrivileges => "no `user` set, privileges are never dropped"
  | noChroot => "no `chroot`, a compromised process sees the whole filesystem"
  | openSocket path => s!"admin stats socket `{path}` without a file mode"
  | openStats => "stats page without authentication"
  | weakCredentials user => s!"weak stats credentials for `{user}`"
  | openAdmin => "stats admin enabled without authentication"
  | showsVersion => "stats page discloses the version"
  | trustsServers => "ssl-server-verify none disables certificate checks for every server"
  | legacyProtocols address =>
    s!"ssl bind {address} accepts legacy protocol versions, set ssl_min_ver"
  | skipsVerification server => s!"server `{server}` skips certificate verification"
  | weakCiphers directive ciphers => s!"{directive} enables weak ciphers: " ++ join ":" ciphers

/-- **An issue**: a risk and the section that takes it. -/
structure Issue where
  header : Header
  risk : Risk
deriving DecidableEq, Repr

namespace Issue

/-- The level of an issue. -/
def level (issue : Issue) : Level := issue.risk.level

/-- The text of an issue. -/
def text (issue : Issue) : String :=
  "[" ++ issue.level.text ++ "] " ++ issue.header.text ++ ": " ++ issue.risk.message

end Issue

/-- The texts of the issues, one to a line. -/
def issuesText (issues : List Issue) : String :=
  join "" (issues.map fun issue => issue.text ++ "\n")

/-- The greatest level among the issues. -/
def highestLevel? (issues : List Issue) : Option Level :=
  issues.foldl
    (fun highest issue =>
      some (match highest with | none => issue.level | some level => level.max issue.level))
    none

/-- The issues at a level or above it. -/
def issuesFrom (level : Level) (issues : List Issue) : List Issue :=
  issues.filter fun issue => level.rank ≤ issue.level.rank

/-! ### Ciphers and passwords -/

/-- The parts of a cipher's name that mark it as broken. -/
def weakCipherParts : List String := ["RC4", "3DES", "DES", "MD5", "NULL", "EXPORT"]

/-- Whether an entry of a cipher list puts ciphers on the list; others take them off. -/
def isAddition (entry : String) : Bool :=
  match entry.toList with
  | [] => false
  | c :: _ => c != '!' && c != '-'

/-- Whether a cipher's name marks it as broken, in capitals or not. -/
def isWeakCipher (entry : String) : Bool :=
  let upper := entry.toList.map Char.toUpper
  weakCipherParts.any fun part => occursIn part.toList upper

/-- **The broken ciphers that a cipher list puts in.** -/
def weakCiphers (list : String) : List String :=
  let entries := (splitChar ':' list.toList).map fun entry => trim (String.ofList entry)
  entries.filter fun entry => isAddition entry && isWeakCipher entry

/-- Passwords that are tried first. -/
def weakPasswords : List String :=
  ["admin", "password", "haproxy", "changeme", "secret", "root", "123456", "12345678"]

/-- The least length of a password, in bytes. -/
def minPasswordSize : Nat := 8

/-- Whether credentials, `user:password`, are easy to guess. -/
def areWeakCredentials (auth : String) : Bool :=
  match splitOnce? auth ":" with
  | none => true
  | some (user, password) =>
    password.utf8ByteSize < minPasswordSize || password == user ||
      weakPasswords.contains (String.ofList (password.toList.map Char.toLower))

/-- The user in credentials. -/
def credentialsUser (auth : String) : String :=
  match splitOnce? auth ":" with
  | some (user, _) => user
  | none => auth

/-! ### The process -/

/-- The header of the process-wide settings. -/
def globalHeader : Header := ⟨"global", none⟩

/-- The risks in the process-wide settings. -/
def Global.risks (global : Global) : List Risk :=
  let identity :=
    if global.user = some "root" ∨ global.uid = some 0 then [Risk.runsAsRoot]
    else if global.user.isNone && global.uid.isNone then [.keepsPrivileges]
    else []
  let sockets := global.statsSockets.filter fun socket =>
    socket.level == some "admin" && socket.mode.isNone
  identity ++ (if global.chroot.isNone then [.noChroot] else []) ++
    sockets.map fun socket => .openSocket socket.path

/-! ### Statistics pages -/

/-- The risks in a statistics page that is reachable. -/
def Stats.risks (stats : Stats) : List Risk :=
  if !stats.enable && stats.uri.isNone then []
  else
    (if stats.auth.isEmpty then [.openStats] else []) ++
      ((stats.auth.filter areWeakCredentials).map fun auth =>
        .weakCredentials (credentialsUser auth)) ++
      (if stats.admin.isSome && stats.auth.isEmpty then [.openAdmin] else []) ++
      (if stats.hideVersion then [] else [.showsVersion])

/-! ### Transport security -/

/-- Whether the process-wide settings rule out old protocols. -/
def Global.requiresModernProtocols (global : Global) : Bool :=
  global.sslDefaultBindOptions.any fun option =>
    startsWith option "ssl-min-ver" || option == "no-tlsv10"

/-- A list of ciphers, the directive it stands in, and the section. -/
structure CipherList where
  header : Header
  directive : String
  ciphers : String

/-- The issue with a list of ciphers, if it has broken ones. -/
def CipherList.issue? (list : CipherList) : Option Issue :=
  let weak := weakCiphers list.ciphers
  if weak.isEmpty then none else some ⟨list.header, .weakCiphers list.directive weak⟩

/-- The cipher lists in the process-wide settings. -/
def Global.cipherLists (global : Global) : List CipherList :=
  global.sslDefaultBindCiphers.toList.map
      (fun list => ⟨globalHeader, "ssl-default-bind-ciphers", list⟩) ++
    global.sslDefaultServerCiphers.toList.map
      fun list => ⟨globalHeader, "ssl-default-server-ciphers", list⟩

/-- The cipher lists of an accepting side. -/
def Intake.cipherLists (header : Header) (intake : Intake) : List CipherList :=
  (intake.binds.filter Bind.ssl).filterMap fun bind =>
    bind.ciphers.map fun list => ⟨header, "bind ciphers", list⟩

/-- The risks of an accepting side that does not rule out old protocols. -/
def Intake.risks (intake : Intake) : List Risk :=
  (intake.binds.filter fun bind => bind.ssl && bind.sslMinVer.isNone).map fun bind =>
    .legacyProtocols bind.address

/-- The names of the servers and families of servers of a pool, with their options. -/
def Pool.serverOptions (pool : Pool) : List (String × ServerOptions) :=
  pool.servers.map (fun server => (server.name, server.options)) ++
    pool.serverTemplates.map fun template => (template.stem, template.options)

/-- The risks in the options of a pool's servers. -/
def Pool.risks (pool : Pool) : List Risk :=
  (pool.serverOptions.filter fun (_, options) => options.verify == some "none").map
    fun (name, _) => .skipsVerification name

/-- The cipher lists of a pool's servers. -/
def Pool.cipherLists (header : Header) (pool : Pool) : List CipherList :=
  pool.serverOptions.filterMap fun (_, options) =>
    options.ciphers.map fun list => ⟨header, "server ciphers", list⟩

/-! ### The audit -/

namespace Configuration

/-- The issues with the process. -/
def processIssues (config : Configuration) : List Issue :=
  (config.global.getD {}).risks.map fun risk => ⟨globalHeader, risk⟩

/-- The issues with statistics pages. -/
def statsIssues (config : Configuration) : List Issue :=
  config.proxies.flatMap fun (header, body) =>
    (body.stats.map Stats.risks).getD [] |>.map fun risk => ⟨header, risk⟩

/-- All cipher lists of a configuration. -/
def cipherLists (config : Configuration) : List CipherList :=
  (config.global.getD {}).cipherLists ++
    config.entryPoints.flatMap (fun (name, _, intake) =>
      intake.cipherLists (config.entryHeader name)) ++
    config.pools.flatMap fun (name, pool) => pool.cipherLists (config.poolHeader name)

/-- The issues with transport security; those with ciphers come last. -/
def tlsIssues (config : Configuration) : List Issue :=
  let global := config.global.getD {}
  let trust := if global.sslServerVerify = some "none" then [⟨globalHeader, .trustsServers⟩] else []
  let protocols :=
    if global.requiresModernProtocols then []
    else config.entryPoints.flatMap fun (name, _, intake) =>
      intake.risks.map fun risk => ⟨config.entryHeader name, risk⟩
  let verification := config.pools.flatMap fun (name, pool) =>
    pool.risks.map fun risk => ⟨config.poolHeader name, risk⟩
  trust ++ protocols ++ verification ++ config.cipherLists.filterMap CipherList.issue?

/-- **All issues of a configuration.** -/
def issues (config : Configuration) : List Issue :=
  config.processIssues ++ config.statsIssues ++ config.tlsIssues

end Configuration

end Balancer
