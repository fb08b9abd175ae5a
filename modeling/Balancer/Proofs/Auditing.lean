import Balancer.Layout
import Balancer.Proofs.Paragraphs
import Balancer.Report.Audit
import Mathlib

/-!
# What the audit sees of the servers

The options of servers are written on three kinds of lines: for a server, for a family of servers,
and for the options that every server of a section starts from. They are written in three kinds of
sections: in backends, in `listen` sections, and in the settings that proxies inherit. The audit
looks for servers that skip the verification of certificates and for servers with broken ciphers, but
it walks over the configuration by itself, and not along the lines that are written.

This file compares the two walks. The audit follows the lines of servers and of families of servers
in backends and in `listen` sections. It does not look at the options that servers start from, nor
at the inherited settings (`Balancer.Configuration.issues_serverLines`). What it has to say about a
`listen` section is put under the header of the backend of the same name, where there is one.
-/

namespace Balancer

open Layout

/-! ### Lines with the options of servers -/

/-- **What is written with the options of servers.** -/
inductive ServerLine where
  | defaults (options : ServerOptions)
  | family (servers : ServerTemplate)
  | server (member : Server)

namespace ServerLine

/-- The options on the line. -/
def options : ServerLine → ServerOptions
  | defaults options => options
  | family servers => servers.options
  | server member => member.options

/-- The line as it is written. -/
def line : ServerLine → Line
  | defaults options => options.defaultLine
  | family servers => servers.line
  | server member => member.line

/-- Whether the line is that of a server or of a family of servers, and not of what they start
from. -/
def isOwn : ServerLine → Bool
  | defaults _ => false
  | family _ | server _ => true

end ServerLine

/-- **The lines of a pool with the options of servers**, in order. -/
def Pool.emitted (pool : Pool) : List ServerLine :=
  (effectiveDefaults pool.defaultServer pool.healthCheck).toList.map .defaults ++
    pool.serverTemplates.map .family ++ pool.servers.map .server

theorem Pool.serverLines_eq (pool : Pool) :
    pool.serverLines = pool.useServers.map UseServer.line ++ pool.emitted.map ServerLine.line := by
  have hdefaults : ((effectiveDefaults pool.defaultServer pool.healthCheck).map
      ServerOptions.defaultLine).toList =
      ((effectiveDefaults pool.defaultServer pool.healthCheck).toList.map
        ServerLine.defaults).map ServerLine.line := by
    cases effectiveDefaults pool.defaultServer pool.healthCheck <;> rfl
  simp only [Pool.serverLines, Pool.emitted, hdefaults, List.map_append, List.map_map,
    List.append_assoc]
  rfl

/-- The lines of a section with servers end with them. -/
theorem exists_proxyLines_eq (body : ProxyBody) (intake : Option Intake) (pool : Pool) :
    ∃ front, proxyLines body intake (some pool) = front ++ pool.emitted.map ServerLine.line := by
  simp only [proxyLines, Option.map_some, Option.getD_some, Pool.serverLines_eq]
  rw [← List.append_assoc]
  exact ⟨_, rfl⟩

namespace Configuration

/-- **The sections with servers**, with their headers: the inherited settings, backends, `listen`
sections. -/
def servingSections (config : Configuration) : List (Header × Pool) :=
  config.defaults.toList.map (fun defaults => (⟨"defaults", defaults.name⟩, defaults.pool)) ++
    config.backends.map (fun backend => (⟨"backend", backend.name⟩, backend.pool)) ++
    config.listens.map fun listen => (⟨"listen", listen.name⟩, listen.pool)

variable {config : Configuration} {header : Header} {pool : Pool}

theorem mem_servingSections_iff : (header, pool) ∈ config.servingSections ↔
    (∃ defaults ∈ config.defaults, header = ⟨"defaults", defaults.name⟩ ∧ pool = defaults.pool) ∨
      (∃ backend ∈ config.backends, header = ⟨"backend", some backend.name⟩ ∧
        pool = backend.pool) ∨
      ∃ listen ∈ config.listens, header = ⟨"listen", some listen.name⟩ ∧ pool = listen.pool := by
  simp [servingSections, eq_comm]

/-- Every section with servers is written, with all its lines that have options of servers. -/
theorem exists_block_of_mem_servingSections (h : (header, pool) ∈ config.servingSections) :
    ∃ block ∈ config.blocks, block.header.text = header.text ∧
      ∃ front, block.lines = front ++ pool.emitted.map ServerLine.line := by
  rcases mem_servingSections_iff.1 h with ⟨defaults, hmem, rfl, rfl⟩ | ⟨backend, hmem, rfl, rfl⟩ |
    ⟨listen, hmem, rfl, rfl⟩
  · have htext := Header.text_eq ⟨"defaults", defaults.name⟩
    refine ⟨defaults.block, ?_, htext.symm, exists_proxyLines_eq _ _ _⟩
    simp [blocks, Option.mem_def.1 hmem]
  · refine ⟨backend.block, ?_, rfl, exists_proxyLines_eq _ _ _⟩
    simp [blocks, List.mem_map_of_mem hmem]
  · refine ⟨listen.block, ?_, rfl, exists_proxyLines_eq _ _ _⟩
    simp [blocks, List.mem_map_of_mem hmem]

end Configuration

/-! ### Risks of servers -/

/-- Whether a risk is one of those that the options of a server can bring. -/
def Risk.isAboutServers : Risk → Bool
  | skipsVerification _ => true
  | weakCiphers directive _ => directive == "server ciphers"
  | _ => false

/-- The issues with the servers of a pool, in a section with a given header. -/
def Pool.issues (header : Header) (pool : Pool) : List Issue :=
  pool.risks.map (fun risk => ⟨header, risk⟩) ++
    (pool.cipherLists header).filterMap CipherList.issue?

theorem CipherList.issue?_eq_some_iff {list : CipherList} {issue : Issue} :
    list.issue? = some issue ↔ weakCiphers list.ciphers ≠ [] ∧
      ⟨list.header, .weakCiphers list.directive (weakCiphers list.ciphers)⟩ = issue := by
  by_cases hweak : weakCiphers list.ciphers = []
  · simp [CipherList.issue?, hweak]
  · simp [CipherList.issue?, hweak]

section Pool

variable {header header' : Header} {pool : Pool}

/-- The audit looks at the options on the lines of servers and of families of servers. -/
theorem Pool.exists_mem_serverOptions_iff {options : ServerOptions} :
    (∃ name, (name, options) ∈ pool.serverOptions) ↔
      ∃ line ∈ pool.emitted, line.isOwn = true ∧ line.options = options := by
  simp only [Pool.serverOptions, Pool.emitted, List.mem_append, List.mem_map, Prod.mk.injEq]
  constructor
  · rintro ⟨name, ⟨server, hserver, -, rfl⟩ | ⟨servers, hservers, -, rfl⟩⟩
    · exact ⟨.server server, .inr ⟨server, hserver, rfl⟩, rfl, rfl⟩
    · exact ⟨.family servers, .inl (.inr ⟨servers, hservers, rfl⟩), rfl, rfl⟩
  · rintro ⟨line, (⟨_, -, rfl⟩ | ⟨servers, hservers, rfl⟩) | ⟨server, hserver, rfl⟩, hown, rfl⟩
    · cases hown
    · exact ⟨servers.stem, .inr ⟨servers, hservers, rfl, rfl⟩⟩
    · exact ⟨server.name, .inl ⟨server, hserver, rfl, rfl⟩⟩

theorem Pool.exists_skipsVerification_iff :
    (∃ server, ⟨header', .skipsVerification server⟩ ∈ pool.issues header) ↔
      header = header' ∧ ∃ line ∈ pool.emitted, line.isOwn = true ∧
        line.options.verify = some "none" := by
  have hciphers (server : String) : ⟨header', .skipsVerification server⟩ ∉
      (pool.cipherLists header).filterMap CipherList.issue? := by
    intro hmem
    obtain ⟨list, -, hlist⟩ := List.mem_filterMap.1 hmem
    have hrisk := congrArg Issue.risk (CipherList.issue?_eq_some_iff.1 hlist).2
    cases hrisk
  simp only [Pool.issues, List.mem_append, hciphers, or_false, Pool.risks, List.mem_map,
    List.mem_filter, Prod.exists, beq_iff_eq]
  constructor
  · rintro ⟨server, risk, ⟨name, options, ⟨hmem, hverify⟩, -⟩, hissue⟩
    obtain ⟨line, hline, hown, rfl⟩ := Pool.exists_mem_serverOptions_iff.1 ⟨name, hmem⟩
    exact ⟨congrArg Issue.header hissue, line, hline, hown, hverify⟩
  · rintro ⟨rfl, line, hline, hown, hverify⟩
    obtain ⟨name, hmem⟩ := Pool.exists_mem_serverOptions_iff.2 ⟨line, hline, hown, rfl⟩
    exact ⟨name, _, ⟨name, line.options, ⟨hmem, hverify⟩, rfl⟩, rfl⟩

theorem Pool.exists_weakCiphers_iff :
    (∃ ciphers, ⟨header', .weakCiphers "server ciphers" ciphers⟩ ∈ pool.issues header) ↔
      header = header' ∧ ∃ line ∈ pool.emitted, line.isOwn = true ∧
        ∃ list, line.options.ciphers = some list ∧ weakCiphers list ≠ [] := by
  have hrisks (ciphers : List String) : ⟨header', .weakCiphers "server ciphers" ciphers⟩ ∉
      pool.risks.map fun risk => Issue.mk header risk := by
    simp [Pool.risks]
  simp only [Pool.issues, List.mem_append, hrisks, false_or, Pool.cipherLists, List.mem_filterMap,
    Prod.exists, CipherList.issue?_eq_some_iff]
  constructor
  · rintro ⟨ciphers, list, ⟨name, options, hmem, hlist⟩, hweak, hissue⟩
    obtain ⟨text, htext, rfl⟩ := Option.map_eq_some_iff.1 hlist
    obtain ⟨line, hline, hown, rfl⟩ := Pool.exists_mem_serverOptions_iff.1 ⟨name, hmem⟩
    exact ⟨congrArg Issue.header hissue, line, hline, hown, text, htext, hweak⟩
  · rintro ⟨rfl, line, hline, hown, text, htext, hweak⟩
    obtain ⟨name, hmem⟩ := Pool.exists_mem_serverOptions_iff.2 ⟨line, hline, hown, rfl⟩
    exact ⟨_, ⟨header, "server ciphers", text⟩, ⟨name, line.options, hmem, by rw [htext]; rfl⟩,
      hweak, rfl⟩

end Pool

/-! ### Other risks -/

theorem Global.not_isAboutServers (global : Global) :
    ∀ risk ∈ global.risks, risk.isAboutServers = false := by
  simp only [Global.risks, List.forall_mem_append, List.forall_mem_map]
  refine ⟨⟨?_, ?_⟩, fun _ _ => rfl⟩
  · split
    · exact List.forall_mem_singleton.2 rfl
    · split <;> simp [Risk.isAboutServers]
  · split <;> simp [Risk.isAboutServers]

theorem Stats.not_isAboutServers (stats : Stats) :
    ∀ risk ∈ stats.risks, risk.isAboutServers = false := by
  rw [Stats.risks]
  split
  · exact List.forall_mem_nil _
  · simp only [List.forall_mem_append, List.forall_mem_map]
    refine ⟨⟨⟨?_, fun _ _ => rfl⟩, ?_⟩, ?_⟩ <;> split <;> simp [Risk.isAboutServers]

theorem Intake.not_isAboutServers (intake : Intake) :
    ∀ risk ∈ intake.risks, risk.isAboutServers = false := by
  rw [Intake.risks, List.forall_mem_map]
  exact fun _ _ => rfl

namespace Configuration

variable {config : Configuration} {header : Header} {pool : Pool}

theorem not_isAboutServers_of_mem_processIssues {issue : Issue} (h : issue ∈ config.processIssues) :
    issue.risk.isAboutServers = false := by
  obtain ⟨risk, hrisk, rfl⟩ := List.mem_map.1 h
  exact Global.not_isAboutServers _ risk hrisk

theorem not_isAboutServers_of_mem_statsIssues {issue : Issue} (h : issue ∈ config.statsIssues) :
    issue.risk.isAboutServers = false := by
  obtain ⟨⟨header, body⟩, -, hissue⟩ := List.mem_flatMap.1 h
  obtain ⟨risk, hrisk, rfl⟩ := List.mem_map.1 hissue
  cases hstats : body.stats with
  | none => simp [hstats] at hrisk
  | some stats => exact stats.not_isAboutServers risk (by simpa [hstats] using hrisk)

/-- Cipher lists in the directive of servers are those of the pools. -/
theorem mem_cipherLists_iff {list : CipherList} (h : list.directive = "server ciphers") :
    list ∈ config.cipherLists ↔ ∃ name pool, (name, pool) ∈ config.pools ∧
      list ∈ pool.cipherLists (config.poolHeader name) := by
  simp only [cipherLists, List.mem_append, List.mem_flatMap, Prod.exists]
  refine ⟨?_, .inr⟩
  rintro ((hglobal | ⟨name, body, intake, -, hentry⟩) | hpool)
  · simp only [Global.cipherLists, List.mem_append, List.mem_map] at hglobal
    rcases hglobal with ⟨_, -, rfl⟩ | ⟨_, -, rfl⟩ <;> simp at h
  · obtain ⟨bind, -, hbind⟩ := List.mem_filterMap.1 hentry
    obtain ⟨_, -, rfl⟩ := Option.map_eq_some_iff.1 hbind
    simp at h
  · exact hpool

/-- **The issues with servers** come from the pools, and from nowhere else. -/
theorem mem_issues_iff_of_isAboutServers {issue : Issue} (h : issue.risk.isAboutServers = true) :
    issue ∈ config.issues ↔
      ∃ name pool, (name, pool) ∈ config.pools ∧ issue ∈ pool.issues (config.poolHeader name) := by
  have hother : issue.risk.isAboutServers ≠ false := by simp [h]
  have hdirective {list : CipherList} (hlist : list.issue? = some issue) :
      list.directive = "server ciphers" := by
    obtain ⟨-, rfl⟩ := CipherList.issue?_eq_some_iff.1 hlist
    simpa [Risk.isAboutServers] using h
  simp only [issues, tlsIssues, Pool.issues, List.mem_append, List.mem_flatMap, List.mem_filterMap,
    Prod.exists]
  constructor
  · rintro ((hprocess | hstats) | (((htrust | hprotocols) | ⟨name, pool, hpool, hrisk⟩) |
      ⟨list, hmem, hlist⟩))
    · exact absurd (not_isAboutServers_of_mem_processIssues hprocess) hother
    · exact absurd (not_isAboutServers_of_mem_statsIssues hstats) hother
    · split at htrust
      · obtain rfl := List.mem_singleton.1 htrust
        exact absurd rfl hother
      · cases htrust
    · split at hprotocols
      · cases hprotocols
      · obtain ⟨⟨name, body, intake⟩, -, hissue⟩ := List.mem_flatMap.1 hprotocols
        obtain ⟨risk, hrisk, rfl⟩ := List.mem_map.1 hissue
        exact absurd (intake.not_isAboutServers risk hrisk) hother
    · exact ⟨name, pool, hpool, .inl hrisk⟩
    · obtain ⟨name, pool, hpool, hmem'⟩ := (mem_cipherLists_iff (hdirective hlist)).1 hmem
      exact ⟨name, pool, hpool, .inr ⟨list, hmem', hlist⟩⟩
  · rintro ⟨name, pool, hpool, hrisk | ⟨list, hmem, hlist⟩⟩
    · exact .inr (.inl (.inr ⟨name, pool, hpool, hrisk⟩))
    · have hmem' := (mem_cipherLists_iff (hdirective hlist)).2 ⟨name, pool, hpool, hmem⟩
      exact .inr (.inr ⟨list, hmem', hlist⟩)

/-! ### Sections of the audit -/

/-- The audit reports about a pool under a header. -/
def AuditsAs (config : Configuration) (header : Header) (pool : Pool) : Prop :=
  ∃ name, (name, pool) ∈ config.pools ∧ config.poolHeader name = header

theorem poolHeader_eq_iff {name : String} : config.poolHeader name = header ↔
    (header = ⟨"backend", some name⟩ ∧ ∃ backend ∈ config.backends, backend.name = name) ∨
      (header = ⟨"listen", some name⟩ ∧ ∀ backend ∈ config.backends, backend.name ≠ name) := by
  by_cases hbackend : ∃ backend ∈ config.backends, backend.name = name
  · have hany : config.backends.any (fun backend => backend.name == name) = true := by
      simpa using hbackend
    have hnot : ¬∀ backend ∈ config.backends, backend.name ≠ name := by simpa using hbackend
    rw [poolHeader, if_pos hany, and_iff_left hbackend, or_iff_left fun h => hnot h.2, eq_comm]
  · have hany : ¬config.backends.any (fun backend => backend.name == name) = true := by
      simpa using hbackend
    have hall : ∀ backend ∈ config.backends, backend.name ≠ name := by simpa using hbackend
    rw [poolHeader, if_neg hany, and_iff_left hall, or_iff_right fun h => hbackend h.2, eq_comm]

theorem mem_pools_iff {name : String} : (name, pool) ∈ config.pools ↔
    (∃ backend ∈ config.backends, backend.name = name ∧ backend.pool = pool) ∨
      ∃ listen ∈ config.listens, listen.name = name ∧ listen.pool = pool := by
  simp [pools]

/-- The audit reports about a section under its own header if it is a backend, or a `listen` section
that no backend shares the name with. The inherited settings are left out. -/
theorem auditsAs_iff (h : (header, pool) ∈ config.servingSections) :
    config.AuditsAs header pool ↔ header.kind ≠ "defaults" ∧
      (header.kind = "listen" → ∀ backend ∈ config.backends, some backend.name ≠ header.name) := by
  simp only [AuditsAs, poolHeader_eq_iff, mem_pools_iff]
  rcases mem_servingSections_iff.1 h with ⟨defaults, hmem, rfl, rfl⟩ | ⟨backend, hmem, rfl, rfl⟩ |
    ⟨listen, hmem, rfl, rfl⟩
  · simp
  · refine iff_of_true ⟨backend.name, .inl ⟨backend, hmem, rfl, rfl⟩, ?_⟩ (by simp)
    exact .inl ⟨rfl, backend, hmem, rfl⟩
  · constructor
    · rintro ⟨name, -, ⟨hheader, -⟩ | ⟨hheader, hall⟩⟩
      · simp at hheader
      · have hname : listen.name = name := by simpa using hheader
        refine ⟨by simp, fun _ backend hbackend => ?_⟩
        simpa [hname] using hall backend hbackend
    · rintro ⟨-, hall⟩
      refine ⟨listen.name, .inr ⟨listen, hmem, rfl, rfl⟩, .inr ⟨rfl, fun backend hbackend => ?_⟩⟩
      simpa using hall rfl backend hbackend

/-- A family of risks is reported under a header for the pools that are reported about under it. -/
theorem exists_mem_issues_iff {ι : Type} {risk : ι → Risk} {P : Pool → Prop}
    (hrisk : ∀ i, (risk i).isAboutServers = true)
    (hpool : ∀ (pool : Pool) (header' : Header),
      (∃ i, ⟨header, risk i⟩ ∈ pool.issues header') ↔ header' = header ∧ P pool) :
    (∃ i, ⟨header, risk i⟩ ∈ config.issues) ↔ ∃ pool, config.AuditsAs header pool ∧ P pool := by
  constructor
  · rintro ⟨i, hissue⟩
    obtain ⟨name, pool, hmem, hissue'⟩ := (mem_issues_iff_of_isAboutServers (hrisk i)).1 hissue
    obtain ⟨hheader, hP⟩ := (hpool pool (config.poolHeader name)).1 ⟨i, hissue'⟩
    exact ⟨pool, ⟨name, hmem, hheader⟩, hP⟩
  · rintro ⟨pool, ⟨name, hmem, hheader⟩, hP⟩
    obtain ⟨i, hissue⟩ := (hpool pool (config.poolHeader name)).2 ⟨hheader, hP⟩
    exact ⟨i, (mem_issues_iff_of_isAboutServers (hrisk i)).2 ⟨name, pool, hmem, hissue⟩⟩

/-- **The audit sees the lines of servers and of families of servers, and nothing else.** The
sections with servers are written with all their lines that have options of servers. There is an
issue about the verification of certificates under a header exactly if a line of a server or of a
family of servers, in a pool that is reported about under this header, skips it; and there is one
about the ciphers of servers exactly if such a line has broken ciphers. A pool is reported about
under the header of its own section if this is a backend, or a `listen` section that no backend
shares the name with. -/
theorem issues_serverLines (config : Configuration) :
    (∀ header pool, (header, pool) ∈ config.servingSections →
      (∃ block ∈ config.blocks, block.header.text = header.text ∧
        ∃ front, block.lines = front ++ pool.emitted.map ServerLine.line) ∧
      (config.AuditsAs header pool ↔ header.kind ≠ "defaults" ∧
        (header.kind = "listen" →
          ∀ backend ∈ config.backends, some backend.name ≠ header.name))) ∧
    ∀ header,
      ((∃ server, ⟨header, .skipsVerification server⟩ ∈ config.issues) ↔
        ∃ pool, config.AuditsAs header pool ∧ ∃ line ∈ pool.emitted, line.isOwn = true ∧
          line.options.verify = some "none") ∧
      ((∃ ciphers, ⟨header, .weakCiphers "server ciphers" ciphers⟩ ∈ config.issues) ↔
        ∃ pool, config.AuditsAs header pool ∧ ∃ line ∈ pool.emitted, line.isOwn = true ∧
          ∃ list, line.options.ciphers = some list ∧ weakCiphers list ≠ []) := by
  refine ⟨fun header pool h => ⟨exists_block_of_mem_servingSections h, auditsAs_iff h⟩,
    fun header => ⟨?_, ?_⟩⟩
  · exact exists_mem_issues_iff (fun _ => rfl) fun _ _ => Pool.exists_skipsVerification_iff
  · exact exists_mem_issues_iff (fun _ => rfl) fun _ _ => Pool.exists_weakCiphers_iff

/-- Options that skip the verification of certificates and have broken ciphers. -/
def trustingOptions : ServerOptions where
  verify := some "none"
  ciphers := some "RC4-MD5"

/-- A server with these options. -/
def trustingServer : Server where
  name := "w"
  address := "10.0.0.1"
  options := trustingOptions

/-- A backend with this server. -/
def trustingBackend : Configuration where
  backends := [{ name := "app", pool := { servers := [trustingServer] } }]

/-- The options of the server are seen. -/
theorem issues_serverLines_trustingBackend :
    (⟨"backend", some "app"⟩, { servers := [trustingServer] }) ∈ trustingBackend.servingSections ∧
      (∃ server, ⟨⟨"backend", some "app"⟩, .skipsVerification server⟩ ∈ trustingBackend.issues) ∧
      ∃ ciphers, ⟨⟨"backend", some "app"⟩, .weakCiphers "server ciphers" ciphers⟩ ∈
        trustingBackend.issues := by
  have hmem : (⟨"backend", some "app"⟩, { servers := [trustingServer] }) ∈
      trustingBackend.servingSections := List.mem_singleton.2 rfl
  obtain ⟨hsections, hissues⟩ := issues_serverLines trustingBackend
  have haudits := (hsections _ _ hmem).2.2 ⟨by decide, fun hlisten => absurd hlisten (by decide)⟩
  have hline : ServerLine.server trustingServer ∈ Pool.emitted { servers := [trustingServer] } :=
    List.mem_singleton.2 rfl
  refine ⟨hmem, (hissues _).1.2 ⟨_, haudits, _, hline, rfl, rfl⟩, ?_⟩
  exact (hissues _).2.2 ⟨_, haudits, _, hline, rfl, "RC4-MD5", rfl, by decide +kernel⟩

/-- A backend whose servers start from the options. -/
def trustingDefaults : Configuration where
  backends := [{
    name := "app"
    pool := {
      defaultServer := some trustingOptions
      servers := [{ name := "w", address := "10.0.0.1" }] } }]

/-- **The audit does not see what servers start from**: the options are written, and nothing is
reported about the section. -/
theorem audit_misses_defaultServer :
    trustingDefaults.text =
        "backend app\n    default-server verify none ciphers RC4-MD5\n    server w 10.0.0.1\n" ∧
      weakCiphers "RC4-MD5" = ["RC4-MD5"] ∧
      ∀ issue ∈ trustingDefaults.issues, issue.header = globalHeader := by
  decide +kernel

end Configuration

end Balancer
