import Balancer.Config

/-!
# Findings

A finding is a problem in a section. Each kind of problem is an error or a warning: an error makes
the written configuration unusable, a warning says that something has no effect or will surprise.
-/

namespace Balancer

/-! ### Sections by their headers -/

/-- **The header of a section**: its kind and its name. -/
structure Header where
  kind : String
  name : Option String
deriving DecidableEq, Repr

/-- The text of a header. -/
def Header.text (header : Header) : String :=
  match header.name with
  | some name => header.kind ++ " " ++ name
  | none => header.kind

namespace Configuration

/-- All proxy sections with their headers: defaults, frontends, backends, `listen` sections. -/
def proxies (config : Configuration) : List (Header × ProxyBody) :=
  config.defaults.toList.map (fun d => (⟨"defaults", d.name⟩, d.body)) ++
    config.frontends.map (fun f => (⟨"frontend", some f.name⟩, f.body)) ++
    config.backends.map (fun b => (⟨"backend", some b.name⟩, b.body)) ++
    config.listens.map fun l => (⟨"listen", some l.name⟩, l.body)

/-- The header of the accepting section with a given name: a frontend if there is one. -/
def entryHeader (config : Configuration) (name : String) : Header :=
  if config.frontends.any (fun f => f.name == name) then ⟨"frontend", some name⟩
  else ⟨"listen", some name⟩

/-- The header of the serving section with a given name: a backend if there is one. -/
def poolHeader (config : Configuration) (name : String) : Header :=
  if config.backends.any (fun b => b.name == name) then ⟨"backend", some name⟩
  else ⟨"listen", some name⟩

end Configuration

/-! ### Problems -/

/-- How much a problem matters. -/
inductive Severity where
  | warning | error
deriving DecidableEq, Repr

/-- The name of a severity. -/
def Severity.text : Severity → String
  | warning => "warning"
  | error => "error"

/-- **The problems** that a configuration can have. -/
inductive Problem where
  | duplicateProxy (name : String)
  | duplicateGroup (kind name : String)
  | unknownBackend (directive target : String)
  | otherMode (own : Mode) (target : String) (theirs : Mode)
  | unknownServer (server : String)
  | undeclaredTable (kind : StickRuleKind) (table : String)
  | noTable (kind : StickRuleKind)
  | undeclaredAcl (name : String)
  | uselessOption (flag : ProxyFlag)
  | httpOption (flag : ProxyFlag)
  | httpRules (kind : RuleKind)
  | noBind
  | noServers
deriving DecidableEq, Repr

/-- How much a problem matters. -/
def Problem.severity : Problem → Severity
  | duplicateProxy _ | duplicateGroup _ _ | unknownBackend _ _ | unknownServer _
  | undeclaredTable _ _ | noTable _ => .error
  | otherMode _ _ _ | undeclaredAcl _ | uselessOption _ | httpOption _ | httpRules _ | noBind
  | noServers => .warning

/-- The text of a problem. -/
def Problem.message : Problem → String
  | duplicateProxy name => s!"a proxy named `{name}` is already declared"
  | duplicateGroup kind name => s!"{kind} section `{name}` is already declared"
  | unknownBackend directive target => s!"{directive} references unknown backend `{target}`"
  | otherMode own target theirs =>
    s!"routes {own.keyword} traffic to backend `{target}` in {theirs.keyword} mode"
  | unknownServer server => s!"use-server references unknown server `{server}`"
  | undeclaredTable kind table => s!"stick {kind.keyword} uses undeclared table `{table}`"
  | noTable kind => s!"stick {kind.keyword} without a table, and the section declares none"
  | undeclaredAcl name => s!"condition uses undeclared ACL `{name}`"
  | uselessOption flag => s!"option {flag.wire} has no effect in http mode"
  | httpOption flag => s!"option {flag.wire} requires http mode"
  | httpRules kind => s!"{kind.keyword} rules require http mode"
  | noBind => "no bind, it accepts no traffic"
  | noServers => "no servers"

/-- **A finding**: a problem and the section it is in. -/
structure Finding where
  header : Header
  problem : Problem
deriving DecidableEq, Repr

namespace Finding

/-- How much a finding matters. -/
def severity (finding : Finding) : Severity := finding.problem.severity

/-- Whether a finding is an error. -/
def isError (finding : Finding) : Bool := finding.severity == .error

/-- The text of a finding. -/
def text (finding : Finding) : String :=
  finding.severity.text ++ ": " ++ finding.header.text ++ ": " ++ finding.problem.message

end Finding

/-- The texts of the findings, one to a line. -/
def findingsText (findings : List Finding) : String :=
  Text.join "" (findings.map fun finding => finding.text ++ "\n")

end Balancer
