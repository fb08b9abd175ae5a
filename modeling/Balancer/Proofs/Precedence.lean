import Balancer.Proofs.Normal
import Balancer.Proofs.Parameters
import Balancer.Proofs.Substitution

/-!
# Who sets a parameter

A parameter of a server may be written on the server and stand in several of the templates that it
spreads. The first writer wins: the server itself comes before its templates, and these come in the
order in which the server lists them. `Server.Expanded` says so parameter by parameter, for the port
and the options alike.

Whether templates can be taken over is another matter, and does not depend on who wins: each value
of each template that is spread has to have the key of a parameter, and to be convertible to its
type, even where the server has set that parameter long before. Hence there is one condition for all
servers, `Template.Fits`, and no server is mentioned in it (`Configuration.expandTemplates_precedence`).
-/

namespace Balancer

section Precedence

variable (globals : OrderedMap Value) (templates : OrderedMap Template)

/-- **What a value of a template means for a parameter**: the value is substituted, then converted to
the type of the parameter. -/
def Parameter.Means (p : Parameter) (written : Value) (x : p.type.Carrier) : Prop :=
  ∃ value, interpolateValue globals.lookupVariable written = .ok value ∧ p.convert value = .ok x

/-- A template whose values all have the key of a parameter, which is neither the name nor the
address of a server, and mean something for that parameter. -/
def Template.Fits (template : Template) : Prop :=
  ∀ key written, (key, written) ∈ template.params.entries →
    key ∉ ["name", "address"] ∧ ∃ p : Parameter, p.key = key ∧ ∃ x, p.Means globals written x

/-- **A server and what it is with its templates taken over.** -/
structure Server.Expanded (server result : Server) : Prop where
  name : result.name = server.name
  address : result.address = server.address
  spreads : result.spreads = []
  /-- What the author has set stays. -/
  kept (p : Parameter) (x : p.type.Carrier) (h : server.get p = some x) : result.get p = some x
  /-- What the author has not set comes from the first template that has the key. -/
  taken (p : Parameter) (h : server.get p = none) (written : Value)
    (hfirst : firstValue? templates server.spreads p.key = some written) :
    ∃ x, p.Means globals written x ∧ result.get p = some x
  /-- What nobody sets stays unset. -/
  unset (p : Parameter) (h : server.get p = none)
    (hfirst : firstValue? templates server.spreads p.key = none) : result.get p = none

/-- **A pool and what it is with the templates of its servers taken over.** -/
structure Pool.Expanded (pool result : Pool) : Prop where
  servers : List.Forall₂ (Server.Expanded globals templates) pool.servers result.servers
  rest : result = { pool with servers := result.servers }

variable {globals templates}

theorem Parameter.take?_eq_some_iff {p : Parameter} {written : Value} {x : p.type.Carrier} :
    p.take? globals written = some x ↔ p.Means globals written x := by
  rw [Parameter.take?, Parameter.Means]
  cases interpolateValue globals.lookupVariable written with
  | error e => simp [Except.toOption]
  | ok value => cases hx : p.convert value <;> simp [Except.toOption, hx]

theorem Template.takeable_iff_fits {template : Template} :
    template.Takeable globals ↔ template.Fits globals := by
  have hmeans (p : Parameter) (written : Value) :
      (p.take? globals written).isSome ↔ ∃ x, p.Means globals written x := by
    rw [Option.isSome_iff_exists]
    exact exists_congr fun x => Parameter.take?_eq_some_iff
  constructor
  · intro h key written hentry
    obtain ⟨p, hp, hsome⟩ := h _ hentry
    have hkey : key ∉ ["name", "address"] := by
      have hnot := p.key_notMem
      rw [show p.key = key from hp] at hnot
      simp only [List.mem_cons, List.not_mem_nil, or_false, not_or] at hnot ⊢
      exact ⟨hnot.1, hnot.2.1⟩
    exact ⟨hkey, p, hp, (hmeans p written).1 hsome⟩
  · rintro h ⟨key, written⟩ hentry
    obtain ⟨-, p, hp, hx⟩ := h key written hentry
    exact ⟨p, hp, (hmeans p written).2 hx⟩

/-- **Taking the templates over, the first writer wins.** -/
theorem Server.expanded_of_expand {server result : Server}
    (h : server.expand globals templates = .ok result) :
    server.Expanded globals templates result := by
  obtain ⟨htakeable, hname, haddress, hspreads, hparameters⟩ := Server.expand_eq_ok h
  have hget (p : Parameter) : result.get p = (server.get p).or
      ((firstValue? templates server.spreads p.key).bind (p.take? globals)) := by
    rw [hparameters]
    cases p <;> rfl
  refine ⟨hname, haddress, hspreads, fun p x hx => ?_, fun p hp written hfirst => ?_,
    fun p hp hfirst => ?_⟩
  · rw [hget, hx, Option.some_or]
  · -- the value comes from a template of the list, and all of these can be taken over
    obtain ⟨spread, hspread, hvalue⟩ := List.exists_of_findSome?_eq_some hfirst
    obtain ⟨template, htemplate, hentries⟩ := htakeable spread hspread
    rw [htemplate, Option.bind_some] at hvalue
    obtain ⟨q, hq, hsome⟩ := hentries _ (OrderedMap.get?_eq_some_iff.1 hvalue)
    cases Parameter.key_injective hq
    obtain ⟨x, hx⟩ := Option.isSome_iff_exists.1 hsome
    refine ⟨x, Parameter.take?_eq_some_iff.1 hx, ?_⟩
    rw [hget, hp, hfirst, Option.none_or, Option.bind_some]
    exact hx
  · rw [hget, hp, hfirst, Option.none_or, Option.bind_none]

theorem Server.returns_expand_iff_fits {server : Server} :
    Returns (server.expand globals templates) ↔
      ∀ name ∈ server.spreads, ∃ template, templates.get? name = some template ∧
        template.Fits globals := by
  rw [Server.returns_expand_iff]
  simp only [Template.takeable_iff_fits]

theorem Pool.expanded_of_expandTemplates {pool result : Pool}
    (h : pool.expandTemplates globals templates = .ok result) :
    pool.Expanded globals templates result := by
  rw [Pool.expandTemplates] at h
  obtain ⟨servers, hservers, h⟩ := bind_eq_ok.1 h
  cases h
  exact ⟨(mapM_eq_ok.1 hservers).imp fun _ _ => Server.expanded_of_expand, rfl⟩

end Precedence

/-- **Templates are taken over by precedence.** Taking them over returns exactly if each template
that some server spreads is declared and fits, whatever the server has set. Then the servers are
expanded, the first writer of each parameter winning, and nothing else of the configuration
changes. -/
theorem Configuration.expandTemplates_precedence (config : Configuration) :
    (Returns config.expandTemplates ↔
        ∀ named ∈ config.pools, ∀ server ∈ named.2.servers, ∀ name ∈ server.spreads,
          ∃ template, config.templates.get? name = some template ∧
            template.Fits config.definitions) ∧
      ∀ result, config.expandTemplates = .ok result →
        config.PoolsChanged (Pool.Expanded config.definitions config.templates) result := by
  constructor
  · rw [Configuration.expandTemplates, Configuration.returns_mapPoolsM_iff]
    refine forall₂_congr fun named _ => ?_
    rw [Pool.expandTemplates, returns_bind_pure_iff, returns_mapM_iff]
    exact forall₂_congr fun server _ => Server.returns_expand_iff_fits
  · intro result h
    rw [Configuration.expandTemplates, Configuration.mapPoolsM_eq_ok_iff_poolsChanged] at h
    exact h.mono fun _ _ => Pool.expanded_of_expandTemplates

/-- Two templates that both set the cookie and the verification. -/
def rivalTemplates : OrderedMap Template :=
  .ofList [
    ("base", ⟨"base", .ofList [("cookie", .text "c$\x7bn\x7d"), ("check", .text "true"),
      ("verify", .text "none")]⟩),
    ("late", ⟨"late", .ofList [("cookie", .text "late"), ("crt", .text "site.pem"),
      ("verify", .text "required")]⟩)]

/-- A server that spreads both, one of them twice, and sets some of their parameters itself. -/
def rivalBackend : Configuration where
  definitions := .ofList [("n", .integer 7)]
  templates := rivalTemplates
  backends := [
    { name := "app"
      pool := {
        servers := [
          { name := "w"
            address := "10.0.0.1"
            options := { check := some false, verify := some "optional" }
            spreads := ["base", "late", "base"] }] } }]

/-- The server with the templates taken over. -/
def settledBackend : Configuration where
  definitions := .ofList [("n", .integer 7)]
  templates := rivalTemplates
  backends := [
    { name := "app"
      pool := {
        servers := [
          { name := "w"
            address := "10.0.0.1"
            options := { check := some false, verify := some "optional", crt := some "site.pem",
                         cookie := some "c7" } }] } }]

theorem Configuration.expandTemplates_precedence_rivalBackend :
    rivalBackend.expandTemplates = .ok settledBackend ∧
      rivalBackend.PoolsChanged (Pool.Expanded rivalBackend.definitions rivalTemplates)
        settledBackend := by
  have h : rivalBackend.expandTemplates = .ok settledBackend := by cbv
  exact ⟨h, (Configuration.expandTemplates_precedence rivalBackend).2 _ h⟩

end Balancer
