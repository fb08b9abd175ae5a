import Balancer.Assembly
import Balancer.Layout
import Balancer.Normal.Variables
import Balancer.Proofs.Agreement
import Mathlib

/-!
# What substitution reaches

`Balancer.Configuration.resolve` puts the values of the variables into the texts of a
configuration. This file says which texts of the written configuration it reaches, and which it
does not.

Agreement is extended to the parts that hold servers, with a relation of its own for the
**balancing algorithms**: `Configuration.Agree R B` compares every written text by `R`, except that
the text of an algorithm with arguments is compared by `B`. Nothing that is written escapes the
comparison (`Balancer.Configuration.text_eq_of_agree`): configurations that agree up to equality
are written alike.

Substitution then relates each text to what it is substituted by, and leaves the algorithms as
they are. So a configuration comes out substituted throughout exactly when its algorithms are their
own substitutes, and an algorithm with `${…}` in its arguments is the one place where the marks of
an expression reach the output.
-/

namespace Balancer

open Layout

/-! ### Agreement of the parts with servers -/

section Agreement

variable (R B : String → String → Prop)

/-- Agreement of balancing algorithms: the arguments of an algorithm are compared by `B`. -/
def Balance.Agree : Balance → Balance → Prop
  | other s, other t => B s t
  | a, b => a = b

/-- Agreement of pools. Loops are not written. -/
structure Pool.Agree (a b : Pool) : Prop where
  balance : Option.Rel (Balance.Agree B) a.balance b.balance
  hashType : Texts.Agree R a.hashType b.hashType
  cookie : Texts.Agree R a.cookie b.cookie
  retries : Texts.Agree R a.retries b.retries
  httpReuse : Texts.Agree R a.httpReuse b.httpReuse
  fullconn : Texts.Agree R a.fullconn b.fullconn
  healthCheck : Texts.Agree R a.healthCheck b.healthCheck
  useServers : Texts.Agree R a.useServers b.useServers
  defaultServer : Texts.Agree R a.defaultServer b.defaultServer
  serverTemplates : Texts.Agree R a.serverTemplates b.serverTemplates
  servers : Texts.Agree R a.servers b.servers

/-- Agreement of inherited settings. -/
structure Defaults.Agree (a b : Defaults) : Prop where
  name : Texts.Agree R a.name b.name
  body : Texts.Agree R a.body b.body
  pool : a.pool.Agree R B b.pool

/-- Agreement of backends. -/
structure Backend.Agree (a b : Backend) : Prop where
  name : Texts.Agree R a.name b.name
  body : Texts.Agree R a.body b.body
  pool : a.pool.Agree R B b.pool

/-- Agreement of `listen` sections. -/
structure Listen.Agree (a b : Listen) : Prop where
  name : Texts.Agree R a.name b.name
  body : Texts.Agree R a.body b.body
  intake : Texts.Agree R a.intake b.intake
  pool : a.pool.Agree R B b.pool

/-- **Agreement of configurations**: of all their sections. What only exists while a configuration
is designed is not compared. -/
structure Configuration.Agree (a b : Configuration) : Prop where
  global : Texts.Agree R a.global b.global
  defaults : Option.Rel (Defaults.Agree R B) a.defaults b.defaults
  frontends : Texts.Agree R a.frontends b.frontends
  backends : List.Forall₂ (Backend.Agree R B) a.backends b.backends
  listens : List.Forall₂ (Listen.Agree R B) a.listens b.listens
  scripts : Texts.Agree R a.scripts b.scripts
  peers : Texts.Agree R a.peers b.peers
  resolvers : Texts.Agree R a.resolvers b.resolvers
  mailers : Texts.Agree R a.mailers b.mailers

end Agreement

/-! ### Everything that is written is compared -/

theorem Balance.agree_eq_iff {a b : Balance} : Balance.Agree Eq a b ↔ a = b := by
  cases a <;> cases b <;> simp [Balance.Agree]

theorem Balance.optionRel_agree_eq_iff {a b : Option Balance} :
    Option.Rel (Balance.Agree Eq) a b ↔ a = b := by
  cases a <;> cases b <;> simp [Balance.agree_eq_iff]

/-- Lists that are related element by element have the same image under a function that does not
tell related elements apart. -/
theorem map_eq_of_forall₂ {α β : Type} {P : α → α → Prop} {f : α → β}
    (hf : ∀ a b, P a b → f a = f b) {as bs : List α} (h : List.Forall₂ P as bs) :
    as.map f = bs.map f := by
  induction h with
  | nil => rfl
  | cons hab _ ih => rw [List.map_cons, List.map_cons, hf _ _ hab, ih]

theorem map_eq_of_optionRel {α β : Type} {P : α → α → Prop} {f : α → β}
    (hf : ∀ a b, P a b → f a = f b) {a b : Option α} (h : Option.Rel P a b) :
    a.map f = b.map f := by
  cases h with
  | none => rfl
  | some hab => exact congrArg some (hf _ _ hab)

theorem Server.line_eq_of_agree (a b : Server) (h : Agree Eq a b) : a.line = b.line := by
  have hfields : (a.name, a.address, a.port, a.options) = (b.name, b.address, b.port, b.options) :=
    Written.agree_eq_iff.1 h
  simp only [Prod.mk.injEq] at hfields
  obtain ⟨hname, haddress, hport, hoptions⟩ := hfields
  rw [Server.line, Server.line, hname, haddress, hport, hoptions]

theorem Script.loadPath_eq_of_agree (a b : Script) (h : Agree Eq a b) :
    a.loadPath = b.loadPath := by
  have hfields : (a.name, a.path) = (b.name, b.path) := Written.agree_eq_iff.1 h
  obtain ⟨hname, hpath⟩ := Prod.mk.inj hfields
  rw [Script.loadPath, Script.loadPath, hname, hpath]

theorem Pool.Agree.choiceLines_eq {a b : Pool} (h : a.Agree Eq Eq b) :
    a.choiceLines = b.choiceLines := by
  rw [Pool.choiceLines, Pool.choiceLines, Balance.optionRel_agree_eq_iff.1 h.balance,
    agree_eq_iff.1 h.hashType, agree_eq_iff.1 h.retries, agree_eq_iff.1 h.httpReuse,
    agree_eq_iff.1 h.fullconn, agree_eq_iff.1 h.cookie, agree_eq_iff.1 h.healthCheck]

theorem Pool.Agree.serverLines_eq {a b : Pool} (h : a.Agree Eq Eq b) :
    a.serverLines = b.serverLines := by
  rw [Pool.serverLines, Pool.serverLines, agree_eq_iff.1 h.useServers,
    agree_eq_iff.1 h.defaultServer, agree_eq_iff.1 h.healthCheck,
    agree_eq_iff.1 h.serverTemplates, map_eq_of_forall₂ Server.line_eq_of_agree h.servers]

/-- The lines of a proxy section only depend on what agreement compares of its pool. -/
theorem Pool.Agree.proxyLines_eq {a b : Pool} (h : a.Agree Eq Eq b) (body : ProxyBody)
    (intake : Option Intake) :
    proxyLines body intake (some a) = proxyLines body intake (some b) := by
  simp only [proxyLines, Option.map_some, Option.getD_some, h.choiceLines_eq, h.serverLines_eq]

theorem Defaults.block_eq_of_agree (a b : Defaults) (h : a.Agree Eq Eq b) : a.block = b.block := by
  rw [Defaults.block, Defaults.block, agree_eq_iff.1 h.name, agree_eq_iff.1 h.body,
    h.pool.proxyLines_eq]

theorem Backend.block_eq_of_agree (a b : Backend) (h : a.Agree Eq Eq b) : a.block = b.block := by
  rw [Backend.block, Backend.block, agree_eq_iff.1 h.name, agree_eq_iff.1 h.body,
    h.pool.proxyLines_eq]

theorem Listen.block_eq_of_agree (a b : Listen) (h : a.Agree Eq Eq b) : a.block = b.block := by
  rw [Listen.block, Listen.block, agree_eq_iff.1 h.name, agree_eq_iff.1 h.body,
    agree_eq_iff.1 h.intake, h.pool.proxyLines_eq]

namespace Configuration

variable {a b : Configuration}

/-- Scripts enter the written configuration by where they are loaded from, and by there being
any. -/
theorem Agree.globalBlock_eq (h : a.Agree Eq Eq b) : a.globalBlock = b.globalBlock := by
  have hlength : a.scripts.length = b.scripts.length := List.Forall₂.length_eq h.scripts
  have hempty : a.scripts.isEmpty = b.scripts.isEmpty := by
    rw [Bool.eq_iff_iff, List.isEmpty_iff_length_eq_zero, List.isEmpty_iff_length_eq_zero, hlength]
  have hpaths : a.scripts.map (fun script => ["lua-load", script.loadPath]) =
      b.scripts.map fun script => ["lua-load", script.loadPath] :=
    map_eq_of_forall₂ (fun x y hxy => by rw [Script.loadPath_eq_of_agree x y hxy]) h.scripts
  simp only [globalBlock, Global.block, agree_eq_iff.1 h.global, hempty, hpaths]

/-- **Agreement up to equality fixes the written configuration**: no text is written that
agreement does not compare. -/
theorem text_eq_of_agree (h : a.Agree Eq Eq b) : a.text = b.text := by
  rw [text, text, blocks, blocks, h.globalBlock_eq,
    map_eq_of_optionRel Defaults.block_eq_of_agree h.defaults, agree_eq_iff.1 h.peers,
    agree_eq_iff.1 h.resolvers, agree_eq_iff.1 h.mailers, agree_eq_iff.1 h.frontends,
    map_eq_of_forall₂ Backend.block_eq_of_agree h.backends,
    map_eq_of_forall₂ Listen.block_eq_of_agree h.listens]

end Configuration

/-! ### Substitution leaves the algorithms alone -/

section Traversal

variable {ε : Type} (f : String → Except ε String)

theorem Pool.ends_traverse (pool : Pool) :
    Ends (pool.Agree (fun s t => f s = .ok t) Eq) (fun e => ∃ s, f s = .error e)
      (Strings.traverse f pool) := by
  repeat refine .bind (ends f _) fun _ _ => ?_
  refine .pure ?_
  constructor
  case balance => exact Balance.optionRel_agree_eq_iff.2 rfl
  all_goals first | assumption | exact agree_refl _ _

theorem Defaults.ends_traverse (defaults : Defaults) :
    Ends (defaults.Agree (fun s t => f s = .ok t) Eq) (fun e => ∃ s, f s = .error e)
      (Strings.traverse f defaults) := by
  refine .bind (ends f _) fun _ hname => .bind (ends f _) fun _ hbody => ?_
  exact .bind (Pool.ends_traverse f _) fun _ hpool => .pure ⟨hname, hbody, hpool⟩

theorem Backend.ends_traverse (backend : Backend) :
    Ends (backend.Agree (fun s t => f s = .ok t) Eq) (fun e => ∃ s, f s = .error e)
      (Strings.traverse f backend) := by
  refine .bind (ends f _) fun _ hname => .bind (ends f _) fun _ hbody => ?_
  exact .bind (Pool.ends_traverse f _) fun _ hpool => .pure ⟨hname, hbody, hpool⟩

theorem Listen.ends_traverse (listen : Listen) :
    Ends (listen.Agree (fun s t => f s = .ok t) Eq) (fun e => ∃ s, f s = .error e)
      (Strings.traverse f listen) := by
  refine .bind (ends f _) fun _ hname => .bind (ends f _) fun _ hbody => ?_
  refine .bind (ends f _) fun _ hintake => ?_
  exact .bind (Pool.ends_traverse f _) fun _ hpool => .pure ⟨hname, hbody, hintake, hpool⟩

/-- **An action over all texts of a configuration** reaches every written text but those of the
balancing algorithms, which stay. -/
theorem Configuration.ends_traverse (config : Configuration) :
    Ends (config.Agree (fun s t => f s = .ok t) Eq) (fun e => ∃ s, f s = .error e)
      (Strings.traverse f config) := by
  refine .bind (ends f _) fun _ hglobal => ?_
  refine .bind (Ends.option (Defaults.ends_traverse f) _) fun _ hdefaults => ?_
  refine .bind (ends f _) fun _ hfrontends => ?_
  refine .bind (Ends.mapM (Backend.ends_traverse f) _) fun _ hbackends => ?_
  refine .bind (Ends.mapM (Listen.ends_traverse f) _) fun _ hlistens => ?_
  refine .bind (ends f _) fun _ hscripts => .bind (ends f _) fun _ hpeers => ?_
  refine .bind (ends f _) fun _ hresolvers => .bind (ends f _) fun _ hmailers => ?_
  exact .pure ⟨hglobal, hdefaults, hfrontends, hbackends, hlistens, hscripts, hpeers, hresolvers,
    hmailers⟩

end Traversal

/-! ### The algorithms of a configuration -/

/-- The text of the balancing algorithm of a pool, where it has arguments. -/
def Pool.algorithms (pool : Pool) : List String :=
  match pool.balance with
  | some (.other algorithm) => [algorithm]
  | _ => []

/-- **The texts of the balancing algorithms** of a configuration. -/
def Configuration.algorithms (config : Configuration) : List String :=
  config.defaults.toList.flatMap (·.pool.algorithms) ++
    config.backends.flatMap (·.pool.algorithms) ++ config.listens.flatMap (·.pool.algorithms)

section Algorithms

variable {R B : String → String → Prop}

/-- Where the algorithm has stayed, comparing it by `B` asks whether `B` relates its text to
itself. -/
theorem Pool.Agree.iff_algorithms {a b : Pool} (h : a.Agree R Eq b) :
    a.Agree R B b ↔ ∀ s ∈ a.algorithms, B s s := by
  have hbalance : Option.Rel (Balance.Agree B) a.balance b.balance ↔ ∀ s ∈ a.algorithms, B s s := by
    rw [← Balance.optionRel_agree_eq_iff.1 h.balance, Pool.algorithms]
    rcases a.balance with _ | balance
    · simp
    · cases balance <;> simp [Balance.Agree]
  exact ⟨fun h' => hbalance.1 h'.balance, fun h' => { h with balance := hbalance.2 h' }⟩

theorem Defaults.agree_iff_algorithms (a b : Defaults) (h : a.Agree R Eq b) :
    a.Agree R B b ↔ ∀ s ∈ a.pool.algorithms, B s s :=
  ⟨fun h' => h.pool.iff_algorithms.1 h'.pool,
    fun h' => { h with pool := h.pool.iff_algorithms.2 h' }⟩

theorem Backend.agree_iff_algorithms (a b : Backend) (h : a.Agree R Eq b) :
    a.Agree R B b ↔ ∀ s ∈ a.pool.algorithms, B s s :=
  ⟨fun h' => h.pool.iff_algorithms.1 h'.pool,
    fun h' => { h with pool := h.pool.iff_algorithms.2 h' }⟩

theorem Listen.agree_iff_algorithms (a b : Listen) (h : a.Agree R Eq b) :
    a.Agree R B b ↔ ∀ s ∈ a.pool.algorithms, B s s :=
  ⟨fun h' => h.pool.iff_algorithms.1 h'.pool,
    fun h' => { h with pool := h.pool.iff_algorithms.2 h' }⟩

/-- Lists related by `P` element by element are related by `Q` exactly when `B` relates what the
elements hold to itself, if that is so for every pair of elements. -/
theorem forall₂_iff_flatMap {α : Type} {P Q : α → α → Prop} {held : α → List String}
    (hPQ : ∀ a b, P a b → (Q a b ↔ ∀ s ∈ held a, B s s)) {as bs : List α}
    (h : List.Forall₂ P as bs) : List.Forall₂ Q as bs ↔ ∀ s ∈ as.flatMap held, B s s := by
  induction h with
  | nil => simp
  | cons hab _ ih =>
    simp only [List.forall₂_cons, List.flatMap_cons, List.forall_mem_append, hPQ _ _ hab, ih]

theorem optionRel_iff_flatMap {α : Type} {P Q : α → α → Prop} {held : α → List String}
    (hPQ : ∀ a b, P a b → (Q a b ↔ ∀ s ∈ held a, B s s)) {a b : Option α}
    (h : Option.Rel P a b) : Option.Rel Q a b ↔ ∀ s ∈ a.toList.flatMap held, B s s := by
  cases h with
  | none => simp
  | some hab => simpa using hPQ _ _ hab

theorem Configuration.Agree.iff_algorithms {a b : Configuration} (h : a.Agree R Eq b) :
    a.Agree R B b ↔ ∀ s ∈ a.algorithms, B s s := by
  have hdefaults := optionRel_iff_flatMap (B := B) Defaults.agree_iff_algorithms h.defaults
  have hbackends := forall₂_iff_flatMap (B := B) Backend.agree_iff_algorithms h.backends
  have hlistens := forall₂_iff_flatMap (B := B) Listen.agree_iff_algorithms h.listens
  rw [Configuration.algorithms, List.forall_mem_append, List.forall_mem_append, ← hdefaults,
    ← hbackends, ← hlistens]
  exact ⟨fun h' => ⟨⟨h'.defaults, h'.backends⟩, h'.listens⟩,
    fun h' => { h with defaults := h'.1.1, backends := h'.1.2, listens := h'.2 }⟩

end Algorithms

/-! ### What a resolved configuration holds -/

/-- **Substitution of a text**: with the values of the variables put in, `s` is `t`. -/
def Substituted (definitions : OrderedMap Value) (s t : String) : Prop :=
  interpolate definitions.lookupVariable s = .ok t

/-- A resolved configuration is the one that substitution by the resolved variables makes. -/
theorem Configuration.resolve_eq_ok {config result : Configuration}
    (h : config.resolve = .ok result) :
    Resolver.resolve config.definitions = .ok result.definitions ∧
      ∃ substituted,
        Strings.traverse (interpolate result.definitions.lookupVariable) config =
          Except.ok substituted ∧
        result = { substituted with definitions := result.definitions } := by
  obtain ⟨definitions, hdefinitions, h⟩ := bind_eq_ok.1 h
  obtain ⟨substituted, hsubstituted, h⟩ := bind_eq_ok.1 h
  cases h
  exact ⟨hdefinitions, substituted, hsubstituted, rfl⟩

/-- **What resolution substitutes.** Agreement compares everything that is written. A resolved
configuration agrees with the one it came from up to substitution of the texts, and its balancing
algorithms have stayed. So every text has been substituted exactly when each algorithm is what it
is substituted by. -/
theorem Configuration.resolve_substitutes_iff {config result : Configuration}
    (h : config.resolve = .ok result) :
    (∀ a b : Configuration, a.Agree Eq Eq b → a.text = b.text) ∧
      config.Agree (Substituted result.definitions) Eq result ∧
      (config.Agree (Substituted result.definitions) (Substituted result.definitions) result ↔
        ∀ s ∈ config.algorithms, Substituted result.definitions s s) := by
  obtain ⟨-, substituted, htraverse, hresult⟩ := Configuration.resolve_eq_ok h
  have hagree : config.Agree (Substituted result.definitions) Eq substituted :=
    (Configuration.ends_traverse _ config).of_ok htraverse
  have hresolved : config.Agree (Substituted result.definitions) Eq result := by
    -- only the definitions have been replaced since, and they are not compared
    rw [hresult]
    exact { hagree with }
  exact ⟨fun _ _ => Configuration.text_eq_of_agree, hresolved, hresolved.iff_algorithms⟩

/-- A backend whose server, check and description refer to variables. -/
def variableBackend : Configuration where
  definitions := .ofList [("net", .text "10.0.1"), ("pause", .integer 2)]
  backends :=
    [{ name := "app"
       body := { description := "on $\x7bnet\x7d.0" }
       pool :=
        { balance := some (.other "hdr(host)")
          servers :=
            [{ name := "web", address := "$\x7bnet\x7d.7"
               options := { inter := "$\x7bpause + 1\x7ds" } }] } }]

/-- The same backend with the values of the variables in place. -/
def substitutedBackend : Configuration where
  definitions := .ofList [("net", .text "10.0.1"), ("pause", .integer 2)]
  backends :=
    [{ name := "app"
       body := { description := "on 10.0.1.0" }
       pool :=
        { balance := some (.other "hdr(host)")
          servers := [{ name := "web", address := "10.0.1.7", options := { inter := "3s" } }] } }]

theorem Configuration.resolve_substitutes_variableBackend :
    variableBackend.resolve = .ok substitutedBackend ∧
      variableBackend.Agree (Substituted substitutedBackend.definitions)
        (Substituted substitutedBackend.definitions) substitutedBackend := by
  have hresolve : variableBackend.resolve = .ok substitutedBackend := by cbv
  refine ⟨hresolve, (Configuration.resolve_substitutes_iff hresolve).2.2.2 ?_⟩
  intro s hs
  obtain rfl : s = "hdr(host)" := by
    simpa [Configuration.algorithms, Pool.algorithms, variableBackend] using hs
  change interpolate _ _ = _
  cbv

/-- A document whose backend is balanced by a parameter that a variable names. -/
def parameterDocument : Document where
  items :=
    [.definition "parameter" (.literal (.text "userid")) none,
      .block
        { kind := "backend"
          name := "app"
          children := [.pair "balance" (.literal (.text "url_param $\x7bparameter\x7d")) none]
          position := none }]

/-- The configuration that the document describes. -/
def parameterBackend : Configuration where
  definitions := .ofList [("parameter", .text "userid")]
  backends :=
    [{ name := "app"
       body := { mode := some .http }
       pool := { balance := some (.other "url_param $\x7bparameter\x7d") } }]

/-- **The argument of an algorithm is not substituted**: the configuration comes out of resolution
as it went in, with the marks of an expression in its written text. -/
theorem Configuration.resolve_keeps_parameterBackend :
    Configuration.ofDocument {} parameterDocument = .ok parameterBackend ∧
      parameterBackend.resolve = .ok parameterBackend ∧
      parameterBackend.text =
        "backend app\n    mode http\n    balance url_param $\x7bparameter\x7d\n" ∧
      ¬parameterBackend.Agree (Substituted parameterBackend.definitions)
        (Substituted parameterBackend.definitions) parameterBackend := by
  refine ⟨by cbv, by cbv, by cbv, fun h => ?_⟩
  cases h.backends with
  | cons hbackend _ =>
    cases hbackend.pool.balance with
    | some hbalance =>
      have hvalue : Substituted parameterBackend.definitions "url_param $\x7bparameter\x7d"
          "url_param userid" := by
        change interpolate _ _ = _
        cbv
      exact absurd (Except.ok.inj (hbalance.symm.trans hvalue)) (by decide)

end Balancer
