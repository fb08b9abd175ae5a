import Balancer.Proofs.FixedPoints

/-!
# What resolution leaves alone

`Balancer.Configuration.resolve` replaces the variables by their values and puts these into the
texts. This file says that it does nothing else.

Agreement already compares everything that is *written* of two configurations: their shape, their
numbers, switches and kinds, and text by text. What is not written falls into two parts, the
variables and the rest, which is collected in `Configuration.Unwritten`: the loops and spreads that
are still pending in the pools, the sources of the scripts, the templates and the imports. There is
nothing beyond: configurations that agree up to equality, with the same variables and the same
unwritten rest, are equal (`Configuration.eq_of_agree`).

Resolution then keeps the rest as it is, keeps the names of the variables in their order, and
replaces a text only where it holds the marker `${`. In particular a configuration without markers
comes out as it went in. The texts of the unwritten rest may hold any markers; they are substituted
later, in a wider scope, or never.
-/

namespace Balancer

/-! ### The parts that are not written -/

/-- **What is pending in a pool**: the templates that each of its servers still has to take over,
and the loops. -/
structure Pool.Pending where
  spreads : List (List String)
  loops : List ServerLoop

/-- The pending part of a pool. -/
def Pool.pending (pool : Pool) : Pool.Pending where
  spreads := pool.servers.map (·.spreads)
  loops := pool.loops

/-- **What is not written of a configuration**, apart from its variables. -/
structure Configuration.Unwritten where
  defaults : Option Pool.Pending
  backends : List Pool.Pending
  listens : List Pool.Pending
  sources : List (Option String)
  templates : OrderedMap Template
  imports : List String

/-- The unwritten part of a configuration. -/
def Configuration.unwritten (config : Configuration) : Configuration.Unwritten where
  defaults := config.defaults.map (·.pool.pending)
  backends := config.backends.map (·.pool.pending)
  listens := config.listens.map (·.pool.pending)
  sources := config.scripts.map (·.source)
  templates := config.templates
  imports := config.imports

/-! ### Nothing is left out

A part is determined by what is written of it and by what is not. For the lists of parts, the first
is known element by element and the second of the lists as a whole. -/

section Determined

variable {α β : Type} {P : α → α → Prop} {g : α → β}

/-- Lists that are related element by element and have the same image are equal, if related elements
with the same image are. -/
theorem eq_of_forall₂_of_map_eq (h : ∀ a b, P a b → g a = g b → a = b) {as bs : List α}
    (hP : List.Forall₂ P as bs) (hg : as.map g = bs.map g) : as = bs := by
  induction hP with
  | nil => rfl
  | cons hab _ ih =>
    rw [List.map_cons, List.map_cons, List.cons.injEq] at hg
    rw [h _ _ hab hg.1, ih hg.2]

theorem eq_of_optionRel_of_map_eq (h : ∀ a b, P a b → g a = g b → a = b) {a b : Option α}
    (hP : Option.Rel P a b) (hg : a.map g = b.map g) : a = b := by
  cases hP with
  | none => rfl
  | some hab => rw [h _ _ hab (Option.some.inj hg)]

end Determined

theorem Server.eq_of_agree (a b : Server) (h : Agree Eq a b) (hspreads : a.spreads = b.spreads) :
    a = b := by
  have hfields : (a.name, a.address, a.port, a.options) = (b.name, b.address, b.port, b.options) :=
    Written.agree_eq_iff.1 h
  cases a
  cases b
  cases hfields
  cases hspreads
  rfl

theorem Script.eq_of_agree (a b : Script) (h : Agree Eq a b) (hsource : a.source = b.source) :
    a = b := by
  have hfields : (a.name, a.path) = (b.name, b.path) := Written.agree_eq_iff.1 h
  cases a
  cases b
  cases hfields
  cases hsource
  rfl

theorem Pool.eq_of_agree {a b : Pool} (h : a.Agree Eq Eq b) (hpending : a.pending = b.pending) :
    a = b := by
  obtain ⟨hspreads, hloops⟩ := (Pool.Pending.mk.injEq ..).mp hpending
  have hservers : a.servers = b.servers :=
    eq_of_forall₂_of_map_eq Server.eq_of_agree h.servers hspreads
  cases a
  cases b
  rw [Pool.mk.injEq]
  exact ⟨Balance.optionRel_agree_eq_iff.1 h.balance, agree_eq_iff.1 h.hashType,
    agree_eq_iff.1 h.cookie, agree_eq_iff.1 h.retries, agree_eq_iff.1 h.httpReuse,
    agree_eq_iff.1 h.fullconn, agree_eq_iff.1 h.healthCheck, agree_eq_iff.1 h.useServers,
    agree_eq_iff.1 h.defaultServer, agree_eq_iff.1 h.serverTemplates, hservers, hloops⟩

theorem Defaults.eq_of_agree (a b : Defaults) (h : a.Agree Eq Eq b)
    (hpending : a.pool.pending = b.pool.pending) : a = b := by
  cases a
  cases b
  rw [Defaults.mk.injEq]
  exact ⟨agree_eq_iff.1 h.name, agree_eq_iff.1 h.body, Pool.eq_of_agree h.pool hpending⟩

theorem Backend.eq_of_agree (a b : Backend) (h : a.Agree Eq Eq b)
    (hpending : a.pool.pending = b.pool.pending) : a = b := by
  cases a
  cases b
  rw [Backend.mk.injEq]
  exact ⟨agree_eq_iff.1 h.name, agree_eq_iff.1 h.body, Pool.eq_of_agree h.pool hpending⟩

theorem Listen.eq_of_agree (a b : Listen) (h : a.Agree Eq Eq b)
    (hpending : a.pool.pending = b.pool.pending) : a = b := by
  cases a
  cases b
  rw [Listen.mk.injEq]
  exact ⟨agree_eq_iff.1 h.name, agree_eq_iff.1 h.body, agree_eq_iff.1 h.intake,
    Pool.eq_of_agree h.pool hpending⟩

/-- **What is written, what is not written and the variables are all that there is** of a
configuration. -/
theorem Configuration.eq_of_agree {a b : Configuration} (h : a.Agree Eq Eq b)
    (hunwritten : a.unwritten = b.unwritten) (hdefinitions : a.definitions = b.definitions) :
    a = b := by
  obtain ⟨hdefaults, hbackends, hlistens, hsources, htemplates, himports⟩ :=
    (Configuration.Unwritten.mk.injEq ..).mp hunwritten
  replace hdefaults := eq_of_optionRel_of_map_eq Defaults.eq_of_agree h.defaults hdefaults
  replace hbackends := eq_of_forall₂_of_map_eq Backend.eq_of_agree h.backends hbackends
  replace hlistens := eq_of_forall₂_of_map_eq Listen.eq_of_agree h.listens hlistens
  have hscripts := eq_of_forall₂_of_map_eq Script.eq_of_agree h.scripts hsources
  cases a
  cases b
  rw [Configuration.mk.injEq]
  exact ⟨agree_eq_iff.1 h.global, hdefaults, agree_eq_iff.1 h.frontends, hbackends, hlistens,
    hscripts, agree_eq_iff.1 h.peers, agree_eq_iff.1 h.resolvers, agree_eq_iff.1 h.mailers,
    hdefinitions, htemplates, himports⟩

/-! ### Actions on texts keep what is not written -/

section Traversal

variable {ε : Type} {f : String → Except ε String}

theorem Server.spreads_of_traverse (server result : Server)
    (h : Strings.traverse f server = Except.ok result) : server.spreads = result.spreads := by
  obtain ⟨_, -, h⟩ := bind_eq_ok.1 h
  obtain ⟨_, -, h⟩ := bind_eq_ok.1 h
  obtain ⟨_, -, h⟩ := bind_eq_ok.1 h
  cases h
  rfl

theorem Script.source_of_traverse (script result : Script)
    (h : Strings.traverse f script = Except.ok result) : script.source = result.source := by
  obtain ⟨_, -, h⟩ := bind_eq_ok.1 h
  obtain ⟨_, -, h⟩ := bind_eq_ok.1 h
  cases h
  rfl

theorem Pool.pending_of_traverse {pool result : Pool}
    (h : Strings.traverse f pool = Except.ok result) : pool.pending = result.pending := by
  obtain ⟨-, hservers, hloops⟩ := Pool.traverse_eq_ok_iff.1 h
  rw [Pool.pending, Pool.pending, hloops,
    map_eq_of_forall₂ Server.spreads_of_traverse (mapM_eq_ok.1 hservers)]

theorem Defaults.pending_of_traverse (defaults result : Defaults)
    (h : Strings.traverse f defaults = Except.ok result) :
    defaults.pool.pending = result.pool.pending := by
  obtain ⟨_, -, h⟩ := bind_eq_ok.1 h
  obtain ⟨_, -, h⟩ := bind_eq_ok.1 h
  obtain ⟨pool, hpool, h⟩ := bind_eq_ok.1 h
  cases h
  exact Pool.pending_of_traverse hpool

theorem Backend.pending_of_traverse (backend result : Backend)
    (h : Strings.traverse f backend = Except.ok result) :
    backend.pool.pending = result.pool.pending := by
  obtain ⟨_, -, h⟩ := bind_eq_ok.1 h
  obtain ⟨_, -, h⟩ := bind_eq_ok.1 h
  obtain ⟨pool, hpool, h⟩ := bind_eq_ok.1 h
  cases h
  exact Pool.pending_of_traverse hpool

theorem Listen.pending_of_traverse (listen result : Listen)
    (h : Strings.traverse f listen = Except.ok result) :
    listen.pool.pending = result.pool.pending := by
  obtain ⟨_, -, h⟩ := bind_eq_ok.1 h
  obtain ⟨_, -, h⟩ := bind_eq_ok.1 h
  obtain ⟨_, -, h⟩ := bind_eq_ok.1 h
  obtain ⟨pool, hpool, h⟩ := bind_eq_ok.1 h
  cases h
  exact Pool.pending_of_traverse hpool

/-- An action on the texts of an optional part is one on those of the part, if it is there. -/
theorem optionRel_of_traverse {α : Type} [Strings α] {a b : Option α}
    (h : Strings.traverse f a = Except.ok b) :
    Option.Rel (fun a b => Strings.traverse f a = Except.ok b) a b := by
  cases a with
  | none =>
    cases h
    exact .none
  | some a =>
    obtain ⟨b, hb, h⟩ := bind_eq_ok.1 h
    cases h
    exact .some hb

/-- **No action on the texts of a configuration reaches what is not written of it.** -/
theorem Configuration.unwritten_of_traverse {config result : Configuration}
    (h : Strings.traverse f config = Except.ok result) : config.unwritten = result.unwritten := by
  obtain ⟨-, hdefaults, -, hbackends, hlistens, hscripts, -, -, -, -, htemplates, himports⟩ :=
    Configuration.traverse_eq_ok_iff.1 h
  rw [Configuration.unwritten, Configuration.unwritten, htemplates, himports,
    map_eq_of_optionRel Defaults.pending_of_traverse (optionRel_of_traverse hdefaults),
    map_eq_of_forall₂ Backend.pending_of_traverse (mapM_eq_ok.1 hbackends),
    map_eq_of_forall₂ Listen.pending_of_traverse (mapM_eq_ok.1 hlistens),
    map_eq_of_forall₂ Script.source_of_traverse (mapM_eq_ok.1 hscripts)]

end Traversal

/-! ### The frame -/

/-- **Replacement of a text**: one without markers stays as it is, any other is substituted. -/
def Replaced (definitions : OrderedMap Value) (s t : String) : Prop :=
  if unmarked s then t = s else Substituted definitions s t

/-- Substitution is replacement: it makes nothing else of a text without markers. -/
theorem substituted_eq_replaced (definitions : OrderedMap Value) :
    Substituted definitions = Replaced definitions := by
  funext s t
  rw [Replaced]
  split
  · rename_i h
    rw [Substituted, interpolate_of_unmarked h, Except.ok.injEq]
    exact propext eq_comm
  · rfl

/-- **Resolution changes nothing but texts with markers and the values of the variables.** What is
written stays the same in shape and text by text, except for the replaced ones; what is not written
and the names of the variables stay as they are. Where no text that is reached and no value holds a
marker, the configuration comes out as it is. The last part says that nothing has been left out of
the comparison. -/
theorem Configuration.resolve_frame (config : Configuration) :
    (∀ result, config.resolve = .ok result →
      config.Agree (Replaced result.definitions) Eq result ∧
        result.unwritten = config.unwritten ∧
        result.definitions.keys = config.definitions.keys) ∧
      ((∀ s ∈ Strings.reached config, unmarked s = true) →
        (∀ value ∈ config.definitions.values, value.unmarked = true) →
        config.resolve = .ok config) ∧
      ∀ a b : Configuration, a.Agree Eq Eq b → a.unwritten = b.unwritten →
        a.definitions = b.definitions → a = b := by
  refine ⟨fun result h => ?_, resolve_of_unmarked, fun _ _ => eq_of_agree⟩
  obtain ⟨hdefinitions, substituted, htraverse, hresult⟩ := resolve_eq_ok h
  have hagree : config.Agree (Substituted result.definitions) Eq substituted :=
    (ends_traverse _ config).of_ok htraverse
  rw [substituted_eq_replaced] at hagree
  have hunwritten := unwritten_of_traverse htraverse
  refine ⟨?_, ?_, ((Resolver.ends_resolve _).of_ok hdefinitions).1⟩
  -- since the texts were substituted, only the definitions have been replaced
  · rw [hresult]
    exact { hagree with }
  · rw [hunwritten, hresult]
    rfl

/-- A configuration with markers everywhere: in a variable, in texts that are written, and in an
algorithm, a loop, a template and the source of a script. -/
def markedDesign : Configuration where
  definitions := .ofList [("host", .text "$\x7bnet\x7d.7"), ("net", .text "10.0.0")]
  templates := .ofList [("small", ⟨"small", .ofList [("cookie", .text "c-$\x7bnet\x7d")]⟩)]
  imports := ["base"]
  scripts := [⟨"auth", some "/lua/$\x7bnet\x7d.lua", some "return $\x7bnet\x7d"⟩]
  backends :=
    [{ name := "app"
       pool :=
        { balance := some (.other "url_param $\x7bnet\x7d")
          servers :=
            [{ name := "web", address := "$\x7bhost\x7d", spreads := ["small"]
               options := { check := true } }]
          loops :=
            [{ binder := "i"
               iterable := .list [.text "8", .text "9"]
               body := [{ name := "web$\x7bi\x7d", address := "$\x7bnet\x7d.$\x7bi\x7d" }] }] } }]

/-- What resolution makes of it. -/
def markedDesignResolved : Configuration where
  definitions := .ofList [("host", .text "10.0.0.7"), ("net", .text "10.0.0")]
  templates := .ofList [("small", ⟨"small", .ofList [("cookie", .text "c-$\x7bnet\x7d")]⟩)]
  imports := ["base"]
  scripts := [⟨"auth", some "/lua/10.0.0.lua", some "return $\x7bnet\x7d"⟩]
  backends :=
    [{ name := "app"
       pool :=
        { balance := some (.other "url_param $\x7bnet\x7d")
          servers :=
            [{ name := "web", address := "10.0.0.7", spreads := ["small"]
               options := { check := true } }]
          loops :=
            [{ binder := "i"
               iterable := .list [.text "8", .text "9"]
               body := [{ name := "web$\x7bi\x7d", address := "$\x7bnet\x7d.$\x7bi\x7d" }] }] } }]

theorem Configuration.resolve_frame_markedDesign :
    markedDesign.resolve = .ok markedDesignResolved ∧
      markedDesign.Agree (Replaced markedDesignResolved.definitions) Eq markedDesignResolved ∧
      markedDesignResolved.unwritten = markedDesign.unwritten ∧
      markedDesignResolved.definitions.keys = markedDesign.definitions.keys ∧
      markedDesignResolved.resolve = .ok markedDesignResolved := by
  have hresolve : markedDesign.resolve = .ok markedDesignResolved := by cbv
  have hreached : ∀ s ∈ Strings.reached markedDesignResolved, unmarked s = true := by
    decide +kernel
  have hvalues : ∀ value ∈ markedDesignResolved.definitions.values, value.unmarked = true := by
    decide +kernel
  obtain ⟨hagree, hunwritten, hkeys⟩ := (resolve_frame markedDesign).1 _ hresolve
  exact ⟨hresolve, hagree, hunwritten, hkeys,
    (resolve_frame markedDesignResolved).2.1 hreached hvalues⟩

end Balancer
