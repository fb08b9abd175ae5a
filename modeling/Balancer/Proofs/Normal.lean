import Balancer.Compilation
import Balancer.Proofs.Ends

/-!
# Normal forms, part by part

Normalisation is three passes over the whole configuration. Each of them treats the parts of the
configuration one by one, so that the normal form of the whole is made of the normal forms of the
parts: outside of pools, a part has its texts substituted by the resolved variables, and a backend
or a `listen` section goes through all three passes on its own (`Backend.normalize`,
`Listen.normalize`). What connects the parts is only the scope, which holds the resolved variables,
and the templates.

The passes may find different errors first, so this is about what they come to when they succeed
(`Configuration.normalize_eq_ok_iff`), and then it is an equivalence.
-/

namespace Balancer

/-! ### Pools -/

section Pools

variable (scope : OrderedMap Value) (templates : OrderedMap Template)

/-- **A pool through all passes.** -/
def Pool.normalize (pool : Pool) : Except NormalizeError Pool := do
  let pool ← Strings.traverse (interpolate scope.lookupVariable) pool
  let pool ← pool.unroll scope
  pool.expandTemplates scope templates

/-- **A server through all passes**, with its texts substituted under `lookup`. -/
def Server.normalize (lookup : String → Except NormalizeError Value) (server : Server) :
    Except NormalizeError Server := do
  let server ← Strings.traverse (interpolate lookup) server
  server.expand scope templates

/-- **A loop through all passes**: the servers of its rounds, one round after the other. -/
def ServerLoop.normalize (loop : ServerLoop) : Except NormalizeError (List Server) := do
  let values ← loop.values scope
  let rounds ← values.mapM fun value =>
    loop.body.mapM (Server.normalize scope templates (lookupInLoop scope loop.binder value))
  return rounds.flatten

/-- A pool without its servers. -/
def Pool.bare (pool : Pool) : Pool := { pool with servers := [], loops := [] }

/-- **A backend through all passes.** -/
def Backend.normalize (backend : Backend) : Except NormalizeError Backend := do
  let backend ← Strings.traverse (interpolate scope.lookupVariable) backend
  let pool ← backend.pool.unroll scope
  let pool ← pool.expandTemplates scope templates
  return { backend with pool }

/-- **A `listen` section through all passes.** -/
def Listen.normalize (listen : Listen) : Except NormalizeError Listen := do
  let listen ← Strings.traverse (interpolate scope.lookupVariable) listen
  let pool ← listen.pool.unroll scope
  let pool ← pool.expandTemplates scope templates
  return { listen with pool }

variable {scope templates}

theorem ServerLoop.normalize_eq_ok_iff {loop : ServerLoop} {servers : List Server} :
    loop.normalize scope templates = .ok servers ↔
      ∃ plain, loop.servers scope = .ok plain ∧
        plain.mapM (Server.expand scope templates) = .ok servers := by
  simp only [ServerLoop.normalize, ServerLoop.servers, bind_eq_ok, pure_eq_ok_iff]
  -- a round is unrolled and then expanded, and so are all rounds
  have hrounds (values : List Value) (results : List (List Server)) :
      (values.mapM fun value => loop.body.mapM
          (Server.normalize scope templates (lookupInLoop scope loop.binder value))) =
          .ok results ↔
        ∃ rounds, (values.mapM fun value => loop.body.mapM fun server =>
            server.instantiate scope loop.binder value) = .ok rounds ∧
          rounds.mapM (fun round => round.mapM (Server.expand scope templates)) = .ok results := by
    rw [← mapM_bind_eq_ok]
    refine mapM_congr_eq_ok fun value round => ?_
    rw [bind_eq_ok]
    exact mapM_bind_eq_ok
  constructor
  · rintro ⟨values, hvalues, results, hresults, rfl⟩
    obtain ⟨rounds, hinstantiate, hexpand⟩ := (hrounds values results).1 hresults
    exact ⟨rounds.flatten, ⟨values, hvalues, rounds, hinstantiate, rfl⟩,
      mapM_flatten_eq_ok.2 ⟨results, hexpand, rfl⟩⟩
  · rintro ⟨_, ⟨values, hvalues, rounds, hinstantiate, rfl⟩, hexpand⟩
    obtain ⟨results, hresults, rfl⟩ := mapM_flatten_eq_ok.1 hexpand
    exact ⟨values, hvalues, results,
      (hrounds values results).2 ⟨rounds, hinstantiate, hresults⟩, rfl⟩

/-- The texts of a pool: those of its servers, and the others. -/
theorem Pool.traverse_eq_ok_iff {ε : Type} {f : String → Except ε String} {pool result : Pool} :
    Strings.traverse f pool = Except.ok result ↔
      Strings.traverse f pool.bare = Except.ok result.bare ∧
        Strings.traverse f pool.servers = Except.ok result.servers ∧
        result.loops = pool.loops := by
  obtain ⟨balance, hashType, cookie, retries, httpReuse, fullconn, healthCheck, useServers,
    defaultServer, serverTemplates, servers, loops⟩ := result
  constructor
  · intro h
    obtain ⟨_, h₁, h⟩ := bind_eq_ok.1 h
    obtain ⟨_, h₂, h⟩ := bind_eq_ok.1 h
    obtain ⟨_, h₃, h⟩ := bind_eq_ok.1 h
    obtain ⟨_, h₄, h⟩ := bind_eq_ok.1 h
    obtain ⟨_, h₅, h⟩ := bind_eq_ok.1 h
    obtain ⟨_, h₆, h⟩ := bind_eq_ok.1 h
    obtain ⟨_, h₇, h⟩ := bind_eq_ok.1 h
    obtain ⟨_, h₈, h⟩ := bind_eq_ok.1 h
    cases h
    refine ⟨?_, h₈, rfl⟩
    refine bind_eq_ok.2 ⟨_, h₁, bind_eq_ok.2 ⟨_, h₂, bind_eq_ok.2 ⟨_, h₃,
      bind_eq_ok.2 ⟨_, h₄, ?_⟩⟩⟩⟩
    exact bind_eq_ok.2 ⟨_, h₅, bind_eq_ok.2 ⟨_, h₆, bind_eq_ok.2 ⟨_, h₇, rfl⟩⟩⟩
  · rintro ⟨h, hservers, hloops⟩
    obtain ⟨_, h₁, h⟩ := bind_eq_ok.1 h
    obtain ⟨_, h₂, h⟩ := bind_eq_ok.1 h
    obtain ⟨_, h₃, h⟩ := bind_eq_ok.1 h
    obtain ⟨_, h₄, h⟩ := bind_eq_ok.1 h
    obtain ⟨_, h₅, h⟩ := bind_eq_ok.1 h
    obtain ⟨_, h₆, h⟩ := bind_eq_ok.1 h
    obtain ⟨_, h₇, h⟩ := bind_eq_ok.1 h
    cases hloops
    cases h
    refine bind_eq_ok.2 ⟨_, h₁, bind_eq_ok.2 ⟨_, h₂, bind_eq_ok.2 ⟨_, h₃,
      bind_eq_ok.2 ⟨_, h₄, ?_⟩⟩⟩⟩
    refine bind_eq_ok.2 ⟨_, h₅, bind_eq_ok.2 ⟨_, h₆, bind_eq_ok.2 ⟨_, h₇, ?_⟩⟩⟩
    exact bind_eq_ok.2 ⟨_, hservers, rfl⟩

/-- The servers of all loops, unrolled and then expanded. -/
theorem mapM_loop_normalize {loops : List ServerLoop} {generated : List (List Server)} :
    loops.mapM (ServerLoop.normalize scope templates) = .ok generated ↔
      ∃ plain, loops.mapM (ServerLoop.servers scope) = .ok plain ∧
        plain.mapM (fun servers => servers.mapM (Server.expand scope templates)) =
          .ok generated := by
  rw [← mapM_bind_eq_ok]
  refine mapM_congr_eq_ok fun loop servers => ?_
  rw [bind_eq_ok, ServerLoop.normalize_eq_ok_iff]

/-- **A pool through all passes**, server by server: first those that are written out, then those of
the loops. -/
theorem Pool.normalize_eq_ok_iff {pool result : Pool} :
    pool.normalize scope templates = .ok result ↔
      Strings.traverse (interpolate scope.lookupVariable) pool.bare = Except.ok result.bare ∧
        result.loops = [] ∧
        ∃ direct generated,
          pool.servers.mapM (Server.normalize scope templates scope.lookupVariable) =
            .ok direct ∧
          pool.loops.mapM (ServerLoop.normalize scope templates) = .ok generated ∧
          result.servers = direct ++ generated.flatten := by
  constructor
  · intro h
    obtain ⟨substituted, htraverse, h⟩ := bind_eq_ok.1 h
    obtain ⟨unrolled, hunroll, hexpand⟩ := bind_eq_ok.1 h
    obtain ⟨plain, hplain, hunroll⟩ := bind_eq_ok.1 hunroll
    cases hunroll
    obtain ⟨servers, hservers, hexpand⟩ := bind_eq_ok.1 hexpand
    cases hexpand
    obtain ⟨hbare, hdirect, hloops⟩ := Pool.traverse_eq_ok_iff.1 htraverse
    rw [List.mapM_append] at hservers
    obtain ⟨direct, hexpanded, hservers⟩ := bind_eq_ok.1 hservers
    obtain ⟨rest, hrest, hservers⟩ := bind_eq_ok.1 hservers
    cases hservers
    obtain ⟨generated, hgenerated, rfl⟩ := mapM_flatten_eq_ok.1 hrest
    rw [hloops] at hplain
    exact ⟨hbare, rfl, direct, generated, mapM_bind_eq_ok.2 ⟨_, hdirect, hexpanded⟩,
      mapM_loop_normalize.2 ⟨plain, hplain, hgenerated⟩, rfl⟩
  · rintro ⟨hbare, hloops, direct, generated, hdirect, hgenerated, hservers⟩
    obtain ⟨substituted, hsubstituted, hexpanded⟩ := mapM_bind_eq_ok.1 hdirect
    obtain ⟨plain, hplain, hgenerated⟩ := mapM_loop_normalize.1 hgenerated
    have hexpand : (substituted ++ plain.flatten).mapM (Server.expand scope templates) =
        .ok result.servers :=
      hservers ▸ mapM_append_eq_ok hexpanded (mapM_flatten_eq_ok.2 ⟨generated, hgenerated, rfl⟩)
    -- the pool between the passes has the servers of that time and is otherwise final
    refine bind_eq_ok.2 ⟨{ result with servers := substituted, loops := pool.loops },
      Pool.traverse_eq_ok_iff.2 ⟨hbare, hsubstituted, rfl⟩, ?_⟩
    refine bind_eq_ok.2 ⟨{ result with servers := substituted ++ plain.flatten, loops := [] },
      bind_eq_ok.2 ⟨plain, hplain, rfl⟩, bind_eq_ok.2 ⟨result.servers, hexpand, ?_⟩⟩
    rw [← hloops]
    rfl

theorem Backend.normalize_eq_ok_iff {backend result : Backend} :
    backend.normalize scope templates = .ok result ↔
      interpolate scope.lookupVariable backend.name = .ok result.name ∧
        Strings.traverse (interpolate scope.lookupVariable) backend.body =
          Except.ok result.body ∧
        backend.pool.normalize scope templates = .ok result.pool := by
  obtain ⟨name, body, pool⟩ := result
  constructor
  · intro h
    obtain ⟨_, htraverse, h⟩ := bind_eq_ok.1 h
    obtain ⟨_, hname, htraverse⟩ := bind_eq_ok.1 htraverse
    obtain ⟨_, hbody, htraverse⟩ := bind_eq_ok.1 htraverse
    obtain ⟨p, hp, htraverse⟩ := bind_eq_ok.1 htraverse
    cases htraverse
    obtain ⟨q, hq, h⟩ := bind_eq_ok.1 h
    obtain ⟨_, hr, h⟩ := bind_eq_ok.1 h
    cases h
    exact ⟨hname, hbody, bind_eq_ok.2 ⟨p, hp, bind_eq_ok.2 ⟨q, hq, hr⟩⟩⟩
  · rintro ⟨hname, hbody, h⟩
    obtain ⟨p, hp, h⟩ := bind_eq_ok.1 h
    obtain ⟨q, hq, hr⟩ := bind_eq_ok.1 h
    refine bind_eq_ok.2 ⟨⟨name, body, p⟩, ?_, bind_eq_ok.2 ⟨q, hq, bind_eq_ok.2 ⟨pool, hr, rfl⟩⟩⟩
    exact bind_eq_ok.2 ⟨name, hname, bind_eq_ok.2 ⟨body, hbody, bind_eq_ok.2 ⟨p, hp, rfl⟩⟩⟩

theorem Listen.normalize_eq_ok_iff {listen result : Listen} :
    listen.normalize scope templates = .ok result ↔
      interpolate scope.lookupVariable listen.name = .ok result.name ∧
        Strings.traverse (interpolate scope.lookupVariable) listen.body =
          Except.ok result.body ∧
        Strings.traverse (interpolate scope.lookupVariable) listen.intake =
          Except.ok result.intake ∧
        listen.pool.normalize scope templates = .ok result.pool := by
  obtain ⟨name, body, intake, pool⟩ := result
  constructor
  · intro h
    obtain ⟨_, htraverse, h⟩ := bind_eq_ok.1 h
    obtain ⟨_, hname, htraverse⟩ := bind_eq_ok.1 htraverse
    obtain ⟨_, hbody, htraverse⟩ := bind_eq_ok.1 htraverse
    obtain ⟨_, hintake, htraverse⟩ := bind_eq_ok.1 htraverse
    obtain ⟨p, hp, htraverse⟩ := bind_eq_ok.1 htraverse
    cases htraverse
    obtain ⟨q, hq, h⟩ := bind_eq_ok.1 h
    obtain ⟨_, hr, h⟩ := bind_eq_ok.1 h
    cases h
    exact ⟨hname, hbody, hintake, bind_eq_ok.2 ⟨p, hp, bind_eq_ok.2 ⟨q, hq, hr⟩⟩⟩
  · rintro ⟨hname, hbody, hintake, h⟩
    obtain ⟨p, hp, h⟩ := bind_eq_ok.1 h
    obtain ⟨q, hq, hr⟩ := bind_eq_ok.1 h
    refine bind_eq_ok.2 ⟨⟨name, body, intake, p⟩, ?_,
      bind_eq_ok.2 ⟨q, hq, bind_eq_ok.2 ⟨pool, hr, rfl⟩⟩⟩
    refine bind_eq_ok.2 ⟨name, hname, bind_eq_ok.2 ⟨body, hbody, ?_⟩⟩
    exact bind_eq_ok.2 ⟨intake, hintake, bind_eq_ok.2 ⟨p, hp, rfl⟩⟩

end Pools

/-! ### Passes over the whole -/

namespace Configuration

variable {config result : Configuration}

theorem traverse_eq_ok_iff {ε : Type} {f : String → Except ε String} :
    Strings.traverse f config = Except.ok result ↔
      Strings.traverse f config.global = Except.ok result.global ∧
        Strings.traverse f config.defaults = Except.ok result.defaults ∧
        Strings.traverse f config.frontends = Except.ok result.frontends ∧
        Strings.traverse f config.backends = Except.ok result.backends ∧
        Strings.traverse f config.listens = Except.ok result.listens ∧
        Strings.traverse f config.scripts = Except.ok result.scripts ∧
        Strings.traverse f config.peers = Except.ok result.peers ∧
        Strings.traverse f config.resolvers = Except.ok result.resolvers ∧
        Strings.traverse f config.mailers = Except.ok result.mailers ∧
        result.definitions = config.definitions ∧ result.templates = config.templates ∧
        result.imports = config.imports := by
  change traverse f config = _ ↔ _
  rw [traverse]
  constructor
  · intro h
    obtain ⟨_, hglobal, h⟩ := bind_eq_ok.1 h
    obtain ⟨_, hdefaults, h⟩ := bind_eq_ok.1 h
    obtain ⟨_, hfrontends, h⟩ := bind_eq_ok.1 h
    obtain ⟨_, hbackends, h⟩ := bind_eq_ok.1 h
    obtain ⟨_, hlistens, h⟩ := bind_eq_ok.1 h
    obtain ⟨_, hscripts, h⟩ := bind_eq_ok.1 h
    obtain ⟨_, hpeers, h⟩ := bind_eq_ok.1 h
    obtain ⟨_, hresolvers, h⟩ := bind_eq_ok.1 h
    obtain ⟨_, hmailers, h⟩ := bind_eq_ok.1 h
    cases h
    exact ⟨hglobal, hdefaults, hfrontends, hbackends, hlistens, hscripts, hpeers, hresolvers,
      hmailers, rfl, rfl, rfl⟩
  · rintro ⟨hglobal, hdefaults, hfrontends, hbackends, hlistens, hscripts, hpeers, hresolvers,
      hmailers, hdefinitions, htemplates, himports⟩
    rw [hglobal, hdefaults, hfrontends, hbackends, hlistens, hscripts, hpeers, hresolvers,
      hmailers]
    cases result
    cases hdefinitions
    cases htemplates
    cases himports
    rfl

theorem mapPoolsM_eq_ok_iff {f : Pool → Except NormalizeError Pool} :
    config.mapPoolsM f = .ok result ↔
      (config.backends.mapM fun b => do return { b with pool := ← f b.pool }) =
          .ok result.backends ∧
        (config.listens.mapM fun l => do return { l with pool := ← f l.pool }) =
          .ok result.listens ∧
        result = { config with backends := result.backends, listens := result.listens } := by
  rw [mapPoolsM]
  constructor
  · intro h
    obtain ⟨_, hbackends, h⟩ := bind_eq_ok.1 h
    obtain ⟨_, hlistens, h⟩ := bind_eq_ok.1 h
    cases h
    exact ⟨hbackends, hlistens, rfl⟩
  · rintro ⟨hbackends, hlistens, hresult⟩
    rw [hbackends, hlistens, hresult]
    rfl

/-- **A configuration whose pools are changed, each in a certain way**, and nothing else of it. -/
structure PoolsChanged (R : Pool → Pool → Prop) (config result : Configuration) : Prop where
  backends : List.Forall₂ (fun b b' => b' = { b with pool := b'.pool } ∧ R b.pool b'.pool)
    config.backends result.backends
  listens : List.Forall₂ (fun l l' => l' = { l with pool := l'.pool } ∧ R l.pool l'.pool)
    config.listens result.listens
  rest : result = { config with backends := result.backends, listens := result.listens }

theorem PoolsChanged.mono {R S : Pool → Pool → Prop} (h : config.PoolsChanged R result)
    (hRS : ∀ pool pool', R pool pool' → S pool pool') : config.PoolsChanged S result where
  backends := h.backends.imp fun b b' hb => ⟨hb.1, hRS b.pool b'.pool hb.2⟩
  listens := h.listens.imp fun l l' hl => ⟨hl.1, hRS l.pool l'.pool hl.2⟩
  rest := h.rest

theorem mapPoolsM_eq_ok_iff_poolsChanged {f : Pool → Except NormalizeError Pool} :
    config.mapPoolsM f = .ok result ↔
      config.PoolsChanged (fun pool pool' => f pool = .ok pool') result := by
  have hbackend (b b' : Backend) : (do return { b with pool := ← f b.pool }) = Except.ok b' ↔
      b' = { b with pool := b'.pool } ∧ f b.pool = .ok b'.pool := by
    simp only [bind_eq_ok, pure_eq_ok_iff]
    constructor
    · rintro ⟨pool, hpool, rfl⟩
      exact ⟨rfl, hpool⟩
    · rintro ⟨hb, hpool⟩
      exact ⟨b'.pool, hpool, hb.symm⟩
  have hlisten (l l' : Listen) : (do return { l with pool := ← f l.pool }) = Except.ok l' ↔
      l' = { l with pool := l'.pool } ∧ f l.pool = .ok l'.pool := by
    simp only [bind_eq_ok, pure_eq_ok_iff]
    constructor
    · rintro ⟨pool, hpool, rfl⟩
      exact ⟨rfl, hpool⟩
    · rintro ⟨hl, hpool⟩
      exact ⟨l'.pool, hpool, hl.symm⟩
  rw [mapPoolsM_eq_ok_iff]
  simp only [mapM_eq_ok, hbackend, hlisten]
  constructor
  · rintro ⟨hbackends, hlistens, hrest⟩
    exact ⟨hbackends, hlistens, hrest⟩
  · rintro ⟨hbackends, hlistens, hrest⟩
    exact ⟨hbackends, hlistens, hrest⟩

/-- All pools can be changed if each of them can. -/
theorem returns_mapPoolsM_iff {f : Pool → Except NormalizeError Pool} :
    Returns (config.mapPoolsM f) ↔ ∀ named ∈ config.pools, Returns (f named.2) := by
  have hboth : Returns (config.mapPoolsM f) ↔
      Returns (config.backends.mapM fun b => do return { b with pool := ← f b.pool }) ∧
        Returns (config.listens.mapM fun l => do return { l with pool := ← f l.pool }) := by
    rw [mapPoolsM, returns_bind_iff]
    simp only [returns_bind_pure_iff, exists_and_right]
    rfl
  rw [hboth, returns_mapM_iff, returns_mapM_iff, pools, List.forall_mem_append]
  simp only [returns_bind_pure_iff, List.forall_mem_map]

end Configuration

/-! ### Normal forms -/

section Normalized

variable (scope : OrderedMap Value) (templates : OrderedMap Template)

/-- **A configuration and its normal form**, part by part. -/
structure Normalized (config result : Configuration) : Prop where
  global : Strings.traverse (interpolate scope.lookupVariable) config.global =
    Except.ok result.global
  defaults : Strings.traverse (interpolate scope.lookupVariable) config.defaults =
    Except.ok result.defaults
  frontends : Strings.traverse (interpolate scope.lookupVariable) config.frontends =
    Except.ok result.frontends
  backends : config.backends.mapM (Backend.normalize scope templates) = .ok result.backends
  listens : config.listens.mapM (Listen.normalize scope templates) = .ok result.listens
  scripts : Strings.traverse (interpolate scope.lookupVariable) config.scripts =
    Except.ok result.scripts
  peers : Strings.traverse (interpolate scope.lookupVariable) config.peers =
    Except.ok result.peers
  resolvers : Strings.traverse (interpolate scope.lookupVariable) config.resolvers =
    Except.ok result.resolvers
  mailers : Strings.traverse (interpolate scope.lookupVariable) config.mailers =
    Except.ok result.mailers
  definitions : result.definitions = ∅
  templates : result.templates = ∅
  imports : result.imports = config.imports

variable {scope templates}

/-- All passes over a list of backends: one pass after the other. -/
theorem mapM_backend_normalize {backends results : List Backend} :
    backends.mapM (Backend.normalize scope templates) = .ok results ↔
      ∃ substituted unrolled,
        Strings.traverse (interpolate scope.lookupVariable) backends = Except.ok substituted ∧
          (substituted.mapM fun b => do return { b with pool := ← b.pool.unroll scope }) =
            .ok unrolled ∧
          (unrolled.mapM fun b => do
            return { b with pool := ← b.pool.expandTemplates scope templates }) = .ok results := by
  have hstages : Backend.normalize scope templates = fun backend =>
      Strings.traverse (interpolate scope.lookupVariable) backend >>= fun b =>
        (do return { b with pool := ← b.pool.unroll scope }) >>= fun b =>
          do return { b with pool := ← b.pool.expandTemplates scope templates } := by
    funext backend
    simp only [Backend.normalize, bind_assoc, pure_bind]
  rw [hstages, mapM_bind_eq_ok]
  simp only [mapM_bind_eq_ok]
  exact ⟨fun ⟨s, hs, u, hu, hr⟩ => ⟨s, u, hs, hu, hr⟩, fun ⟨s, u, hs, hu, hr⟩ => ⟨s, hs, u, hu, hr⟩⟩

theorem mapM_listen_normalize {listens results : List Listen} :
    listens.mapM (Listen.normalize scope templates) = .ok results ↔
      ∃ substituted unrolled,
        Strings.traverse (interpolate scope.lookupVariable) listens = Except.ok substituted ∧
          (substituted.mapM fun l => do return { l with pool := ← l.pool.unroll scope }) =
            .ok unrolled ∧
          (unrolled.mapM fun l => do
            return { l with pool := ← l.pool.expandTemplates scope templates }) = .ok results := by
  have hstages : Listen.normalize scope templates = fun listen =>
      Strings.traverse (interpolate scope.lookupVariable) listen >>= fun l =>
        (do return { l with pool := ← l.pool.unroll scope }) >>= fun l =>
          do return { l with pool := ← l.pool.expandTemplates scope templates } := by
    funext listen
    simp only [Listen.normalize, bind_assoc, pure_bind]
  rw [hstages, mapM_bind_eq_ok]
  simp only [mapM_bind_eq_ok]
  exact ⟨fun ⟨s, hs, u, hu, hr⟩ => ⟨s, u, hs, hu, hr⟩, fun ⟨s, u, hs, hu, hr⟩ => ⟨s, hs, u, hu, hr⟩⟩

/-- **The normal form of a configuration is made of the normal forms of its parts**, under the
values that its variables are resolved to. -/
theorem Configuration.normalize_eq_ok_iff {config result : Configuration} :
    config.normalize = .ok result ↔
      ∃ scope, Resolver.resolve config.definitions = .ok scope ∧
        Normalized scope config.templates config result := by
  constructor
  · intro h
    obtain ⟨resolved, hresolve, h⟩ := bind_eq_ok.1 h
    obtain ⟨scope, hscope, hresolve⟩ := bind_eq_ok.1 hresolve
    obtain ⟨substituted, htraverse, hresolve⟩ := bind_eq_ok.1 hresolve
    cases hresolve
    obtain ⟨unrolled, hunroll, h⟩ := bind_eq_ok.1 h
    obtain ⟨expanded, hexpand, h⟩ := bind_eq_ok.1 h
    cases h
    obtain ⟨hglobal, hdefaults, hfrontends, hbackends, hlistens, hscripts, hpeers, hresolvers,
      hmailers, -, htemplates, himports⟩ := traverse_eq_ok_iff.1 htraverse
    obtain ⟨hbackends', hlistens', hunrolled⟩ := mapPoolsM_eq_ok_iff.1 hunroll
    obtain ⟨hbackends'', hlistens'', hexpanded⟩ := mapPoolsM_eq_ok_iff.1 hexpand
    rw [hunrolled] at hbackends'' hlistens'' hexpanded
    refine ⟨scope, hscope, ?_⟩
    rw [hexpanded, ← htemplates]
    exact {
      global := hglobal
      defaults := hdefaults
      frontends := hfrontends
      backends := mapM_backend_normalize.2 ⟨_, _, hbackends, hbackends', hbackends''⟩
      listens := mapM_listen_normalize.2 ⟨_, _, hlistens, hlistens', hlistens''⟩
      scripts := hscripts
      peers := hpeers
      resolvers := hresolvers
      mailers := hmailers
      definitions := rfl
      templates := rfl
      imports := himports }
  · rintro ⟨scope, hscope, h⟩
    obtain ⟨bs, bs', hbs, hbs', hbs''⟩ := mapM_backend_normalize.1 h.backends
    obtain ⟨ls, ls', hls, hls', hls''⟩ := mapM_listen_normalize.1 h.listens
    -- the configuration between the passes: everything outside of pools is final already
    let between (backends : List Backend) (listens : List Listen) : Configuration :=
      { result with
        backends, listens, definitions := scope, templates := config.templates }
    have hresolve : config.resolve = .ok (between bs ls) := by
      refine bind_eq_ok.2 ⟨scope, hscope, bind_eq_ok.2
        ⟨{ between bs ls with definitions := config.definitions }, ?_, rfl⟩⟩
      exact traverse_eq_ok_iff.2 ⟨h.global, h.defaults, h.frontends, hbs, hls, h.scripts, h.peers,
        h.resolvers, h.mailers, rfl, rfl, h.imports⟩
    have hunroll : (between bs ls).unroll = .ok (between bs' ls') :=
      mapPoolsM_eq_ok_iff.2 ⟨hbs', hls', rfl⟩
    have hexpand : (between bs' ls').expandTemplates =
        .ok (between result.backends result.listens) :=
      mapPoolsM_eq_ok_iff.2 ⟨hbs'', hls'', rfl⟩
    have hlast : { between result.backends result.listens with
        definitions := {}, templates := {} } = result := by
      obtain ⟨⟩ := result
      cases h.definitions
      cases h.templates
      rfl
    rw [Configuration.normalize, hresolve, ok_bind, hunroll, ok_bind, hexpand, ok_bind, hlast]
    rfl

end Normalized

/-- A document compiles to the normal form of what it is assembled to. -/
theorem Document.compile_eq_ok_iff {environment : Environment} {document : Document}
    {result : Configuration} :
    document.compile environment = .ok result ↔
      ∃ config, Configuration.ofDocument environment document = .ok config ∧
        config.normalize = .ok result := by
  rw [Document.compile]
  cases hconfig : Configuration.ofDocument environment document with
  | error e => simp
  | ok config => cases hresult : config.normalize <;> simp [hresult]

end Balancer
