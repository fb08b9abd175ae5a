import Balancer.Proofs.Escaping
import Balancer.Proofs.Normal
import Balancer.Proofs.Parameters

/-!
# Plain names never stand in the way

Sections, conditions, addresses to listen on and servers have names, and names are substituted like
all texts. So a name can make normalisation fail. This file says that only a name with a marker of
interpolation can: where a configuration has a normal form, any of its names can be changed to a
text without markers, and it still has one (`Configuration.Relabelled.returns_normalize`).

That a text can be substituted is followed through the records as `Returns`: the texts of a record
can be substituted when each of them can, so that one name is exchanged without a look at the
others.
-/

namespace Balancer

/-! ### Names -/

/-- A name and what may stand in its place: itself, or a text without markers. -/
def Relabels (old new : String) : Prop := new = old ∨ unmarked new

theorem Relabels.returns {old new : String} (h : Relabels old new)
    {lookup : String → Except NormalizeError Value} (hold : Returns (interpolate lookup old)) :
    Returns (interpolate lookup new) := by
  obtain rfl | hplain := h
  · exact hold
  · exact ⟨new, interpolate_of_unmarked hplain lookup⟩

/-- **Things with a name**, which is one of their texts. -/
class Labelled (α : Type) [Strings α] [Texts α] where
  label : α → String
  relabel : α → String → α
  /-- The name is one of the texts. -/
  agree_label {R : String → String → Prop} {a b : α} : Agree R a b → R (label a) (label b)
  /-- The other texts are substituted in the same way under any name. -/
  returns_relabel {f : String → Except NormalizeError String} {a : α} {new : String} :
    Returns (Strings.traverse f a) → Returns (f new) → Returns (Strings.traverse f (relabel a new))

export Labelled (label relabel)

instance : Labelled Acl where
  label := Acl.name
  relabel acl name := { acl with name }
  agree_label h := And.left h
  returns_relabel {f} {acl} {new} h hnew := by
    change Returns (Acl.traverse f _) at h ⊢
    simp only [Acl.traverse, returns_bind_iff, returns_pure, and_true, exists_and_right] at h ⊢
    exact ⟨hnew, h.2⟩

instance : Labelled Bind where
  label := Bind.address
  relabel bind address := { bind with address }
  agree_label h := And.left h
  returns_relabel {f} {bind} {new} h hnew := by
    change Returns (Bind.traverse f _) at h ⊢
    simp only [Bind.traverse, returns_bind_iff, returns_pure, and_true, exists_and_right] at h ⊢
    exact ⟨hnew, h.2⟩

instance : Labelled Server where
  label := Server.name
  relabel server name := { server with name }
  agree_label h := And.left h
  returns_relabel {f} {server} {new} h hnew := by
    change Returns (Server.traverse f _) at h ⊢
    simp only [Server.traverse, returns_bind_iff, returns_pure, and_true, exists_and_right] at h ⊢
    exact ⟨hnew, h.2⟩

instance : Labelled Peers where
  label := Peers.name
  relabel group name := { group with name }
  agree_label h := And.left h
  returns_relabel {f} {group} {new} h hnew := by
    change Returns (Peers.traverse f _) at h ⊢
    simp only [Peers.traverse, returns_bind_iff, returns_pure, and_true, exists_and_right] at h ⊢
    exact ⟨hnew, h.2⟩

instance : Labelled Resolvers where
  label := Resolvers.name
  relabel group name := { group with name }
  agree_label h := And.left h
  returns_relabel {f} {group} {new} h hnew := by
    change Returns (Resolvers.traverse f _) at h ⊢
    simp only [Resolvers.traverse, returns_bind_iff, returns_pure, and_true,
      exists_and_right] at h ⊢
    exact ⟨hnew, h.2⟩

instance : Labelled Mailers where
  label := Mailers.name
  relabel group name := { group with name }
  agree_label h := And.left h
  returns_relabel {f} {group} {new} h hnew := by
    change Returns (Mailers.traverse f _) at h ⊢
    simp only [Mailers.traverse, returns_bind_iff, returns_pure, and_true, exists_and_right] at h ⊢
    exact ⟨hnew, h.2⟩

/-! ### Under other names -/

section Relabelled

variable {α : Type} [Strings α]

/-- **The same thing under another name.** -/
def Relabelled [Texts α] [Labelled α] (a b : α) : Prop :=
  ∃ new, Relabels (label a) new ∧ b = relabel a new

/-- The texts of `b` can be substituted wherever those of `a` can. -/
def Follows (a b : α) : Prop :=
  ∀ lookup : String → Except NormalizeError Value,
    Returns (Strings.traverse (interpolate lookup) a) →
      Returns (Strings.traverse (interpolate lookup) b)

theorem Relabelled.follows [Texts α] [LawfulStrings α] [Labelled α] {a b : α}
    (h : Relabelled a b) : Follows a b := by
  rintro lookup ⟨a', ha⟩
  obtain ⟨new, hnew, rfl⟩ := h
  exact Labelled.returns_relabel ⟨a', ha⟩
    (hnew.returns ⟨label a', Labelled.agree_label ((ends _ a).of_ok ha)⟩)

theorem Follows.list {R : α → α → Prop} (hR : ∀ {a b}, R a b → Follows a b) {as bs : List α}
    (h : List.Forall₂ R as bs) : Follows as bs :=
  fun lookup has => returns_mapM_of_forall₂ h has fun _ _ hab => hR hab lookup

end Relabelled

/-- A body whose conditions have other names. -/
structure ProxyBody.Relabelled (body body' : ProxyBody) : Prop where
  acls : List.Forall₂ Balancer.Relabelled body.acls body'.acls
  rest : body' = { body with acls := body'.acls }

/-- An accepting side whose addresses are others. -/
structure Intake.Relabelled (intake intake' : Intake) : Prop where
  binds : List.Forall₂ Balancer.Relabelled intake.binds intake'.binds
  rest : intake' = { intake with binds := intake'.binds }

/-- A loop whose servers have other names. -/
structure ServerLoop.Relabelled (loop loop' : ServerLoop) : Prop where
  body : List.Forall₂ Balancer.Relabelled loop.body loop'.body
  rest : loop' = { loop with body := loop'.body }

/-- A pool whose servers have other names. -/
structure Pool.Relabelled (pool pool' : Pool) : Prop where
  servers : List.Forall₂ Balancer.Relabelled pool.servers pool'.servers
  loops : List.Forall₂ ServerLoop.Relabelled pool.loops pool'.loops
  rest : pool' = { pool with servers := pool'.servers, loops := pool'.loops }

/-- The inherited settings with other names of conditions. -/
structure Defaults.Relabelled (defaults defaults' : Defaults) : Prop where
  body : defaults.body.Relabelled defaults'.body
  rest : defaults' = { defaults with body := defaults'.body }

/-- A frontend with other names. -/
structure Frontend.Relabelled (frontend frontend' : Frontend) : Prop where
  name : Relabels frontend.name frontend'.name
  body : frontend.body.Relabelled frontend'.body
  intake : frontend.intake.Relabelled frontend'.intake

/-- A backend with other names. -/
structure Backend.Relabelled (backend backend' : Backend) : Prop where
  name : Relabels backend.name backend'.name
  body : backend.body.Relabelled backend'.body
  pool : backend.pool.Relabelled backend'.pool

/-- A `listen` section with other names. -/
structure Listen.Relabelled (listen listen' : Listen) : Prop where
  name : Relabels listen.name listen'.name
  body : listen.body.Relabelled listen'.body
  intake : listen.intake.Relabelled listen'.intake
  pool : listen.pool.Relabelled listen'.pool

/-- **A configuration with other names**, each of them without markers. -/
structure Configuration.Relabelled (config config' : Configuration) : Prop where
  defaults : List.Forall₂ Defaults.Relabelled config.defaults.toList config'.defaults.toList
  frontends : List.Forall₂ Frontend.Relabelled config.frontends config'.frontends
  backends : List.Forall₂ Backend.Relabelled config.backends config'.backends
  listens : List.Forall₂ Listen.Relabelled config.listens config'.listens
  peers : List.Forall₂ Balancer.Relabelled config.peers config'.peers
  resolvers : List.Forall₂ Balancer.Relabelled config.resolvers config'.resolvers
  mailers : List.Forall₂ Balancer.Relabelled config.mailers config'.mailers
  rest : config' = { config with
    defaults := config'.defaults, frontends := config'.frontends, backends := config'.backends,
    listens := config'.listens, peers := config'.peers, resolvers := config'.resolvers,
    mailers := config'.mailers }

/-! ### Substitution under other names -/

theorem ProxyBody.Relabelled.follows {body body' : ProxyBody} (h : body.Relabelled body') :
    Follows body body' := by
  intro lookup hbody
  have hacls := Follows.list Balancer.Relabelled.follows h.acls lookup
  rw [h.rest]
  change Returns (ProxyBody.traverse _ _) at hbody ⊢
  simp only [ProxyBody.traverse, returns_bind_iff, returns_pure, and_true,
    exists_and_right] at hbody ⊢
  obtain ⟨h₁, h₂, h₃, h₄, h₅, h₆, h₇, holds, hrest⟩ := hbody
  exact ⟨h₁, h₂, h₃, h₄, h₅, h₆, h₇, hacls holds, hrest⟩

theorem Intake.Relabelled.follows {intake intake' : Intake} (h : intake.Relabelled intake') :
    Follows intake intake' := by
  intro lookup hintake
  have hbinds := Follows.list Balancer.Relabelled.follows h.binds lookup
  rw [h.rest]
  change Returns (Intake.traverse _ _) at hintake ⊢
  simp only [Intake.traverse, returns_bind_iff, returns_pure, and_true,
    exists_and_right] at hintake ⊢
  exact ⟨hbinds hintake.1, hintake.2⟩

theorem Defaults.Relabelled.follows {defaults defaults' : Defaults}
    (h : defaults.Relabelled defaults') : Follows defaults defaults' := by
  intro lookup hdefaults
  have hbody := h.body.follows lookup
  rw [h.rest]
  change Returns (Defaults.traverse _ _) at hdefaults ⊢
  simp only [Defaults.traverse, returns_bind_iff, returns_pure, and_true,
    exists_and_right] at hdefaults ⊢
  exact ⟨hdefaults.1, hbody hdefaults.2.1, hdefaults.2.2⟩

theorem Frontend.Relabelled.follows {frontend frontend' : Frontend}
    (h : frontend.Relabelled frontend') : Follows frontend frontend' := by
  intro lookup hfrontend
  change Returns (Frontend.traverse _ _) at hfrontend ⊢
  simp only [Frontend.traverse, returns_bind_iff, returns_pure, and_true,
    exists_and_right] at hfrontend ⊢
  exact ⟨h.name.returns hfrontend.1, h.body.follows lookup hfrontend.2.1,
    h.intake.follows lookup hfrontend.2.2⟩

/-! ### Normal forms under other names -/

section Normal

variable {scope : OrderedMap Value} {templates : OrderedMap Template}

theorem Server.returns_normalize_of_relabelled
    {lookup : String → Except NormalizeError Value} {server server' : Server}
    (h : Relabelled server server') (hserver : Returns (server.normalize scope templates lookup)) :
    Returns (server'.normalize scope templates lookup) := by
  obtain ⟨result, hresult, hexpand⟩ := returns_bind_iff.1 hserver
  obtain ⟨result', hresult'⟩ := h.follows lookup ⟨result, hresult⟩
  refine returns_bind_iff.2 ⟨result', hresult', ?_⟩
  -- which templates are spread does not depend on the name
  have hspreads : result'.spreads = result.spreads := by
    obtain ⟨new, -, rfl⟩ := h
    rw [(Server.traverse_eq_ok_iff.1 hresult').2.2.1, (Server.traverse_eq_ok_iff.1 hresult).2.2.1]
    rfl
  rw [Server.returns_expand_iff] at hexpand ⊢
  rwa [hspreads]

theorem ServerLoop.Relabelled.returns_normalize {loop loop' : ServerLoop}
    (h : loop.Relabelled loop') (hloop : Returns (loop.normalize scope templates)) :
    Returns (loop'.normalize scope templates) := by
  obtain ⟨values, hvalues, hloop⟩ := returns_bind_iff.1 hloop
  obtain ⟨rounds, hrounds, -⟩ := returns_bind_iff.1 hloop
  have hreturns : Returns (values.mapM fun value => loop'.body.mapM
      (Server.normalize scope templates (lookupInLoop scope loop.binder value))) := by
    refine returns_mapM_iff.2 fun value hvalue => ?_
    exact returns_mapM_of_forall₂ h.body (returns_mapM_iff.1 ⟨rounds, hrounds⟩ value hvalue)
      fun _ _ => Server.returns_normalize_of_relabelled
  obtain ⟨rounds', hrounds'⟩ := hreturns
  rw [h.rest]
  exact returns_bind_iff.2 ⟨values, hvalues, returns_bind_iff.2 ⟨rounds', hrounds', returns_pure _⟩⟩

/-- Whether a pool has a normal form: its servers, its loops and its other texts. -/
theorem Pool.returns_normalize_iff {pool : Pool} :
    Returns (pool.normalize scope templates) ↔
      Returns (Strings.traverse (interpolate scope.lookupVariable) pool.bare) ∧
        Returns (pool.servers.mapM
          (Server.normalize scope templates scope.lookupVariable)) ∧
        Returns (pool.loops.mapM (ServerLoop.normalize scope templates)) := by
  constructor
  · rintro ⟨result, h⟩
    obtain ⟨hbare, -, direct, generated, hdirect, hgenerated, -⟩ := Pool.normalize_eq_ok_iff.1 h
    exact ⟨⟨_, hbare⟩, ⟨_, hdirect⟩, ⟨_, hgenerated⟩⟩
  · rintro ⟨⟨bare, hbare⟩, ⟨direct, hdirect⟩, ⟨generated, hgenerated⟩⟩
    refine ⟨{ bare with servers := direct ++ generated.flatten, loops := [] },
      Pool.normalize_eq_ok_iff.2 ⟨?_, rfl, direct, generated, hdirect, hgenerated, rfl⟩⟩
    -- the pool without servers has none after substitution either
    obtain ⟨hsame, -, -⟩ := Pool.traverse_eq_ok_iff.1 hbare
    exact hsame

theorem Pool.Relabelled.returns_normalize {pool pool' : Pool} (h : pool.Relabelled pool')
    (hpool : Returns (pool.normalize scope templates)) :
    Returns (pool'.normalize scope templates) := by
  rw [Pool.returns_normalize_iff] at hpool ⊢
  obtain ⟨hbare, hservers, hloops⟩ := hpool
  refine ⟨?_, returns_mapM_of_forall₂ h.servers hservers fun _ _ =>
      Server.returns_normalize_of_relabelled,
    returns_mapM_of_forall₂ h.loops hloops fun _ _ => ServerLoop.Relabelled.returns_normalize⟩
  have hsame : pool'.bare = pool.bare := by
    rw [h.rest]
    rfl
  rwa [hsame]

theorem Backend.Relabelled.returns_normalize {backend backend' : Backend}
    (h : backend.Relabelled backend') (hbackend : Returns (backend.normalize scope templates)) :
    Returns (backend'.normalize scope templates) := by
  obtain ⟨result, hresult⟩ := hbackend
  obtain ⟨hname, hbody, hpool⟩ := Backend.normalize_eq_ok_iff.1 hresult
  obtain ⟨name', hname'⟩ := h.name.returns ⟨_, hname⟩
  obtain ⟨body', hbody'⟩ := h.body.follows scope.lookupVariable ⟨_, hbody⟩
  obtain ⟨pool', hpool'⟩ := h.pool.returns_normalize ⟨_, hpool⟩
  exact ⟨⟨name', body', pool'⟩, Backend.normalize_eq_ok_iff.2 ⟨hname', hbody', hpool'⟩⟩

theorem Listen.Relabelled.returns_normalize {listen listen' : Listen}
    (h : listen.Relabelled listen') (hlisten : Returns (listen.normalize scope templates)) :
    Returns (listen'.normalize scope templates) := by
  obtain ⟨result, hresult⟩ := hlisten
  obtain ⟨hname, hbody, hintake, hpool⟩ := Listen.normalize_eq_ok_iff.1 hresult
  obtain ⟨name', hname'⟩ := h.name.returns ⟨_, hname⟩
  obtain ⟨body', hbody'⟩ := h.body.follows scope.lookupVariable ⟨_, hbody⟩
  obtain ⟨intake', hintake'⟩ := h.intake.follows scope.lookupVariable ⟨_, hintake⟩
  obtain ⟨pool', hpool'⟩ := h.pool.returns_normalize ⟨_, hpool⟩
  exact ⟨⟨name', body', intake', pool'⟩,
    Listen.normalize_eq_ok_iff.2 ⟨hname', hbody', hintake', hpool'⟩⟩

end Normal

/-- **A configuration that has a normal form has one under any names without markers.** -/
theorem Configuration.Relabelled.returns_normalize {config config' : Configuration}
    (h : config.Relabelled config') (hconfig : Returns config.normalize) :
    Returns config'.normalize := by
  obtain ⟨result, hresult⟩ := hconfig
  obtain ⟨scope, hscope, hnormal⟩ := Configuration.normalize_eq_ok_iff.1 hresult
  have hrest := h.rest
  have hdefaults : Follows config.defaults config'.defaults := by
    have hlist := h.defaults
    revert hlist
    cases config.defaults <;> cases config'.defaults <;> intro hlist <;> cases hlist
    · exact fun _ h => h
    · rename_i hfirst _
      intro lookup hold
      obtain ⟨x, hx, -⟩ := returns_bind_iff.1 hold
      obtain ⟨y, hy⟩ := hfirst.follows lookup ⟨x, hx⟩
      exact returns_bind_iff.2 ⟨y, hy, returns_pure _⟩
  obtain ⟨defaults, hdefaults⟩ := hdefaults scope.lookupVariable ⟨_, hnormal.defaults⟩
  obtain ⟨frontends, hfrontends⟩ := Follows.list Frontend.Relabelled.follows h.frontends
    scope.lookupVariable ⟨_, hnormal.frontends⟩
  obtain ⟨backends, hbackends⟩ := returns_mapM_of_forall₂ h.backends ⟨_, hnormal.backends⟩
    fun _ _ => Backend.Relabelled.returns_normalize
  obtain ⟨listens, hlistens⟩ := returns_mapM_of_forall₂ h.listens ⟨_, hnormal.listens⟩
    fun _ _ => Listen.Relabelled.returns_normalize
  obtain ⟨peers, hpeers⟩ := Follows.list Balancer.Relabelled.follows h.peers
    scope.lookupVariable ⟨_, hnormal.peers⟩
  obtain ⟨resolvers, hresolvers⟩ := Follows.list Balancer.Relabelled.follows h.resolvers
    scope.lookupVariable ⟨_, hnormal.resolvers⟩
  obtain ⟨mailers, hmailers⟩ := Follows.list Balancer.Relabelled.follows h.mailers
    scope.lookupVariable ⟨_, hnormal.mailers⟩
  refine ⟨{ result with defaults, frontends, backends, listens, peers, resolvers, mailers },
    Configuration.normalize_eq_ok_iff.2 ⟨scope, ?_, ?_⟩⟩
  · rw [hrest]
    exact hscope
  · have htemplates : config'.templates = config.templates := by rw [hrest]
    rw [htemplates]
    exact {
      global := by
        rw [hrest]
        exact hnormal.global
      defaults := hdefaults
      frontends := hfrontends
      backends := hbackends
      listens := hlistens
      scripts := by
        rw [hrest]
        exact hnormal.scripts
      peers := hpeers
      resolvers := hresolvers
      mailers := hmailers
      definitions := hnormal.definitions
      templates := hnormal.templates
      imports := by
        rw [hrest]
        exact hnormal.imports }

end Balancer
