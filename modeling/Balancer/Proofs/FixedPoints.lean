import Balancer.Proofs.Residue
import Balancer.Proofs.Resolvable

/-!
# Passes over normal configurations

A configuration in normal form has nothing for the passes to do. There are no variables to resolve,
no loops to unroll and no templates to take over, and where no text holds the marker `${`, there is
nothing to substitute either. So each pass returns the configuration as it is, and any sequence of
passes does.

Which texts have to be free of markers is decided by the walk over the configuration itself:
`Strings.reached` runs `Strings.traverse` with an action that only takes notes. What another action
does depends on the texts that are noted and on nothing else, so an action that leaves each of them
alone leaves the whole alone (`traverse_eq_self`). A text that is not reached, such as the argument
of a balancing algorithm or the source of a script, may hold markers; no pass looks at it.
-/

namespace Balancer

variable {α β ε : Type}

/-! ### Taking notes -/

/-- **A value, with the texts that were noted on the way to it.** -/
@[ext]
structure Noted (α : Type) where
  value : α
  texts : List String

namespace Noted

-- the unifier has to recognise a sequence of two computations as one, and not to look inside
/-- One computation after another, with the notes of both. -/
@[irreducible]
protected def bind (x : Noted α) (f : α → Noted β) : Noted β :=
  ⟨(f x.value).value, x.texts ++ (f x.value).texts⟩

instance : Monad Noted where
  pure a := ⟨a, []⟩
  bind := Noted.bind

@[simp]
theorem value_pure (a : α) : (pure a : Noted α).value = a := rfl

@[simp]
theorem texts_pure (a : α) : (pure a : Noted α).texts = [] := rfl

@[simp]
theorem value_bind (x : Noted α) (f : α → Noted β) : (x >>= f).value = (f x.value).value := by
  change (Noted.bind x f).value = _
  rw [Noted.bind]

@[simp]
theorem texts_bind (x : Noted α) (f : α → Noted β) :
    (x >>= f).texts = x.texts ++ (f x.value).texts := by
  change (Noted.bind x f).texts = _
  rw [Noted.bind]

instance : LawfulMonad Noted :=
  LawfulMonad.mk' Noted
    (fun x => Noted.ext (value_bind x pure) ((texts_bind x pure).trans (List.append_nil _)))
    (fun a f => Noted.ext (value_bind _ f) (texts_bind _ f))
    (fun x f g => Noted.ext (by simp) (by simp))

end Noted

/-- Takes a note of a text and leaves it as it is. -/
def noteText (s : String) : Noted String := ⟨s, [s]⟩

/-- **The texts that an action is run on**, in order. -/
def Strings.reached [Strings α] (a : α) : List String := (Strings.traverse noteText a).texts

/-! ### What an action depends on -/

/-- **Two runs over one part**, one that takes notes and one of the action `f`: the first leaves the
part as it is, and so does the second if `f` leaves every text alone that the first takes a note
of. -/
structure Visits (f : String → Except ε String) (a : α) (notes : Noted α) (run : Except ε α) :
    Prop where
  value : notes.value = a
  run : (∀ s ∈ notes.texts, f s = .ok s) → run = .ok a

namespace Visits

variable {f : String → Except ε String} {a : α} {b : β}

theorem pure : Visits f a (Pure.pure a) (Pure.pure a) := ⟨rfl, fun _ => rfl⟩

/-- The runs over two parts, one after the other. -/
theorem bind {notes : Noted α} {run : Except ε α} {next : α → Noted β} {onward : α → Except ε β}
    (h : Visits f a notes run) (hnext : Visits f b (next a) (onward a)) :
    Visits f b (notes >>= next) (run >>= onward) := by
  have hvalue := h.value
  refine ⟨?_, fun hfix => ?_⟩
  · rw [Noted.value_bind, hvalue]
    exact hnext.value
  · rw [Noted.texts_bind, List.forall_mem_append, hvalue] at hfix
    rw [h.run hfix.1, ok_bind]
    exact hnext.run hfix.2

theorem mapM {notes : α → Noted α} {run : α → Except ε α}
    (h : ∀ a, Visits f a (notes a) (run a)) (as : List α) :
    Visits f as (as.mapM notes) (as.mapM run) := by
  induction as with
  | nil => exact pure
  | cons a as ih =>
    rw [List.mapM_cons, List.mapM_cons]
    exact (h a).bind (ih.bind pure)

end Visits

/-- **Types of parts in which all actions are run on the same texts.** For a record this is a matter
of its fields: an action on the record is a sequence of actions on them. -/
class Visited (α : Type) [Strings α] : Prop where
  visits {ε : Type} (f : String → Except ε String) (a : α) :
    Visits f a (Strings.traverse noteText a) (Strings.traverse f a) := by
    intro ε f a
    repeat refine .bind (Visited.visits f _) ?_
    exact .pure

/-- **An action that leaves every text alone that is reached leaves the part alone.** -/
theorem traverse_eq_self [Strings α] [Visited α] {f : String → Except ε String} {a : α}
    (h : ∀ s ∈ Strings.reached a, f s = .ok s) : Strings.traverse f a = .ok a :=
  (Visited.visits f a).run h

instance : Visited String where
  visits _ s := ⟨rfl, fun h => h s (List.mem_singleton_self s)⟩

instance [Strings α] [Visited α] : Visited (Option α) where
  visits f
    | none => .pure
    | some a => (Visited.visits f a).bind .pure

instance [Strings α] [Visited α] : Visited (List α) where
  visits f as := .mapM (Visited.visits f) as

instance [Strings α] [Visited α] : Visited (OrderedMap α) where
  visits f m := by
    refine .bind (.mapM (Visited.visits f) m.values) ?_
    rw [m.withValues_values]
    exact .pure

instance : Visited Acl where

instance : Visited Rule where

instance : Visited RuleSet where

instance : Visited Bind where

instance : Visited UseBackend where

instance : Visited UseServer where

instance : Visited Redirect where

instance : Visited StickTable where

instance : Visited StickRule where

instance : Visited Compression where

instance : Visited ErrorPage where

instance : Visited Stats where

instance : Visited LogTarget where

instance : Visited StatsSocket where

instance : Visited ServerOptions where

instance : Visited Server where

instance : Visited ServerTemplate where

instance : Visited HealthCheck where

instance : Visited Cookie where

instance : Visited Timeouts where

instance : Visited ProxyOptions where

instance : Visited ProxyBody where

instance : Visited Intake where

instance : Visited Pool where

instance : Visited Global where

instance : Visited Defaults where

instance : Visited Frontend where

instance : Visited Backend where

instance : Visited Listen where

instance : Visited Script where

instance : Visited Endpoint where

instance : Visited Peers where

instance : Visited Resolvers where

instance : Visited Mailers where

instance : Visited Configuration where

/-! ### The passes -/

/-- **The passes over a configuration**, the one that runs all of them included. -/
inductive Pass where
  | resolve | unroll | expandTemplates | normalize
deriving DecidableEq, Repr

/-- What a pass makes of a configuration. -/
def Pass.run : Pass → Configuration → Except NormalizeError Configuration
  | resolve, config => config.resolve
  | unroll, config => config.unroll
  | expandTemplates, config => config.expandTemplates
  | normalize, config => config.normalize

/-! ### What is done already -/

section Done

variable {scope : OrderedMap Value} {templates : OrderedMap Template}

theorem Pool.Done.unroll {pool : Pool} (h : pool.Done) : pool.unroll scope = .ok pool := by
  obtain ⟨hloops, -⟩ := h
  cases pool
  cases hloops
  simp only [Pool.unroll, List.mapM_nil, pure_bind, List.flatten_nil, List.append_nil]
  rfl

theorem Server.expand_of_spreads_eq_nil {server : Server} (h : server.spreads = []) :
    server.expand scope templates = .ok server := by
  obtain ⟨name, address, port, options, spreads⟩ := server
  cases h
  rfl

theorem Pool.Done.expandTemplates {pool : Pool} (h : pool.Done) :
    pool.expandTemplates scope templates = .ok pool := by
  have hservers : pool.servers.mapM (Server.expand scope templates) = .ok pool.servers := by
    refine mapM_eq_ok.2 (List.forall₂_same.2 fun server hserver => ?_)
    exact Server.expand_of_spreads_eq_nil (h.spreads server hserver)
  exact bind_eq_ok.2 ⟨pool.servers, hservers, rfl⟩

end Done

namespace Configuration

variable {config : Configuration}

/-- A pass over the pools that leaves each of them alone leaves the configuration alone. -/
theorem mapPoolsM_eq_self {f : Pool → Except NormalizeError Pool}
    (hbackends : ∀ backend ∈ config.backends, f backend.pool = .ok backend.pool)
    (hlistens : ∀ listen ∈ config.listens, f listen.pool = .ok listen.pool) :
    config.mapPoolsM f = .ok config := by
  refine mapPoolsM_eq_ok_iff.2 ⟨mapM_eq_ok.2 ?_, mapM_eq_ok.2 ?_, rfl⟩
  · refine List.forall₂_same.2 fun backend hbackend => ?_
    exact bind_eq_ok.2 ⟨backend.pool, hbackends backend hbackend, rfl⟩
  · refine List.forall₂_same.2 fun listen hlisten => ?_
    exact bind_eq_ok.2 ⟨listen.pool, hlistens listen hlisten, rfl⟩

theorem unroll_eq_self (h : config.isNormal = true) : config.unroll = .ok config := by
  obtain ⟨-, -, hbackends, hlistens⟩ := isNormal_iff.1 h
  exact mapPoolsM_eq_self (fun backend hmem => (hbackends backend hmem).unroll)
    fun listen hmem => (hlistens listen hmem).unroll

theorem expandTemplates_eq_self (h : config.isNormal = true) :
    config.expandTemplates = .ok config := by
  obtain ⟨-, -, hbackends, hlistens⟩ := isNormal_iff.1 h
  exact mapPoolsM_eq_self (fun backend hmem => (hbackends backend hmem).expandTemplates)
    fun listen hmem => (hlistens listen hmem).expandTemplates

/-- **Without markers there is nothing to resolve and nothing to substitute**: neither in the values
of the variables nor in the texts that are reached. -/
theorem resolve_of_unmarked (hreached : ∀ s ∈ Strings.reached config, unmarked s = true)
    (hvalues : ∀ value ∈ config.definitions.values, value.unmarked = true) :
    config.resolve = .ok config := by
  have htraverse :
      Strings.traverse (interpolate config.definitions.lookupVariable) config = Except.ok config :=
    traverse_eq_self fun s hs => interpolate_of_unmarked (hreached s hs) _
  rw [resolve, Resolver.resolve_of_unmarked hvalues, ok_bind, htraverse, ok_bind]
  rfl

theorem resolve_eq_self (h : config.isNormal = true)
    (hreached : ∀ s ∈ Strings.reached config, unmarked s = true) :
    config.resolve = .ok config := by
  obtain ⟨hdefinitions, -⟩ := isNormal_iff.1 h
  refine resolve_of_unmarked hreached fun value hvalue => ?_
  rw [hdefinitions] at hvalue
  exact nomatch hvalue

theorem normalize_eq_self (h : config.isNormal = true)
    (hreached : ∀ s ∈ Strings.reached config, unmarked s = true) :
    config.normalize = .ok config := by
  obtain ⟨hdefinitions, htemplates, -⟩ := isNormal_iff.1 h
  have hlast : { config with definitions := {}, templates := {} } = config := by
    obtain ⟨⟩ := config
    cases hdefinitions
    cases htemplates
    rfl
  rw [normalize, resolve_eq_self h hreached, ok_bind, unroll_eq_self h, ok_bind,
    expandTemplates_eq_self h, ok_bind, hlast]
  rfl

end Configuration

/-- **One pass** over a normal configuration without markers. -/
theorem Pass.run_eq_self {config : Configuration} (h : config.isNormal = true)
    (hreached : ∀ s ∈ Strings.reached config, unmarked s = true) (pass : Pass) :
    pass.run config = .ok config := by
  cases pass with
  | resolve => exact Configuration.resolve_eq_self h hreached
  | unroll => exact Configuration.unroll_eq_self h
  | expandTemplates => exact Configuration.expandTemplates_eq_self h
  | normalize => exact Configuration.normalize_eq_self h hreached

/-- **Normal forms are fixed points of every sequence of passes**, as long as no marker is left in a
text that substitution reaches. -/
theorem Configuration.normalForm_fixed (config result : Configuration)
    (h : config.normalize = .ok result)
    (hreached : ∀ s ∈ Strings.reached result, unmarked s = true) (passes : List Pass) :
    passes.foldlM (fun config pass => pass.run config) result = .ok result := by
  have hnormal := isNormal_of_normalize h
  induction passes with
  | nil => rfl
  | cons pass passes ih =>
    rw [List.foldlM_cons, Pass.run_eq_self hnormal hreached pass]
    exact ih

/-- A pool with a server for each value of a loop variable, and with an algorithm whose argument
holds a marker that no pass reaches. -/
def markedAlgorithm : Configuration where
  definitions := .ofList [("net", .text "10.0.0")]
  templates := .ofList [("small", ⟨"small", .ofList [("cookie", .text "c-$\x7bnet\x7d")]⟩)]
  backends :=
    [{ name := "app"
       pool :=
        { balance := some (.other "url_param $\x7bnet\x7d")
          loops :=
            [{ binder := "i"
               iterable := .list [.text "7", .text "8"]
               body :=
                [{ name := "web$\x7bi\x7d"
                   address := "$\x7bnet\x7d.$\x7bi\x7d"
                   spreads := ["small"] }] }] } }]

/-- Its normal form. -/
def markedAlgorithmNormal : Configuration where
  backends :=
    [{ name := "app"
       pool :=
        { balance := some (.other "url_param $\x7bnet\x7d")
          servers :=
            [{ name := "web7", address := "10.0.0.7", options := { cookie := "c-10.0.0" } },
              { name := "web8", address := "10.0.0.8", options := { cookie := "c-10.0.0" } }] } }]

theorem Configuration.normalForm_fixed_markedAlgorithm :
    markedAlgorithm.normalize = .ok markedAlgorithmNormal ∧
      (∀ s ∈ Strings.reached markedAlgorithmNormal, unmarked s = true) ∧
      [Pass.expandTemplates, .resolve, .normalize, .unroll, .resolve].foldlM
          (fun config pass => pass.run config) markedAlgorithmNormal =
        .ok markedAlgorithmNormal := by
  have hnormalize : markedAlgorithm.normalize = .ok markedAlgorithmNormal := by cbv
  have hreached : ∀ s ∈ Strings.reached markedAlgorithmNormal, unmarked s = true := by
    decide +kernel
  exact ⟨hnormalize, hreached, normalForm_fixed _ _ hnormalize hreached _⟩

end Balancer
