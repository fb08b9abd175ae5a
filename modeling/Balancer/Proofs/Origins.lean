import Balancer.Proofs.Assembly
import Balancer.Proofs.Normal
import Balancer.Proofs.Parameters
import Balancer.Proofs.Sections

/-!
# Where the servers of a compiled document come from

Each server of a compiled backend or `listen` section comes from one server object of its section:
an object that stands in the section itself, or one in the body of a loop, and then from one round
of that loop. These are the *origins* of the servers, and in this order: first the objects in the
section, then the loops one after the other, round by round and object by object.

From its origin a server is made by reading the object, substituting its texts and taking its
templates over (`Becomes`). The origin also says under which variables the texts are substituted:
in a round of a loop, the loop variable has the value of that round (`Origin.lookup`).

A value that a server takes over comes from a pair too, in the first of its templates that has one
with the key (`firstValue?_of_assembled`).
-/

namespace Balancer

/-! ### Origins -/

/-- **A round of a loop**: its number, from zero, and the value of the loop variable. -/
structure Round where
  loop : LoopNode
  index : Nat
  value : Value

/-- **The origin of a server**: the object that describes it and, inside of a loop, the round. -/
structure Origin where
  object : ObjectNode
  round : Option Round := none

/-- What a name stands for at an origin. -/
def Origin.lookup (scope : OrderedMap Value) (origin : Origin) :
    String → Except NormalizeError Value :=
  match origin.round with
  | none => scope.lookupVariable
  | some round => lookupInLoop scope round.loop.binder round.value

/-- The origins in a loop whose variable takes the values. -/
def LoopNode.origins (loop : LoopNode) (values : List Value) : List Origin :=
  values.zipIdx.flatMap fun (value, index) =>
    loop.body.map fun object => ⟨object, some ⟨loop, index, value⟩⟩

section Origins

variable (environment : Environment) (scope : OrderedMap Value) (templates : OrderedMap Template)

/-- **The values that a loop runs through.** -/
def LoopNode.Runs (loop : LoopNode) (values : List Value) : Prop :=
  ∃ iterable, loop.iterable.evaluate environment loop.position = .ok iterable ∧
    ServerLoop.values scope ⟨loop.binder, iterable, []⟩ = .ok values

/-- **The origins of the servers** that the children of a section stand for. -/
def Origins (children : List Child) (origins : List Origin) : Prop :=
  ∃ runs, List.Forall₂ (LoopNode.Runs environment scope) (loopsOf children) runs ∧
    origins = (objectsOf "server" children).map (fun object => ⟨object, none⟩) ++
      (List.zipWith LoopNode.origins (loopsOf children) runs).flatten

/-- **What an origin becomes.** -/
def Becomes (origin : Origin) (server : Server) : Prop :=
  ∃ read, readServer environment origin.object = .ok read ∧
    read.normalize scope templates (origin.lookup scope) = .ok server

variable {environment scope templates}

/-- In a round of a loop, the loop variable has the value of that number. -/
theorem Origins.round {children : List Child} {origins : List Origin}
    (h : Origins environment scope children origins) {origin : Origin} (horigin : origin ∈ origins)
    {round : Round} (hround : origin.round = some round) :
    ∃ values, round.loop.Runs environment scope values ∧
      values[round.index]? = some round.value := by
  obtain ⟨runs, hruns, rfl⟩ := h
  rcases List.mem_append.1 horigin with hdirect | hloops
  · obtain ⟨object, -, rfl⟩ := List.mem_map.1 hdirect
    exact nomatch hround
  · clear horigin
    generalize loopsOf children = loops at hruns hloops
    induction hruns with
    | nil => exact nomatch hloops
    | @cons loop values _ _ hvalues _ ih =>
      rw [List.zipWith_cons_cons, List.flatten_cons, List.mem_append] at hloops
      rcases hloops with hloop | hloops
      · obtain ⟨⟨value, index⟩, hindex, horigin⟩ := List.mem_flatMap.1 hloop
        obtain ⟨object, -, rfl⟩ := List.mem_map.1 horigin
        cases hround
        exact ⟨values, hvalues, List.mem_zipIdx_iff_getElem?.1 hindex⟩
      · exact ih hloops

/-- The servers of a loop come from its origins. -/
theorem LoopNode.becomes_of_normalize {loop : LoopNode} {read : ServerLoop} {servers : List Server}
    (hread : readLoop environment loop = .ok read)
    (hnormal : read.normalize scope templates = .ok servers) :
    ∃ values, loop.Runs environment scope values ∧
      List.Forall₂ (Becomes environment scope templates) (loop.origins values) servers := by
  obtain ⟨iterable, hiterable, hread⟩ := bind_eq_ok.1 hread
  obtain ⟨body, hbody, hread⟩ := bind_eq_ok.1 hread
  cases hread
  obtain ⟨values, hvalues, hnormal⟩ := bind_eq_ok.1 hnormal
  obtain ⟨rounds, hrounds, hnormal⟩ := bind_eq_ok.1 hnormal
  cases hnormal
  refine ⟨values, ⟨iterable, hiterable, hvalues⟩, ?_⟩
  have hobjects := mapM_eq_ok.1 (readServers_eq_ok_iff.1 hbody).2
  rw [mapM_eq_ok, ← List.zipIdx_map_fst 0 values, List.forall₂_map_left_iff] at hrounds
  rw [LoopNode.origins, List.flatMap_def]
  refine List.rel_flatten (List.forall₂_map_left_iff.2 (hrounds.imp ?_))
  rintro ⟨value, index⟩ round hround
  rw [List.forall₂_map_left_iff]
  exact forall₂_comp hobjects (mapM_eq_ok.1 hround)

/-- The loops of a section run one after the other. -/
theorem becomes_of_loops {loops : List LoopNode} {reads : List ServerLoop}
    {generated : List (List Server)} (hreads : loops.mapM (readLoop environment) = .ok reads)
    (hgenerated : reads.mapM (ServerLoop.normalize scope templates) = .ok generated) :
    ∃ runs, List.Forall₂ (LoopNode.Runs environment scope) loops runs ∧
      List.Forall₂ (List.Forall₂ (Becomes environment scope templates))
        (List.zipWith LoopNode.origins loops runs) generated := by
  have hloops := forall₂_comp (mapM_eq_ok.1 hreads) (mapM_eq_ok.1 hgenerated)
  clear hreads hgenerated
  induction hloops with
  | nil => exact ⟨[], .nil, .nil⟩
  | cons hfirst _ ih =>
    obtain ⟨read, hread, hservers⟩ := hfirst
    obtain ⟨values, hvalues, hbecomes⟩ := LoopNode.becomes_of_normalize hread hservers
    obtain ⟨runs, hruns, hrest⟩ := ih
    exact ⟨values :: runs, .cons hvalues hruns, .cons hbecomes hrest⟩

/-- **The servers of a pool come from the origins in its section**, one from each and in order. -/
theorem Pool.becomes_of_normalize {children : List Child} {pool result : Pool}
    (hservers : (objectsOf "server" children).mapM (readServer environment) = .ok pool.servers)
    (hloops : (loopsOf children).mapM (readLoop environment) = .ok pool.loops)
    (hnormal : pool.normalize scope templates = .ok result) :
    ∃ origins, Origins environment scope children origins ∧
      List.Forall₂ (Becomes environment scope templates) origins result.servers := by
  obtain ⟨-, -, direct, generated, hdirect, hgenerated, hresult⟩ :=
    Pool.normalize_eq_ok_iff.1 hnormal
  obtain ⟨runs, hruns, hbecomes⟩ := becomes_of_loops hloops hgenerated
  refine ⟨_, ⟨runs, hruns, rfl⟩, ?_⟩
  rw [hresult]
  refine List.rel_append (List.forall₂_map_left_iff.2 ?_) (List.rel_flatten hbecomes)
  exact forall₂_comp (mapM_eq_ok.1 hservers) (mapM_eq_ok.1 hdirect)

end Origins

/-! ### Values from templates -/

/-- The last pair of a key in the last template of a name. -/
def templatePair? (items : List Item) (key name : String) : Option (Expr × Option Position) :=
  (OrderedMap.lastOf name (templatesOf items)).bind fun (children, _) =>
    OrderedMap.lastOf key (pairsOf children)

/-- The pair of a key in the first of the templates that has one. -/
def firstPair? (items : List Item) (spreads : List String) (key : String) :
    Option (Expr × Option Position) :=
  spreads.findSome? (templatePair? items key)

section Templates

variable {environment : Environment} {items : List Item} {config : Configuration} {key : String}

/-- **The parameters of a template are what its pairs evaluate to**, except the one that says what
it is a template of. -/
theorem Template.get?_of_ofChildren {name : String} {children : List Child}
    {position : Option Position} {template : Template}
    (h : Template.ofChildren environment name children position = .ok template)
    (hkey : key ≠ "kind") :
    (OrderedMap.lastOf key (pairsOf children)).mapM
        (fun (value, position) => value.evaluate environment position) =
      .ok (template.params.get? key) := by
  obtain ⟨entries, hentries, h⟩ := bind_eq_ok.1 h
  obtain ⟨fields, hfields, h⟩ := bind_eq_ok.1 h
  obtain ⟨kind, -, h⟩ := bind_eq_ok.1 h
  have hparams : template.params = .ofList (fields.others ["kind"]) := by
    dsimp only at h
    split at h
    · exact nomatch h
    · cases h
      rfl
  obtain ⟨pairs, hpairs, hfields⟩ := bind_eq_ok.1 hfields
  cases hfields
  rw [hparams, OrderedMap.get?, OrderedMap.entries_ofList (Fields.nodup_others _ _),
    Fields.lookup_others _ _ (by simpa using hkey), OrderedMap.get?_ofList]
  exact OrderedMap.lastOf_of_readNamed (pairs_of_readChildren hentries hpairs) key

theorem templatePair?_of_assembled (h : Assembled environment items config) (hkey : key ≠ "kind")
    (name : String) :
    (templatePair? items key name).mapM
        (fun (value, position) => value.evaluate environment position) =
      .ok ((config.templates.get? name).bind fun template => template.params.get? key) := by
  obtain ⟨entries, hentries, htemplates⟩ := h.templates
  have hlast := OrderedMap.lastOf_of_readNamed hentries name
  rw [htemplates, OrderedMap.get?_ofList, templatePair?]
  cases htemplate : OrderedMap.lastOf name entries with
  | none =>
    rw [htemplate, optionMapM_eq_ok_none_iff] at hlast
    rw [hlast]
    rfl
  | some template =>
    rw [htemplate, optionMapM_eq_ok_some_iff] at hlast
    obtain ⟨⟨children, position⟩, hchildren, hread⟩ := hlast
    rw [hchildren]
    exact Template.get?_of_ofChildren hread hkey

/-- **What the first of several templates gives** is what its pair evaluates to. -/
theorem firstValue?_of_assembled (h : Assembled environment items config) (hkey : key ≠ "kind")
    (spreads : List String) :
    (firstPair? items spreads key).mapM
        (fun (value, position) => value.evaluate environment position) =
      .ok (firstValue? config.templates spreads key) := by
  induction spreads with
  | nil => rfl
  | cons name spreads ih =>
    have hfirst := templatePair?_of_assembled h hkey name
    rw [firstPair?, firstValue?, List.findSome?_cons, List.findSome?_cons]
    cases hvalue : (config.templates.get? name).bind fun template => template.params.get? key with
    | none =>
      rw [hvalue, optionMapM_eq_ok_none_iff] at hfirst
      rw [hfirst]
      exact ih
    | some value =>
      rw [hvalue, optionMapM_eq_ok_some_iff] at hfirst
      obtain ⟨pair, hpair, hread⟩ := hfirst
      rw [hpair]
      exact optionMapM_eq_ok_some_iff.2 ⟨pair, rfl, hread⟩

end Templates

end Balancer
