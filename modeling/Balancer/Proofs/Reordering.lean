import Balancer.Compilation
import Balancer.Proofs.Assembly
import Balancer.Proofs.Normal
import Balancer.Proofs.Resolvable

/-!
# The order of declarations

Variables and templates may be declared anywhere in a document, before what uses them or after it.
When the items of a document are rearranged, and the sections of each kind and the imports stay in
their order, then the two documents compile to the same configuration, or neither compiles
(`Document.compile_reordered`).

Assembling the rearranged document gives the same sections. It gives the variables and the
templates in another order, and the passes after it only look them up by name. The exception is the
resolution of the variables, which follows their order, and may even stop at another error; but
whether it succeeds, and the values it gives then, are matters of the names alone
(`Resolver.resolve_eq_ok_of_same`).
-/

namespace Balancer

/-- **Rearranged items**: the same items, where the sections of each kind and the imports stand in
the same order. -/
structure Reordered (items items' : List Item) : Prop where
  perm : items.Perm items'
  sections (kind : String) : sectionsOf kind items' = sectionsOf kind items
  imports : importsOf items' = importsOf items

theorem Reordered.symm {items items' : List Item} (h : Reordered items items') :
    Reordered items' items :=
  ⟨h.perm.symm, fun kind => (h.sections kind).symm, h.imports.symm⟩

/-! ### The maps of two arrangements -/

/-- Two maps in which the same is found under each name. -/
def OrderedMap.Same {α : Type} (m m' : OrderedMap α) : Prop := ∀ name, m'.get? name = m.get? name

/-! ### What the passes ask of the maps -/

section Lookups

variable {scope scope' : OrderedMap Value} {templates templates' : OrderedMap Template}

theorem OrderedMap.Same.lookupVariable_eq (h : scope.Same scope') :
    scope'.lookupVariable = scope.lookupVariable := by
  funext name
  rw [lookupVariable, lookupVariable, h name]

/-- Unrolling only looks the variables up. -/
theorem OrderedMap.Same.unroll_eq (h : scope.Same scope') :
    Pool.unroll scope' = Pool.unroll scope := by
  have hlookup := h.lookupVariable_eq
  have hbound : Bound.evaluate scope' = Bound.evaluate scope := by
    funext binder bound
    cases bound <;> simp only [Bound.evaluate, hlookup]
  have hvalues : ServerLoop.values scope' = ServerLoop.values scope := by
    funext loop
    simp only [ServerLoop.values, hbound, hlookup]
  have hscope : lookupInLoop scope' = lookupInLoop scope := by
    funext binder value name
    rw [lookupInLoop, lookupInLoop, hlookup]
  have hservers : ServerLoop.servers scope' = ServerLoop.servers scope := by
    funext loop
    simp only [ServerLoop.servers, Server.instantiate, hvalues, hscope]
  funext pool
  rw [Pool.unroll, Pool.unroll, hservers]

/-- Taking templates over only looks the variables and the templates up. -/
theorem OrderedMap.Same.expandTemplates_eq (h : scope.Same scope')
    (htemplates : templates.Same templates') :
    Pool.expandTemplates scope' templates' = Pool.expandTemplates scope templates := by
  have htake : Server.takeTemplate scope' = Server.takeTemplate scope := by
    funext server template
    simp only [Server.takeTemplate, Server.takeParam, h.lookupVariable_eq]
  have hexpand : Server.expand scope' templates' = Server.expand scope templates := by
    funext server
    simp only [Server.expand, htake, htemplates _]
  funext pool
  rw [Pool.expandTemplates, Pool.expandTemplates, hexpand]

/-- A normal form under the same variables and templates, in whatever order, is the same. -/
theorem Normalized.of_same (h : scope.Same scope') (htemplates : templates.Same templates')
    {config config' result : Configuration}
    (hconfig : config' =
      { config with definitions := config'.definitions, templates := config'.templates })
    (hnormal : Normalized scope templates config result) :
    Normalized scope' templates' config' result := by
  have hbackend : Backend.normalize scope' templates' = Backend.normalize scope templates := by
    funext backend
    simp only [Backend.normalize, h.lookupVariable_eq, h.unroll_eq, h.expandTemplates_eq htemplates]
  have hlisten : Listen.normalize scope' templates' = Listen.normalize scope templates := by
    funext listen
    simp only [Listen.normalize, h.lookupVariable_eq, h.unroll_eq, h.expandTemplates_eq htemplates]
  rw [hconfig]
  exact {
    global := h.lookupVariable_eq ▸ hnormal.global
    defaults := h.lookupVariable_eq ▸ hnormal.defaults
    frontends := h.lookupVariable_eq ▸ hnormal.frontends
    backends := hbackend ▸ hnormal.backends
    listens := hlisten ▸ hnormal.listens
    scripts := h.lookupVariable_eq ▸ hnormal.scripts
    peers := h.lookupVariable_eq ▸ hnormal.peers
    resolvers := h.lookupVariable_eq ▸ hnormal.resolvers
    mailers := h.lookupVariable_eq ▸ hnormal.mailers
    definitions := hnormal.definitions
    templates := hnormal.templates
    imports := hnormal.imports }

end Lookups

/-! ### Two arrangements of a document -/

section Documents

variable {environment : Environment} {document document' : Document}

/-- The names of the variables that the items declare. -/
def declaredVariables (items : List Item) : List String := (definitionsOf items).map Prod.fst

/-- The names of the templates that the items declare. -/
def declaredTemplates (items : List Item) : List String := (templatesOf items).map Prod.fst

/-- **Assembling a rearranged document** succeeds as well. It gives the same parts, up to the order
of the variables and the templates. -/
theorem Configuration.ofDocument_of_reordered {config : Configuration}
    (hreordered : Reordered document.items document'.items)
    (hvariables : (declaredVariables document.items).Nodup)
    (htemplates : (declaredTemplates document.items).Nodup)
    (hconfig : ofDocument environment document = .ok config) :
    ∃ config', ofDocument environment document' = .ok config' ∧
      config' = { config with definitions := config'.definitions, templates := config'.templates } ∧
      config.definitions.Same config'.definitions ∧ config.templates.Same config'.templates := by
  obtain ⟨hbuilds, hglobal, hdefaults⟩ := exists_ofDocument_iff.1 ⟨config, hconfig⟩
  rw [← hreordered.sections] at hglobal hdefaults
  obtain ⟨config', hconfig'⟩ := exists_ofDocument_iff.2
    ⟨fun item hitem => hbuilds item (hreordered.perm.mem_iff.2 hitem), hglobal, hdefaults⟩
  have h := assembled_of_ofDocument hconfig
  have h' := assembled_of_ofDocument hconfig'
  -- each part of `config'` is read from the same sections as in `config`
  have hsame (kind : String) := hreordered.sections kind
  refine ⟨config', hconfig', ?_, ?_, ?_⟩
  · obtain ⟨global, defaults, frontends, backends, listens, scripts, peers, resolvers, mailers,
      definitions, templates, imports⟩ := config'
    cases eq_of_toList_eq (eq_of_sectionsOf_eq (hsame _) h.global h'.global)
    cases eq_of_toList_eq (eq_of_sectionsOf_eq (hsame _) h.defaults h'.defaults)
    cases eq_of_sectionsOf_eq (hsame _) h.frontends h'.frontends
    cases eq_of_sectionsOf_eq (hsame _) h.backends h'.backends
    cases eq_of_sectionsOf_eq (hsame _) h.listens h'.listens
    cases eq_of_sectionsOf_eq (hsame _) h.scripts h'.scripts
    cases eq_of_sectionsOf_eq (hsame _) h.peers h'.peers
    cases eq_of_sectionsOf_eq (hsame _) h.resolvers h'.resolvers
    cases eq_of_sectionsOf_eq (hsame _) h.mailers h'.mailers
    cases h'.imports.trans (hreordered.imports.trans h.imports.symm)
    rfl
  · obtain ⟨entries, hentries, hdefinitions⟩ := h.definitions
    obtain ⟨entries', hentries', hdefinitions'⟩ := h'.definitions
    rw [hdefinitions, hdefinitions']
    exact OrderedMap.get?_ofList_of_readNamed_perm (hreordered.perm.filterMap _) hvariables hentries
      hentries'
  · obtain ⟨entries, hentries, htemplates'⟩ := h.templates
    obtain ⟨entries', hentries', htemplates''⟩ := h'.templates
    rw [htemplates', htemplates'']
    exact OrderedMap.get?_ofList_of_readNamed_perm (hreordered.perm.filterMap _) htemplates hentries
      hentries'

theorem Document.compile_eq_ok_of_reordered {result : Configuration}
    (hreordered : Reordered document.items document'.items)
    (hvariables : (declaredVariables document.items).Nodup)
    (htemplates : (declaredTemplates document.items).Nodup)
    (hresult : document.compile environment = .ok result) :
    document'.compile environment = .ok result := by
  obtain ⟨config, hconfig, hnormal⟩ := compile_eq_ok_iff.1 hresult
  obtain ⟨scope, hscope, hnormal⟩ := Configuration.normalize_eq_ok_iff.1 hnormal
  obtain ⟨config', hconfig', hparts, hdefinitions, htemplates⟩ :=
    Configuration.ofDocument_of_reordered hreordered hvariables htemplates hconfig
  obtain ⟨scope', hscope', hsame⟩ := Resolver.resolve_eq_ok_of_same hdefinitions hscope
  exact compile_eq_ok_iff.2 ⟨config', hconfig', Configuration.normalize_eq_ok_iff.2
    ⟨scope', hscope', hnormal.of_same hsame htemplates hparts⟩⟩

/-- **The order of declarations does not matter.** When the items of a document are rearranged, with
the sections of each kind and the imports in their order, the one compiles exactly when the other
does, and then to the same configuration and the same text. -/
theorem Document.compile_reordered (environment : Environment) (document document' : Document)
    (hreordered : Reordered document.items document'.items)
    (hvariables : (declaredVariables document.items).Nodup)
    (htemplates : (declaredTemplates document.items).Nodup) :
    ((∃ result, document.compile environment = .ok result) ↔
        ∃ result, document'.compile environment = .ok result) ∧
      ∀ result result', document.compile environment = .ok result →
        document'.compile environment = .ok result' →
          result' = result ∧ result'.text = result.text := by
  have hforward {result : Configuration} (h : document.compile environment = .ok result) :
      document'.compile environment = .ok result :=
    compile_eq_ok_of_reordered hreordered hvariables htemplates h
  have hnames : (declaredVariables document'.items).Nodup ∧
      (declaredTemplates document'.items).Nodup :=
    ⟨((hreordered.perm.filterMap _).map _).nodup_iff.1 hvariables,
      ((hreordered.perm.filterMap _).map _).nodup_iff.1 htemplates⟩
  refine ⟨⟨?_, ?_⟩, ?_⟩
  · rintro ⟨result, h⟩
    exact ⟨result, hforward h⟩
  · rintro ⟨result, h⟩
    exact ⟨result, compile_eq_ok_of_reordered hreordered.symm hnames.1 hnames.2 h⟩
  · intro result result' h h'
    cases (hforward h).symm.trans h'
    exact ⟨rfl, rfl⟩

/-- A document that uses its variables and its template before it declares them. -/
def scatteredDocument : Document where
  items :=
    [.block
        { kind := "backend"
          name := "app"
          children :=
            [.object ⟨"server", ["web"],
              [.pair "address" (.literal (.text "$\x7bhost\x7d")) none], ["small"], none⟩]
          position := none },
      .definition "host" (.literal (.text "$\x7bnet\x7d.7")) none,
      .template "small" [.pair "inter" (.literal (.text "$\x7bpause\x7ds")) none] none,
      .definition "net" (.literal (.text "10.0.0")) none,
      .definition "pause" (.literal (.integer 3)) none]

/-- The configuration that the document compiles to. -/
def scatteredBackend : Configuration where
  backends :=
    [{ name := "app"
       body := { mode := some .http }
       pool :=
        { balance := some .roundRobin
          servers := [{ name := "web", address := "10.0.0.7", options := { inter := "3s" } }] } }]

/-- Its text. -/
def scatteredText : String :=
  "backend app\n    mode http\n    balance roundrobin\n    server web 10.0.0.7 inter 3s\n"

theorem Document.compile_reordered_scatteredDocument :
    Reordered scatteredDocument.items scatteredDocument.items.reverse ∧
      (declaredVariables scatteredDocument.items).Nodup ∧
      (declaredTemplates scatteredDocument.items).Nodup ∧
      scatteredDocument.compile {} = .ok scatteredBackend ∧
      ∃ result, Document.compile {} ⟨scatteredDocument.items.reverse⟩ = .ok result ∧
        result = scatteredBackend ∧
        result.text = scatteredText := by
  have hreordered : Reordered scatteredDocument.items scatteredDocument.items.reverse := by
    refine ⟨(List.reverse_perm _).symm, fun kind => ?_, rfl⟩
    by_cases h : "backend" = kind
    · subst h
      rfl
    · simp [sectionsOf, scatteredDocument, List.reverse_cons, List.filterMap_cons, Item.section?, h]
  have hvariables : (declaredVariables scatteredDocument.items).Nodup := by decide
  have htemplates : (declaredTemplates scatteredDocument.items).Nodup := by decide
  have hcompile : scatteredDocument.compile {} = .ok scatteredBackend := by cbv
  have htext : scatteredBackend.text = scatteredText := by cbv
  obtain ⟨hiff, hsame⟩ := Document.compile_reordered {} scatteredDocument
    ⟨scatteredDocument.items.reverse⟩ hreordered hvariables htemplates
  obtain ⟨result, hresult⟩ := hiff.1 ⟨_, hcompile⟩
  obtain ⟨heq, hsame⟩ := hsame _ _ hcompile hresult
  exact ⟨hreordered, hvariables, htemplates, hcompile, result, hresult, heq, hsame.trans htext⟩

end Documents

end Balancer
