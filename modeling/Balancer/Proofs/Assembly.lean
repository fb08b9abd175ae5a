import Balancer.Assembly
import Balancer.Document.OfHcl
import Balancer.Proofs.Ends
import Balancer.Proofs.OrderedMap

/-!
# What a document is assembled to

The items of a document are taken in one after the other, but they hardly meet. An item adds to one
part of the configuration, and the only thing it asks of what is there is that there are no
process-wide or inherited settings yet, if it brings some. So what a document is assembled to can be
said part by part (`Assembled`): the frontends are read from the sections of that kind, in their
order, the variables from the definitions, and so on. And a document can be assembled exactly when
each item can be taken in on its own and neither kind of settings stands twice
(`Configuration.exists_ofDocument_iff`).
-/

namespace Balancer

/-! ### The items of a kind -/

namespace Item

/-- The section in an item, if it is one of the given kind. -/
def section? (kind : String) : Item → Option SectionNode
  | block node => if node.kind = kind then some node else none
  | _ => none

/-- The name, the value and the position of a definition. -/
def definition? : Item → Option (String × Expr × Option Position)
  | definition name value position => some (name, value, position)
  | _ => none

/-- The name, the children and the position of a template. -/
def template? : Item → Option (String × List Child × Option Position)
  | template name children position => some (name, children, position)
  | _ => none

/-- The path of an import. -/
def importPath? : Item → Option String
  | importFile path _ => some path
  | _ => none

end Item

/-- The sections of a kind, in order. -/
def sectionsOf (kind : String) (items : List Item) : List SectionNode :=
  items.filterMap (Item.section? kind)

/-- The definitions, in order. -/
def definitionsOf (items : List Item) : List (String × Expr × Option Position) :=
  items.filterMap Item.definition?

/-- The templates, in order. -/
def templatesOf (items : List Item) : List (String × List Child × Option Position) :=
  items.filterMap Item.template?

/-- The paths of the imports, in order. -/
def importsOf (items : List Item) : List String := items.filterMap Item.importPath?

/-- The variable that a definition declares. -/
def readDefinition (environment : Environment) :
    String × Expr × Option Position → Except BuildError (String × Value) :=
  OrderedMap.readNamed fun _ (value, position) => value.evaluate environment position

/-- The template that a template item declares. -/
def readTemplate (environment : Environment) :
    String × List Child × Option Position → Except BuildError (String × Template) :=
  OrderedMap.readNamed fun name (children, position) =>
    Template.ofChildren environment name children position

/-! ### One section -/

section Added

variable (environment : Environment) (config : Configuration) (node : SectionNode)

/-- **What taking in a section does**, one case for each kind. -/
inductive Added : Configuration → Prop
  | global {x : Global} (hkind : node.kind = "global") (hname : node.name = none)
    (hnone : config.global = none) (hx : Global.ofNode environment node = .ok x) :
    Added { config with global := some x }
  | defaults {x : Defaults} (hkind : node.kind = "defaults") (hnone : config.defaults = none)
    (hx : Defaults.ofNode environment node = .ok x) : Added { config with defaults := some x }
  | frontend {x : Frontend} (hkind : node.kind = "frontend")
    (hx : Frontend.ofNode environment node = .ok x) :
    Added { config with frontends := config.frontends ++ [x] }
  | backend {x : Backend} (hkind : node.kind = "backend")
    (hx : Backend.ofNode environment node = .ok x) :
    Added { config with backends := config.backends ++ [x] }
  | listen {x : Listen} (hkind : node.kind = "listen")
    (hx : Listen.ofNode environment node = .ok x) :
    Added { config with listens := config.listens ++ [x] }
  | peers {x : Peers} (hkind : node.kind = "peers")
    (hx : Peers.ofNode environment node = .ok x) :
    Added { config with peers := config.peers ++ [x] }
  | resolvers {x : Resolvers} (hkind : node.kind = "resolvers")
    (hx : Resolvers.ofNode environment node = .ok x) :
    Added { config with resolvers := config.resolvers ++ [x] }
  | mailers {x : Mailers} (hkind : node.kind = "mailers")
    (hx : Mailers.ofNode environment node = .ok x) :
    Added { config with mailers := config.mailers ++ [x] }
  | script {x : Script} (hkind : node.kind = "script")
    (hx : Script.ofNode environment node = .ok x) :
    Added { config with scripts := config.scripts ++ [x] }

variable {environment config node}

theorem addSection_eq_ok_iff {config' : Configuration} :
    config.addSection environment node = .ok config' ↔ Added environment config node config' := by
  constructor
  · intro h
    rw [Configuration.addSection.eq_def] at h
    split at h
    case h_1 hkind =>
      cases hname : node.name <;> cases hnone : config.global <;>
        simp only [hname, hnone, Option.isSome_none, Option.isSome_some, Bool.false_eq_true,
          if_true, if_false, throw_bind, reduceCtorEq] at h
      obtain ⟨x, hx, h⟩ := bind_eq_ok.1 h
      cases h
      exact .global hkind hname hnone hx
    case h_2 hkind =>
      cases hnone : config.defaults <;>
        simp only [hnone, Option.isSome_none, Option.isSome_some, Bool.false_eq_true, if_true,
          if_false, throw_bind, reduceCtorEq] at h
      obtain ⟨x, hx, h⟩ := bind_eq_ok.1 h
      cases h
      exact .defaults hkind hnone hx
    case h_10 => exact nomatch h
    all_goals
      rename_i hkind
      obtain ⟨x, hx, h⟩ := bind_eq_ok.1 h
      cases h
      constructor <;> assumption
  · intro h
    cases h with
    | global hkind hname hnone hx => simp [Configuration.addSection, hkind, hname, hnone, hx]
    | defaults hkind hnone hx => simp [Configuration.addSection, hkind, hnone, hx]
    | _ hkind hx => simp [Configuration.addSection, hkind, hx]

/-- What is there matters to a section only if it brings settings that stand once. -/
theorem Added.exists_of {config' result : Configuration}
    (h : Added environment config node result)
    (hglobal : node.kind = "global" → config'.global = none)
    (hdefaults : node.kind = "defaults" → config'.defaults = none) :
    ∃ result', Added environment config' node result' := by
  cases h with
  | global hkind hname _ hx => exact ⟨_, .global hkind hname (hglobal hkind) hx⟩
  | defaults hkind _ hx => exact ⟨_, .defaults hkind (hdefaults hkind) hx⟩
  | frontend hkind hx => exact ⟨_, .frontend hkind hx⟩
  | backend hkind hx => exact ⟨_, .backend hkind hx⟩
  | listen hkind hx => exact ⟨_, .listen hkind hx⟩
  | peers hkind hx => exact ⟨_, .peers hkind hx⟩
  | resolvers hkind hx => exact ⟨_, .resolvers hkind hx⟩
  | mailers hkind hx => exact ⟨_, .mailers hkind hx⟩
  | script hkind hx => exact ⟨_, .script hkind hx⟩

theorem Added.settings_eq_none {result : Configuration}
    (h : Added environment config node result) :
    (node.kind = "global" → config.global = none) ∧
      (node.kind = "defaults" → config.defaults = none) := by
  cases h with
  | global hkind _ hnone _ => exact ⟨fun _ => hnone, fun h => by simp [hkind] at h⟩
  | defaults hkind hnone _ => exact ⟨fun h => by simp [hkind] at h, fun _ => hnone⟩
  | _ hkind _ => exact ⟨fun h => by simp [hkind] at h, fun h => by simp [hkind] at h⟩

end Added

/-! ### Part by part -/

/-- **A configuration as the items of a document give it**, each part by the items that are its
own. -/
structure Assembled (environment : Environment) (items : List Item) (config : Configuration) :
    Prop where
  global : (sectionsOf "global" items).mapM (Global.ofNode environment) = .ok config.global.toList
  defaults :
    (sectionsOf "defaults" items).mapM (Defaults.ofNode environment) = .ok config.defaults.toList
  frontends :
    (sectionsOf "frontend" items).mapM (Frontend.ofNode environment) = .ok config.frontends
  backends : (sectionsOf "backend" items).mapM (Backend.ofNode environment) = .ok config.backends
  listens : (sectionsOf "listen" items).mapM (Listen.ofNode environment) = .ok config.listens
  scripts : (sectionsOf "script" items).mapM (Script.ofNode environment) = .ok config.scripts
  peers : (sectionsOf "peers" items).mapM (Peers.ofNode environment) = .ok config.peers
  resolvers :
    (sectionsOf "resolvers" items).mapM (Resolvers.ofNode environment) = .ok config.resolvers
  mailers : (sectionsOf "mailers" items).mapM (Mailers.ofNode environment) = .ok config.mailers
  definitions : ∃ entries, (definitionsOf items).mapM (readDefinition environment) = .ok entries ∧
    config.definitions = .ofList entries
  templates : ∃ entries, (templatesOf items).mapM (readTemplate environment) = .ok entries ∧
    config.templates = .ofList entries
  imports : config.imports = importsOf items

theorem filterMap_concat {α β : Type} (f : α → Option β) (as : List α) (a : α) :
    (as ++ [a]).filterMap f = as.filterMap f ++ (f a).toList := by
  rw [List.filterMap_append]
  cases h : f a <;> simp [h]

namespace Assembled

variable {environment : Environment} {items : List Item} {config config' : Configuration}

theorem nil (environment : Environment) : Assembled environment [] {} where
  global := rfl
  defaults := rfl
  frontends := rfl
  backends := rfl
  listens := rfl
  scripts := rfl
  peers := rfl
  resolvers := rfl
  mailers := rfl
  definitions := ⟨[], rfl, rfl⟩
  templates := ⟨[], rfl, rfl⟩
  imports := rfl

/-- A definition adds a variable, and leaves the rest as it is. -/
theorem concat_definition (h : Assembled environment items config) {name : String} {value : Expr}
    {position : Option Position} {v : Value} (hv : value.evaluate environment position = .ok v) :
    Assembled environment (items ++ [.definition name value position])
      { config with definitions := config.definitions.insert name v } := by
  obtain ⟨entries, hentries, hdefinitions⟩ := h.definitions
  have hread : readDefinition environment (name, value, position) = .ok (name, v) := by
    exact OrderedMap.readNamed_eq_ok_iff.2 ⟨rfl, hv⟩
  constructor
  case definitions =>
    refine ⟨entries ++ [(name, v)], ?_, ?_⟩
    · rw [definitionsOf, filterMap_concat]
      exact mapM_append_eq_ok hentries (mapM_eq_ok.2 (.cons hread .nil))
    · rw [OrderedMap.ofList_concat, ← hdefinitions]
  all_goals
    simp only [sectionsOf, templatesOf, importsOf, filterMap_concat, Item.section?, Item.template?,
      Item.importPath?, Option.toList_none, List.append_nil]
  exacts [h.global, h.defaults, h.frontends, h.backends, h.listens, h.scripts, h.peers,
    h.resolvers, h.mailers, h.templates, h.imports]

/-- A template adds itself, and leaves the rest as it is. -/
theorem concat_template (h : Assembled environment items config) {name : String}
    {children : List Child} {position : Option Position} {t : Template}
    (ht : Template.ofChildren environment name children position = .ok t) :
    Assembled environment (items ++ [.template name children position])
      { config with templates := config.templates.insert name t } := by
  obtain ⟨entries, hentries, htemplates⟩ := h.templates
  have hread : readTemplate environment (name, children, position) = .ok (name, t) := by
    exact OrderedMap.readNamed_eq_ok_iff.2 ⟨rfl, ht⟩
  constructor
  case templates =>
    refine ⟨entries ++ [(name, t)], ?_, ?_⟩
    · rw [templatesOf, filterMap_concat]
      exact mapM_append_eq_ok hentries (mapM_eq_ok.2 (.cons hread .nil))
    · rw [OrderedMap.ofList_concat, ← htemplates]
  all_goals
    simp only [sectionsOf, definitionsOf, importsOf, filterMap_concat, Item.section?,
      Item.definition?, Item.importPath?, Option.toList_none, List.append_nil]
  exacts [h.global, h.defaults, h.frontends, h.backends, h.listens, h.scripts, h.peers,
    h.resolvers, h.mailers, h.definitions, h.imports]

/-- An import adds its path, and leaves the rest as it is. -/
theorem concat_importFile (h : Assembled environment items config) (path : String)
    (position : Option Position) :
    Assembled environment (items ++ [.importFile path position])
      { config with imports := config.imports ++ [path] } := by
  constructor
  case imports =>
    rw [importsOf, filterMap_concat, ← importsOf, ← h.imports]
    rfl
  all_goals
    simp only [sectionsOf, definitionsOf, templatesOf, filterMap_concat, Item.section?,
      Item.definition?, Item.template?, Option.toList_none, List.append_nil]
  exacts [h.global, h.defaults, h.frontends, h.backends, h.listens, h.scripts, h.peers,
    h.resolvers, h.mailers, h.definitions, h.templates]

/-- A section adds to the part of its kind, and leaves the rest as it is. -/
theorem concat_block (h : Assembled environment items config) {node : SectionNode}
    (hadded : Added environment config node config') :
    Assembled environment (items ++ [.block node]) config' := by
  have hsections (kind : String) : sectionsOf kind (items ++ [.block node]) =
      sectionsOf kind items ++ if node.kind = kind then [node] else [] := by
    rw [sectionsOf, filterMap_concat, Item.section?]
    split <;> rfl
  have hother : definitionsOf (items ++ [.block node]) = definitionsOf items ∧
      templatesOf (items ++ [.block node]) = templatesOf items ∧
      importsOf (items ++ [.block node]) = importsOf items := by
    simp [definitionsOf, templatesOf, importsOf, Item.definition?, Item.template?,
      Item.importPath?]
  -- the part of the kind gets one more element, and the other parts are compared as they were
  cases hadded with
  | global hkind _ hnone hx =>
    have hglobal := h.global
    rw [hnone] at hglobal
    constructor <;>
      simp [hsections, hother, hkind, hx, hglobal, h.defaults, h.frontends, h.backends, h.listens,
        h.scripts, h.peers, h.resolvers, h.mailers, h.definitions, h.templates, h.imports, pure,
        Except.pure]
  | defaults hkind hnone hx =>
    have hdefaults := h.defaults
    rw [hnone] at hdefaults
    constructor <;>
      simp [hsections, hother, hkind, hx, h.global, hdefaults, h.frontends, h.backends, h.listens,
        h.scripts, h.peers, h.resolvers, h.mailers, h.definitions, h.templates, h.imports, pure,
        Except.pure]
  | _ hkind hx =>
    constructor <;>
      simp [hsections, hother, hkind, hx, h.global, h.defaults, h.frontends, h.backends,
        h.listens, h.scripts, h.peers, h.resolvers, h.mailers, h.definitions, h.templates,
        h.imports, pure, Except.pure]

/-- **One item**: what is assembled stays so when the next item is taken in. -/
theorem concat (h : Assembled environment items config) {item : Item}
    (hadd : config.addItem environment item = .ok config') :
    Assembled environment (items ++ [item]) config' := by
  cases item with
  | definition name value position =>
    obtain ⟨v, hv, hconfig⟩ := bind_eq_ok.1 hadd
    cases hconfig
    exact h.concat_definition hv
  | template name children position =>
    obtain ⟨t, ht, hconfig⟩ := bind_eq_ok.1 hadd
    cases hconfig
    exact h.concat_template ht
  | importFile path position =>
    cases hadd
    exact h.concat_importFile path position
  | block node => exact h.concat_block (addSection_eq_ok_iff.1 hadd)

theorem foldlM (h : Assembled environment items config) {rest : List Item}
    (hrest : rest.foldlM (Configuration.addItem environment) config = .ok config') :
    Assembled environment (items ++ rest) config' := by
  induction rest generalizing items config with
  | nil =>
    cases hrest
    rwa [List.append_nil]
  | cons item rest ih =>
    rw [List.foldlM_cons] at hrest
    obtain ⟨next, hnext, hrest⟩ := bind_eq_ok.1 hrest
    rw [List.append_cons]
    exact ih (h.concat hnext) hrest

end Assembled

/-- What is read from the same sections is the same. -/
theorem eq_of_sectionsOf_eq {α : Type} {items items' : List Item} {kind : String}
    {read : SectionNode → Except BuildError α} {as as' : List α}
    (hsections : sectionsOf kind items' = sectionsOf kind items)
    (has : (sectionsOf kind items).mapM read = .ok as)
    (has' : (sectionsOf kind items').mapM read = .ok as') : as' = as := by
  rw [hsections, has] at has'
  exact (Except.ok.inj has').symm

theorem eq_of_toList_eq {α : Type} {a a' : Option α} (h : a'.toList = a.toList) : a' = a := by
  simpa using congrArg List.head? h

/-- **What a document is assembled to, part by part.** -/
theorem Configuration.assembled_of_ofDocument {environment : Environment} {document : Document}
    {config : Configuration} (h : ofDocument environment document = .ok config) :
    Assembled environment document.items config :=
  (Assembled.nil environment).foldlM h

/-! ### Which documents can be assembled -/

/-- **An item on its own**: it can be taken in where nothing is there yet. -/
def Item.Builds (environment : Environment) (item : Item) : Prop :=
  ∃ config, Configuration.addItem environment {} item = .ok config

section Builds

variable {environment : Environment} {config : Configuration} {items : List Item}

/-- What is there matters to an item only if it brings settings that stand once. -/
theorem exists_addItem_iff {item : Item} :
    (∃ config', config.addItem environment item = .ok config') ↔
      item.Builds environment ∧ ((item.section? "global").isSome → config.global = none) ∧
        ((item.section? "defaults").isSome → config.defaults = none) := by
  cases item with
  | definition name value position =>
    simp [Item.Builds, Configuration.addItem, Item.section?, map_eq_ok]
  | template name children position =>
    simp [Item.Builds, Configuration.addItem, Item.section?, map_eq_ok]
  | importFile path position => simp [Item.Builds, Configuration.addItem, Item.section?]
  | block node =>
    have hkind (kind : String) : ((Item.block node).section? kind).isSome ↔ node.kind = kind := by
      simp [Item.section?]
    simp only [Item.Builds, Configuration.addItem, addSection_eq_ok_iff, hkind]
    constructor
    · rintro ⟨_, h⟩
      exact ⟨h.exists_of (fun _ => rfl) fun _ => rfl, h.settings_eq_none⟩
    · rintro ⟨⟨_, h⟩, hglobal, hdefaults⟩
      exact h.exists_of hglobal hdefaults

/-- The settings that stand once are there exactly when a section has brought them. -/
theorem Assembled.global_eq_none_iff (h : Assembled environment items config) :
    config.global = none ↔ sectionsOf "global" items = [] := by
  have hlength := (mapM_eq_ok.1 h.global).length_eq
  rw [← List.length_eq_zero_iff, hlength, List.length_eq_zero_iff, Option.toList_eq_nil_iff]

theorem Assembled.defaults_eq_none_iff (h : Assembled environment items config) :
    config.defaults = none ↔ sectionsOf "defaults" items = [] := by
  have hlength := (mapM_eq_ok.1 h.defaults).length_eq
  rw [← List.length_eq_zero_iff, hlength, List.length_eq_zero_iff, Option.toList_eq_nil_iff]

/-- **A document can be assembled exactly when each of its items can be taken in on its own**, and
the process-wide and the inherited settings stand once at most. -/
theorem Configuration.exists_ofDocument_iff {document : Document} :
    (∃ config, ofDocument environment document = .ok config) ↔
      (∀ item ∈ document.items, item.Builds environment) ∧
        (sectionsOf "global" document.items).length ≤ 1 ∧
        (sectionsOf "defaults" document.items).length ≤ 1 := by
  obtain ⟨items⟩ := document
  -- the last item is the one that may find settings there already
  induction items using List.reverseRecOn with
  | nil => simp [ofDocument, sectionsOf, pure, Except.pure]
  | append_singleton items item ih =>
    have hstep : (∃ config, ofDocument environment ⟨items ++ [item]⟩ = .ok config) ↔
        ∃ config, ofDocument environment ⟨items⟩ = .ok config ∧
          ∃ config', config.addItem environment item = .ok config' := by
      simp only [ofDocument, List.foldlM_append, List.foldlM_cons, List.foldlM_nil, bind_pure,
        bind_eq_ok]
      exact ⟨fun ⟨c', c, hc, hc'⟩ => ⟨c, hc, c', hc'⟩, fun ⟨c, hc, c', hc'⟩ => ⟨c', c, hc, hc'⟩⟩
    have hlength (kind : String) : (sectionsOf kind (items ++ [item])).length ≤ 1 ↔
        (sectionsOf kind items).length ≤ 1 ∧
          ((item.section? kind).isSome → sectionsOf kind items = []) := by
      rw [sectionsOf, filterMap_concat, ← sectionsOf, List.length_append]
      cases item.section? kind with
      | none => simp
      | some node =>
        simp only [Option.toList_some, List.length_singleton, Option.isSome_some, forall_const,
          ← List.length_eq_zero_iff]
        omega
    rw [hstep, hlength, hlength]
    simp only [exists_addItem_iff, List.forall_mem_append, List.forall_mem_singleton]
    constructor
    · rintro ⟨config, hconfig, hbuilds, hglobal, hdefaults⟩
      have hassembled := assembled_of_ofDocument hconfig
      rw [hassembled.global_eq_none_iff] at hglobal
      rw [hassembled.defaults_eq_none_iff] at hdefaults
      obtain ⟨hall, hg, hd⟩ := ih.1 ⟨config, hconfig⟩
      exact ⟨⟨hall, hbuilds⟩, ⟨hg, hglobal⟩, hd, hdefaults⟩
    · rintro ⟨⟨hall, hbuilds⟩, ⟨hg, hglobal⟩, hd, hdefaults⟩
      obtain ⟨config, hconfig⟩ := ih.2 ⟨hall, hg, hd⟩
      have hassembled := assembled_of_ofDocument hconfig
      rw [← hassembled.global_eq_none_iff] at hglobal
      rw [← hassembled.defaults_eq_none_iff] at hdefaults
      exact ⟨config, hconfig, hbuilds, hglobal, hdefaults⟩

end Builds

end Balancer
