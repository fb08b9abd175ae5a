import Balancer.Proofs.Assembly
import Balancer.Proofs.Contents
import Balancer.Proofs.Normal
import Balancer.Proofs.NumeralReading
import Balancer.Proofs.Parameters
import Balancer.Proofs.Sections

/-!
# Numbers that are written as texts

A section has a table of settings, and each of them takes a numeral for the number that it stands
for. So the number is gone as soon as a section is filled. Only templates keep the values of their
parameters until a server takes them over, and there a text may still be substituted; but a numeral
has nothing to be substituted in it (`Value.RespelledItem.matches_interpolateValue`).

So the configurations that are described with numbers and with numerals differ in their templates at
most (`Configuration.matches_ofDocument`), and in the end they come to the same
(`Document.compile_respelled`).
-/

namespace Balancer

open Text

/-! ### Sections -/

section Settings

variable {σ : Type}

/-- A setting that takes numerals for numbers. -/
def Setting.TakesNumerals (setting : Setting σ) : Prop :=
  ∀ value value' : Value, value.Respelled value' → ∀ state,
    Matches Eq (setting.assign value state) (setting.assign value' state)

theorem Setting.takesNumerals_ofConversion (type : SlotType) (key : String)
    (put : type.Carrier → σ → σ) : (ofConversion type.convert key put).TakesNumerals := by
  intro value value' h state result hresult
  obtain ⟨a, ha, rfl⟩ := ofConversion_assign_eq_ok hresult
  obtain ⟨_, ha', rfl⟩ := h.matches_convert key type a ha
  exact ⟨_, by simp only [ofConversion, ha'], rfl⟩

@[simp]
theorem Setting.takesNumerals_text (key : String) (put : String → σ → σ) :
    (text key put).TakesNumerals := takesNumerals_ofConversion .text key put

@[simp]
theorem Setting.takesNumerals_flag (key : String) (put : Bool → σ → σ) :
    (flag key put).TakesNumerals := takesNumerals_ofConversion .flag key put

@[simp]
theorem Setting.takesNumerals_count (key : String) (put : Nat → σ → σ) :
    (count key put).TakesNumerals := takesNumerals_ofConversion .count key put

@[simp]
theorem Setting.takesNumerals_texts (key : String) (put : List String → σ → σ) :
    (texts key put).TakesNumerals := takesNumerals_ofConversion .texts key put

@[simp]
theorem ProxyBody.takesNumerals_modeSetting : modeSetting.TakesNumerals := by
  intro value value' h body result hresult
  obtain ⟨mode, ⟨word, hword, hmode⟩, rfl⟩ := modeSetting_assign_eq_ok hresult
  obtain ⟨_, hword', rfl⟩ := h.matches_convert "mode" .text word hword
  rw [SlotType.convert] at hword'
  exact ⟨_, by simp only [modeSetting, hword', hmode], rfl⟩

theorem Setting.matches_update? {table : List (Setting σ)}
    (htable : ∀ setting ∈ table, setting.TakesNumerals) {value value' : Value}
    (h : value.Respelled value') (key : String) (state : σ) :
    Matches Eq (update? table key value state) (update? table key value' state) := by
  rw [update?, update?]
  cases hfind : table.find? fun setting => setting.key == key with
  | none => exact .refl _
  | some setting =>
    have hassign := htable setting (List.mem_of_find?_eq_some hfind) value value' h state
    exact matching.map_eq hassign some

/-- **A section that takes numerals for numbers.** -/
def AbsorbsNumerals (absorb? : σ → Directive → Except Refusal (Option σ)) : Prop :=
  ∀ directive directive' : Directive, directive.Respelled directive' → ∀ state,
    Matches Eq (absorb? state directive) (absorb? state directive')

/-- Only pairs are ever written in another way, and a part finds them in its table. -/
theorem AbsorbsNumerals.of_table {absorb? : σ → Directive → Except Refusal (Option σ)}
    (table : List (Setting σ)) (htable : ∀ setting ∈ table, setting.TakesNumerals)
    (h : ∀ key value state, absorb? state (.pair key value) =
      Setting.update? table key value state) : AbsorbsNumerals absorb? := by
  rintro _ _ (directive | ⟨key, hvalue⟩) state
  · exact .refl _
  · rw [h, h]
    exact Setting.matches_update? htable hvalue key state

/-! The parts of a section have one table each. A section that is made of several parts offers the
pair to one after the other, and each of them answers as before. -/

theorem ProxyBody.absorbsNumerals : AbsorbsNumerals ProxyBody.absorb? :=
  .of_table settings (by simp [settings]) fun _ _ _ => rfl

theorem Intake.absorbsNumerals : AbsorbsNumerals Intake.absorb? :=
  .of_table settings (by simp [settings]) fun _ _ _ => rfl

theorem Pool.absorbsNumerals : AbsorbsNumerals Pool.absorb? :=
  .of_table settings (by simp [settings]) fun _ _ _ => rfl

theorem Global.absorbsNumerals : AbsorbsNumerals Global.absorb? :=
  .of_table settings (by simp [settings]) fun _ _ _ => rfl

theorem Resolvers.absorbsNumerals : AbsorbsNumerals Resolvers.absorb? :=
  .of_table settings (by simp [settings]) fun _ _ _ => rfl

theorem Mailers.absorbsNumerals : AbsorbsNumerals Mailers.absorb? :=
  .of_table settings (by simp [settings]) fun _ _ _ => rfl

/-- Peers have no settings, and so no pair to take. -/
theorem Peers.absorbsNumerals : AbsorbsNumerals Peers.absorb? :=
  .of_table [] (by simp) fun _ _ _ => rfl

theorem Defaults.absorbsNumerals : AbsorbsNumerals Defaults.absorb? := by
  rintro _ _ (directive | ⟨key, h⟩) defaults
  · exact .refl _
  · refine (ProxyBody.absorbsNumerals _ _ (.pair key h) _).bind_eq fun body => ?_
    cases body with
    | some body => exact .refl _
    | none => exact (Pool.absorbsNumerals _ _ (.pair key h) _).bind_eq fun _ => .refl _

theorem Frontend.absorbsNumerals : AbsorbsNumerals Frontend.absorb? := by
  intro _ _ h frontend
  refine (ProxyBody.absorbsNumerals _ _ h _).bind_eq fun body => ?_
  cases body with
  | some body => exact .refl _
  | none => exact (Intake.absorbsNumerals _ _ h _).bind_eq fun _ => .refl _

theorem Backend.absorbsNumerals : AbsorbsNumerals Backend.absorb? := by
  intro _ _ h backend
  refine (ProxyBody.absorbsNumerals _ _ h _).bind_eq fun body => ?_
  cases body with
  | some body => exact .refl _
  | none => exact (Pool.absorbsNumerals _ _ h _).bind_eq fun _ => .refl _

theorem Listen.absorbsNumerals : AbsorbsNumerals Listen.absorb? := by
  intro _ _ h listen
  refine (ProxyBody.absorbsNumerals _ _ h _).bind_eq fun body => ?_
  cases body with
  | some body => exact .refl _
  | none =>
    refine (Intake.absorbsNumerals _ _ h _).bind_eq fun intake => ?_
    cases intake with
    | some intake => exact .refl _
    | none => exact (Pool.absorbsNumerals _ _ h _).bind_eq fun _ => .refl _

end Settings

section Filling

variable {environment : Environment} {node node' : SectionNode} (h : node.Respelled node')

include h

theorem SectionNode.Respelled.kind_eq : node'.kind = node.kind := by
  cases h
  rfl

theorem SectionNode.Respelled.name_eq : node'.name = node.name := by
  cases h
  rfl

theorem SectionNode.Respelled.matches_requiredName :
    Matches Eq node.requiredName node'.requiredName := by
  intro name hname
  rw [requiredName_eq_ok_iff, ← h.name_eq] at hname
  exact ⟨name, requiredName_eq_ok_iff.2 hname, rfl⟩

/-- What the children of a section are read as. -/
theorem SectionNode.Respelled.matches_readChildren :
    Matches EntriesMatch (readChildren environment node.children)
      (readChildren environment node'.children) := by
  obtain ⟨_, _, h, _⟩ := h
  exact Balancer.matches_readChildren (fun _ _ hchild => hchild.matches_readChild) h

/-- **A section is filled as before.** -/
theorem SectionNode.Respelled.matches_fill {σ : Type}
    {absorb? : σ → Directive → Except Refusal (Option σ)} (habsorb : AbsorbsNumerals absorb?)
    (elsewhere : String → Bool) (start : σ) :
    Matches Eq (node.fill environment absorb? elsewhere start)
      (node'.fill environment absorb? elsewhere start) := by
  refine h.matches_readChildren.bind fun entries entries' hentries => ?_
  refine matching.foldlM hentries ?_ rfl
  rintro state _ rfl entry entry' hentry next hnext
  obtain ⟨_, hnext, rfl⟩ := habsorb _ _ hentry state _ (take_eq_ok_iff.1 hnext)
  exact ⟨next, take_eq_ok_iff.2 hnext, rfl⟩

/-- A section that must have a name, filled and then completed. -/
theorem SectionNode.Respelled.matches_named {σ τ : Type}
    {absorb? : σ → Directive → Except Refusal (Option σ)} (habsorb : AbsorbsNumerals absorb?)
    {elsewhere : String → Bool} {start : String → σ} {settle : σ → Except BuildError τ} :
    Matches Eq
      (node.requiredName >>= fun name =>
        node.fill environment absorb? elsewhere (start name) >>= settle)
      (node'.requiredName >>= fun name =>
        node'.fill environment absorb? elsewhere (start name) >>= settle) :=
  h.matches_requiredName.bind_eq fun _ => (h.matches_fill habsorb _ _).bind_eq fun _ => .refl _

/-- A section that must have a name, and is complete when it is filled. -/
theorem SectionNode.Respelled.matches_filled {σ : Type}
    {absorb? : σ → Directive → Except Refusal (Option σ)} (habsorb : AbsorbsNumerals absorb?)
    {elsewhere : String → Bool} {start : String → σ} :
    Matches Eq
      (node.requiredName >>= fun name => node.fill environment absorb? elsewhere (start name))
      (node'.requiredName >>= fun name => node'.fill environment absorb? elsewhere (start name)) :=
  h.matches_requiredName.bind_eq fun _ => h.matches_fill habsorb _ _

theorem Script.matches_ofNode :
    Matches Eq (Script.ofNode environment node) (Script.ofNode environment node') := by
  have hchildren : Matches _ (readChildren environment node.children) _ := h.matches_readChildren
  refine h.matches_requiredName.bind_eq fun name => ?_
  obtain ⟨_, _, _, position⟩ := h
  refine hchildren.bind fun _ _ hentries => ?_
  refine (Fields.matches_ofEntries "script" [] position hentries).bind fun fields fields' h => ?_
  refine (h.matches_text? "kind").bind_eq fun _ =>
    matching.guard (.of_error _ _) ?_
  refine (h.matches_text? "path").bind_eq fun _ => (h.matches_text? "source").bind_eq fun _ => ?_
  have hfinish : Matches Eq (fields.finish ["kind", "path", "source"])
      (fields'.finish ["kind", "path", "source"]) := h.compares.finish _
  exact matching.guard (.of_error _ _) (hfinish.bind_eq fun _ => .ok rfl)

end Filling

/-! ### Configurations -/

/-- **A template with integers written as texts.** -/
def Template.Respelled (template template' : Template) : Prop :=
  Entrywise Value.Respelled template.params.entries template'.params.entries

theorem Template.Respelled.refl (template : Template) : template.Respelled template :=
  List.forall₂_same.2 fun entry _ => ⟨rfl, .item (.same entry.2)⟩

theorem Template.matches_ofChildren {environment : Environment} (name : String)
    {children children' : List Child} (h : List.Forall₂ Child.RespelledPair children children')
    (position : Option Position) :
    Matches Template.Respelled (Template.ofChildren environment name children position)
      (Template.ofChildren environment name children' position) := by
  refine (matches_readPairs h).bind fun _ _ hentries => ?_
  refine (Fields.matches_ofEntries "template" [] position hentries).bind fun _ _ h => ?_
  refine (h.matches_text? "kind").bind_eq fun _ =>
    matching.guard (.of_error _ _) (.ok ?_)
  exact (h.entries.filter_notMem ["kind"]).ofList

/-- **Configurations that differ in the way in which the integers of templates are written.** -/
inductive Configuration.Respelled (config : Configuration) : Configuration → Prop
  | mk {templates : OrderedMap Template}
    (h : Entrywise Template.Respelled config.templates.entries templates.entries) :
    Respelled config { config with templates }

namespace Configuration

variable {environment : Environment} {config config' : Configuration}

/-- **One section**: what it adds is the same, and templates are not its concern. -/
theorem Respelled.matches_addSection (hconfig : config.Respelled config')
    {node node' : SectionNode} (h : node.Respelled node') :
    Matches Respelled (config.addSection environment node)
      (config'.addSection environment node') := by
  obtain ⟨htemplates⟩ := hconfig
  intro result hresult
  have hkind {kind : String} (hown : node.kind = kind) : node'.kind = kind := h.kind_eq.trans hown
  simp only [addSection_eq_ok_iff] at hresult ⊢
  cases hresult with
  | global hown hname hnone hx =>
    have hx' := (h.matches_fill Global.absorbsNumerals nowhere {}).eq_ok hx
    exact ⟨_, .global (hkind hown) (h.name_eq.trans hname) hnone hx', ⟨htemplates⟩⟩
  | defaults hown hnone hx =>
    have hx' := (h.matches_fill Defaults.absorbsNumerals _ _).eq_ok hx
    rw [← h.name_eq] at hx'
    exact ⟨_, .defaults (hkind hown) hnone hx', ⟨htemplates⟩⟩
  | frontend hown hx =>
    have hx' := (h.matches_named Frontend.absorbsNumerals).eq_ok hx
    exact ⟨_, .frontend (hkind hown) hx', ⟨htemplates⟩⟩
  | backend hown hx =>
    have hx' := (h.matches_named Backend.absorbsNumerals).eq_ok hx
    exact ⟨_, .backend (hkind hown) hx', ⟨htemplates⟩⟩
  | listen hown hx =>
    have hx' := (h.matches_named Listen.absorbsNumerals).eq_ok hx
    exact ⟨_, .listen (hkind hown) hx', ⟨htemplates⟩⟩
  | peers hown hx =>
    have hx' := (h.matches_filled Peers.absorbsNumerals).eq_ok hx
    exact ⟨_, .peers (hkind hown) hx', ⟨htemplates⟩⟩
  | resolvers hown hx =>
    have hx' := (h.matches_filled Resolvers.absorbsNumerals).eq_ok hx
    exact ⟨_, .resolvers (hkind hown) hx', ⟨htemplates⟩⟩
  | mailers hown hx =>
    have hx' := (h.matches_filled Mailers.absorbsNumerals).eq_ok hx
    exact ⟨_, .mailers (hkind hown) hx', ⟨htemplates⟩⟩
  | script hown hx =>
    exact ⟨_, .script (hkind hown) ((Script.matches_ofNode h).eq_ok hx), ⟨htemplates⟩⟩

theorem Respelled.refl (config : Configuration) : config.Respelled config :=
  ⟨List.forall₂_same.2 fun entry _ => ⟨rfl, .refl entry.2⟩⟩

/-- **One item.** -/
theorem Respelled.matches_addItem (hconfig : config.Respelled config') {item item' : Item}
    (h : item.Respelled item') :
    Matches Respelled (config.addItem environment item) (config'.addItem environment item') := by
  cases h with
  | block h => exact hconfig.matches_addSection h
  | template name h position =>
    obtain ⟨htemplates⟩ := hconfig
    refine (Template.matches_ofChildren name h position).bind fun _ _ htemplate => ?_
    exact .ok ⟨htemplates.insertEntry name htemplate⟩
  | same =>
    cases item with
    | definition name value position =>
      obtain ⟨htemplates⟩ := hconfig
      exact (Matches.refl _).bind_eq fun _ => .ok ⟨htemplates⟩
    | template name children position =>
      obtain ⟨htemplates⟩ := hconfig
      refine (Matches.refl _).bind_eq fun template => ?_
      exact .ok ⟨htemplates.insertEntry name (.refl template)⟩
    | importFile path position =>
      obtain ⟨htemplates⟩ := hconfig
      exact .ok ⟨htemplates⟩
    | block node =>
      -- a section in which nothing is written in another way
      exact hconfig.matches_addSection
        (.mk node.kind node.name (List.forall₂_same.2 fun _ _ => .pair (.same _)) node.position)

/-- **All items**: the documents describe the same, up to the values in templates. -/
theorem matches_ofDocument {document document' : Document}
    (h : List.Forall₂ Item.Respelled document.items document'.items) :
    Matches Respelled (ofDocument environment document) (ofDocument environment document') :=
  matching.foldlM h (fun _ _ hconfig _ _ hitem => hconfig.matches_addItem hitem) (.refl {})

end Configuration

/-! ### Normal forms -/

section Interpolation

variable {lookup : String → Except NormalizeError Value}

/-- There is nothing to be substituted in a numeral. -/
theorem Value.RespelledItem.matches_interpolateValue {value value' : Value}
    (h : value.RespelledItem value') :
    Matches Value.RespelledItem (interpolateValue lookup value)
      (interpolateValue lookup value') := by
  cases h with
  | same => exact fun result hresult => ⟨result, hresult, .same result⟩
  | numeral n =>
    have hnumeral : interpolateValue lookup (.text (integerText n)) = .ok (.text (integerText n)) :=
      interpolateValue_of_unmarked lookup _ (unmarked_integerText n)
    rw [hnumeral]
    exact .ok (.numeral n)

theorem Value.Respelled.matches_interpolateValue {value value' : Value}
    (h : value.Respelled value') :
    Matches Value.Respelled (interpolateValue lookup value) (interpolateValue lookup value') := by
  cases h with
  | item h =>
    intro result hresult
    obtain ⟨result', hresult', h⟩ := h.matches_interpolateValue result hresult
    exact ⟨result', hresult', .item h⟩
  | @array items items' h =>
    have hitems : Matches (List.Forall₂ Value.RespelledItem) (interpolateValues lookup items)
        (interpolateValues lookup items') := by
      induction h with
      | nil => exact .ok .nil
      | cons hitem _ ih =>
        refine hitem.matches_interpolateValue.bind fun _ _ hfirst => ?_
        exact ih.bind fun _ _ hrest => .ok (.cons hfirst hrest)
    exact hitems.bind fun _ _ hvalues => .ok (.array hvalues)

end Interpolation

section Expansion

variable {scope : OrderedMap Value}

theorem Server.matches_takeParam (server : Server) (template template' key : String)
    {value value' : Value} (h : value.Respelled value') :
    Matches Eq (server.takeParam scope template key value)
      (server.takeParam scope template' key value') := by
  rw [takeParam, takeParam]
  refine matching.guard (.of_error _ _) (h.matches_interpolateValue.bind fun v v' hv => ?_)
  rw [fill?_eq, fill?_eq]
  cases Parameter.ofKey? key with
  | none => exact .of_error _ _
  | some p =>
    have hfill : Matches Eq _ _ := matching.map_eq (hv.matches_convert p.key p.type) (server.fill p)
    dsimp only [Option.map_some, Parameter.convert]
    cases hfilled : server.fill p <$> p.type.convert p.key v with
    | error e => exact .of_error _ _
    | ok filled =>
      rw [hfill.eq_ok hfilled]
      exact .ok rfl

theorem Server.matches_takeTemplate (server : Server) {template template' : Template}
    (h : template.Respelled template') :
    Matches Eq (server.takeTemplate scope template) (server.takeTemplate scope template') := by
  refine matching.foldlM h ?_ rfl
  rintro server _ rfl ⟨key, value⟩ ⟨_, value'⟩ ⟨rfl, hvalue⟩
  exact server.matches_takeParam _ _ key hvalue

variable {templates templates' : OrderedMap Template}
  (h : Entrywise Template.Respelled templates.entries templates'.entries)

include h

/-- **A server takes over the same.** -/
theorem Server.matches_expand (server : Server) :
    Matches Eq (server.expand scope templates) (server.expand scope templates') := by
  have hspreads : List.Forall₂ Eq server.spreads server.spreads :=
    List.forall₂_same.2 fun _ _ => rfl
  refine matching.foldlM hspreads ?_ rfl
  rintro current _ rfl name _ rfl
  have hget : Option.Rel Template.Respelled (templates.get? name) (templates'.get? name) :=
    h.rel_lookup name
  generalize templates.get? name = found at hget ⊢
  generalize templates'.get? name = found' at hget ⊢
  cases hget with
  | none => exact .of_error _ _
  | some htemplate => exact current.matches_takeTemplate htemplate

theorem Pool.matches_expandTemplates (pool : Pool) :
    Matches Eq (pool.expandTemplates scope templates) (pool.expandTemplates scope templates') :=
  Matches.bind_eq (matching.mapM_same (Server.matches_expand h) _) fun _ => .ok rfl

theorem Backend.matches_normalize (backend : Backend) :
    Matches Eq (backend.normalize scope templates) (backend.normalize scope templates') :=
  (Matches.refl _).bind_eq fun _ => (Matches.refl _).bind_eq fun pool =>
    (pool.matches_expandTemplates h).bind_eq fun _ => .ok rfl

theorem Listen.matches_normalize (listen : Listen) :
    Matches Eq (listen.normalize scope templates) (listen.normalize scope templates') :=
  (Matches.refl _).bind_eq fun _ => (Matches.refl _).bind_eq fun pool =>
    (pool.matches_expandTemplates h).bind_eq fun _ => .ok rfl

end Expansion

/-- **The normal forms are the same.** -/
theorem Configuration.Respelled.matches_normalize {config config' : Configuration}
    (h : config.Respelled config') : Matches Eq config.normalize config'.normalize := by
  obtain ⟨htemplates⟩ := h
  intro result hresult
  obtain ⟨scope, hscope, hnormal⟩ := normalize_eq_ok_iff.1 hresult
  refine ⟨result, normalize_eq_ok_iff.2 ⟨scope, hscope, ?_⟩, rfl⟩
  exact {
    global := hnormal.global
    defaults := hnormal.defaults
    frontends := hnormal.frontends
    backends := (matching.mapM_same (Backend.matches_normalize htemplates) _).eq_ok hnormal.backends
    listens := (matching.mapM_same (Listen.matches_normalize htemplates) _).eq_ok hnormal.listens
    scripts := hnormal.scripts
    peers := hnormal.peers
    resolvers := hnormal.resolvers
    mailers := hnormal.mailers
    definitions := hnormal.definitions
    templates := hnormal.templates
    imports := hnormal.imports }

/-- **Numbers may be written as texts.** Where a document compiles, and integers that are values of
pairs, or items of such values, are replaced by the texts of their numerals, there the document
still compiles, and to the same configuration and the same text. -/
theorem Document.compile_respelled {environment : Environment} {document document' : Document}
    {result : Configuration}
    (hrespelled : List.Forall₂ Item.Respelled document.items document'.items)
    (hresult : document.compile environment = .ok result) :
    ∃ result', document'.compile environment = .ok result' ∧ result' = result ∧
      result'.text = result.text := by
  obtain ⟨config, hconfig, hnormal⟩ := compile_eq_ok_iff.1 hresult
  obtain ⟨config', hconfig', h⟩ := Configuration.matches_ofDocument hrespelled config hconfig
  have hcompile := compile_eq_ok_iff.2 ⟨config', hconfig', h.matches_normalize.eq_ok hnormal⟩
  exact ⟨result, hcompile, rfl, rfl⟩

/-- A document with integers in a setting, in a list, in a template and in a server of a loop. The
integers are values in the given way. -/
def countedDocument (write : Int64 → Value) : Document where
  items :=
    [.template "small" [.pair "cookie" (.literal (write Int64.minValue)) none] none,
      .block
        { kind := "global"
          name := none
          children :=
            [.pair "maxconn" (.literal (write 4096)) none,
              .pair "cpu_map" (.array [.literal (write 1), .literal (.text "2-3")]) none]
          position := none },
      .block
        { kind := "backend"
          name := "app"
          children :=
            [.loop ⟨"i", .list [.literal (.text "a")],
              [⟨"server", ["web-$\x7bi\x7d"],
                [.pair "address" (.literal (.text "10.0.0.1")) none,
                  .pair "port" (.literal (write 80)) none], ["small"], none⟩], none⟩]
          position := none }]

/-- What the document describes if the integers are integers. -/
def countedDesign : Configuration where
  global := some { maxconn := some 4096, cpuMap := ["1", "2-3"] }
  backends :=
    [{ name := "app"
       body := { mode := some .http }
       pool :=
        { balance := some .roundRobin
          loops :=
            [⟨"i", .list [.text "a"],
              [{ name := "web-$\x7bi\x7d"
                 address := "10.0.0.1"
                 port := some 80
                 spreads := ["small"] }]⟩] } }]
  templates :=
    .ofList
      [("small", { name := "small", params := .ofList [("cookie", .integer Int64.minValue)] })]

/-- What it compiles to. -/
def countedConfiguration : Configuration where
  global := some { maxconn := some 4096, cpuMap := ["1", "2-3"] }
  backends :=
    [{ name := "app"
       body := { mode := some .http }
       pool :=
        { balance := some .roundRobin
          servers :=
            [{ name := "web-a"
               address := "10.0.0.1"
               port := some 80
               options := { cookie := "-9223372036854775808" } }] } }]

theorem respelled_countedDocument :
    List.Forall₂ Item.Respelled (countedDocument .integer).items
      (countedDocument fun n => .text (integerText n)).items := by
  have hliteral (n : Int64) :
      (Expr.literal (.integer n)).Respelled (.literal (.text (integerText n))) :=
    .literal (.item (.numeral n))
  have hitem (n : Int64) :
      (Expr.literal (.integer n)).RespelledItem (.literal (.text (integerText n))) :=
    .literal (.numeral n)
  have hmap := Child.RespelledPair.pair "cpu_map"
    (.array (.cons (hitem 1) (.cons (.same (.literal (.text "2-3"))) .nil))) none
  refine .cons ?_ (.cons ?_ (.cons ?_ .nil))
  · exact .template "small" (.cons (.pair _ (hliteral _) none) .nil) none
  · exact .block (.mk "global" none
      (.cons (.pair (.pair _ (hliteral _) none)) (.cons (.pair hmap) .nil)) none)
  · exact .block (.mk "backend" "app" (.cons (.loop _ _ (.cons (.mk _ _
      (.cons (.same _) (.cons (.pair _ (hliteral _) none) .nil)) _ none) .nil) none) .nil) none)

theorem Document.compile_respelled_countedDocument :
    (countedDocument .integer).compile {} = .ok countedConfiguration ∧
      List.Forall₂ Item.Respelled (countedDocument .integer).items
        (countedDocument fun n => .text (integerText n)).items ∧
      ∃ result, (countedDocument fun n => .text (integerText n)).compile {} = .ok result ∧
        result = countedConfiguration ∧ result.text = countedConfiguration.text := by
  have hbuild : Configuration.ofDocument {} (countedDocument .integer) = .ok countedDesign := by rfl
  have hnormal : countedDesign.normalize = .ok countedConfiguration := by cbv
  have hcompile := compile_eq_ok_iff.2 ⟨countedDesign, hbuild, hnormal⟩
  exact ⟨hcompile, respelled_countedDocument,
    Document.compile_respelled respelled_countedDocument hcompile⟩

end Balancer
