import Balancer.Proofs.Assembly
import Balancer.Proofs.Merging
import Balancer.Proofs.Outline
import Balancer.Proofs.Sections

/-!
# Splitting blocks of keys

A section takes in two blocks of keys as it takes in what they say together (`Takes`), since what it
holds already is merged with them one after the other. With what is known about the contents of such
blocks this makes a block as good as any number of blocks with the same pairs, in the same order
(`Keyed`): a document that has the one builds the same configuration as a document that has the
others, or neither builds (`Configuration.ofDocument_split`). An empty block can be left out.

The keys of the block have to be distinct, but other blocks of the section may have them as well.
-/

namespace Balancer

/-! ### Taking in blocks -/

/-- **A section takes in two blocks as it takes in what they say together.** -/
structure Takes {σ α : Type} [Monoid α] (absorb? : σ → Directive → Except Refusal (Option σ))
    (directive : α → Directive) : Prop where
  one (state : σ) : absorb? state (directive 1) = .ok (some state)
  mul (state : σ) (a b : α) : ∃ next, absorb? state (directive a) = .ok (some next) ∧
    absorb? next (directive b) = absorb? state (directive (a * b))

/-- **A field of a record**, by the way it is read and replaced. -/
structure IsField {τ σ : Type} (get : τ → σ) (set : τ → σ → τ) : Prop where
  self (whole : τ) : set whole (get whole) = whole
  get_set (whole : τ) (part : σ) : get (set whole part) = part
  set_set (whole : τ) (part part' : σ) : set (set whole part) part' = set whole part'

section Fields

variable {σ τ α : Type} [Monoid α] {absorb? : σ → Directive → Except Refusal (Option σ)}
  {directive : α → Directive}

/-- Blocks that are merged into a field. -/
theorem Takes.of_field {g : σ → α} {s : σ → α → σ} (hfield : IsField g s)
    (habsorb : ∀ state a, absorb? state (directive a) = .ok (some (s state (g state * a)))) :
    Takes absorb? directive where
  one state := by rw [habsorb, mul_one, hfield.self]
  mul state a b := ⟨_, habsorb state a, by
    rw [habsorb, habsorb, hfield.get_set, hfield.set_set, mul_assoc]⟩

/-- What a part takes in is taken in by the whole, if it is offered to that part. -/
theorem Takes.lift {outer : τ → Directive → Except Refusal (Option τ)} {g : τ → σ}
    {s : τ → σ → τ} (h : Takes absorb? directive) (hfield : IsField g s)
    (houter : ∀ whole part directive, absorb? (g whole) directive = .ok (some part) →
      outer whole directive = .ok (some (s whole part))) : Takes outer directive where
  one whole := by rw [houter whole _ _ (h.one (g whole)), hfield.self]
  mul whole a b := by
    obtain ⟨part, hpart, hsame⟩ := h.mul (g whole) a b
    obtain ⟨part', hpart', -⟩ := h.mul part b 1
    refine ⟨s whole part, houter whole part _ hpart, ?_⟩
    rw [houter whole part' _ (hsame.symm.trans hpart'),
      houter (s whole part) part' _ (by rw [hfield.get_set, hpart']), hfield.set_set]

end Fields

theorem ProxyBody.takes_timeouts : Takes ProxyBody.absorb? .timeouts :=
  .of_field (g := timeouts) (s := fun body timeouts => { body with timeouts })
    ⟨fun _ => rfl, fun _ _ => rfl, fun _ _ _ => rfl⟩ fun _ _ => rfl

theorem ProxyBody.takes_options : Takes ProxyBody.absorb? .options :=
  .of_field (g := options) (s := fun body options => { body with options })
    ⟨fun _ => rfl, fun _ _ => rfl, fun _ _ _ => rfl⟩ fun _ _ => rfl

theorem Global.takes_tune : Takes Global.absorb? .tune :=
  .of_field (g := tune) (s := fun global tune => { global with tune })
    ⟨fun _ => rfl, fun _ _ => rfl, fun _ _ _ => rfl⟩ fun _ _ => rfl

theorem Global.takes_setenv : Takes Global.absorb? .setenv :=
  .of_field (g := setenv) (s := fun global setenv => { global with setenv })
    ⟨fun _ => rfl, fun _ _ => rfl, fun _ _ _ => rfl⟩ fun _ _ => rfl

theorem Resolvers.takes_hold : Takes Resolvers.absorb? .hold :=
  .of_field (g := hold) (s := fun resolvers hold => { resolvers with hold })
    ⟨fun _ => rfl, fun _ _ => rfl, fun _ _ _ => rfl⟩ fun _ _ => rfl

/-- The body of the inherited settings takes in what it can. -/
theorem Defaults.absorb?_of_body {defaults : Defaults} {body : ProxyBody} {directive : Directive}
    (h : defaults.body.absorb? directive = .ok (some body)) :
    defaults.absorb? directive = .ok (some { defaults with body }) := by
  unfold absorb?
  split
  · exact nomatch h
  · exact nomatch h
  · exact nomatch h
  · rw [h]
    rfl

section Bodies

variable {α : Type} [Monoid α] {directive : α → Directive} (h : Takes ProxyBody.absorb? directive)

include h

theorem Takes.defaults : Takes Defaults.absorb? directive :=
  h.lift (g := Defaults.body) (s := fun whole body => { whole with body })
    ⟨fun _ => rfl, fun _ _ => rfl, fun _ _ _ => rfl⟩ fun _ _ _ => Defaults.absorb?_of_body

theorem Takes.frontend : Takes Frontend.absorb? directive :=
  h.lift (g := Frontend.body) (s := fun whole body => { whole with body })
    ⟨fun _ => rfl, fun _ _ => rfl, fun _ _ _ => rfl⟩ fun _ _ _ hpart =>
      Frontend.absorb?_eq_ok_some_iff.2 (.inl ⟨_, hpart, rfl⟩)

theorem Takes.backend : Takes Backend.absorb? directive :=
  h.lift (g := Backend.body) (s := fun whole body => { whole with body })
    ⟨fun _ => rfl, fun _ _ => rfl, fun _ _ _ => rfl⟩ fun _ _ _ hpart =>
      Backend.absorb?_eq_ok_some_iff.2 (.inl ⟨_, hpart, rfl⟩)

theorem Takes.listen : Takes Listen.absorb? directive :=
  h.lift (g := Listen.body) (s := fun whole body => { whole with body })
    ⟨fun _ => rfl, fun _ _ => rfl, fun _ _ _ => rfl⟩ fun _ _ _ hpart =>
      Listen.absorb?_eq_ok_some_iff.2 (.inl ⟨_, hpart, rfl⟩)

end Bodies

/-! ### Blocks in a document -/

/-- **A block of keys** that has no labels and takes in no templates. -/
def Child.block (kind : String) (pairs : List (String × Expr)) : Child :=
  .object ⟨kind, [], pairs.map fun (key, value) => .pair key value none, [], none⟩

section Blocks

variable {environment : Environment}

variable (environment) in
/-- The named value of a pair of a block. -/
def readValue : String × Expr → Except BuildError (String × Value) :=
  OrderedMap.readNamed fun _ value => value.evaluate environment none

theorem readChildren_pairs (pairs : List (String × Expr)) :
    readChildren environment (pairs.map fun (key, value) => .pair key value none) =
      (List.map fun (key, value) => ⟨.pair key value, none⟩) <$>
        pairs.mapM (readValue environment) := by
  induction pairs with
  | nil => rw [List.map_nil, readChildren]; rfl
  | cons pair pairs ih =>
    obtain ⟨key, value⟩ := pair
    rw [List.map_cons, readChildren, readChild, ih, List.mapM_cons, readValue, OrderedMap.readNamed]
    cases value.evaluate environment none with
    | error e => rfl
    | ok v => cases pairs.mapM (OrderedMap.readNamed _) <;> rfl

theorem Fields.ofEntries_pairs (kind : String) (values : List (String × Value)) :
    Fields.ofEntries kind [] none (values.map fun (key, value) => ⟨.pair key value, none⟩) =
      .ok (.block kind values) := by
  have hpairs : (values.map fun (key, value) => (⟨.pair key value, none⟩ : Entry)).mapM
      (Entry.pair kind none) = .ok values := by
    rw [mapM_eq_ok, List.forall₂_map_left_iff, List.forall₂_same]
    exact fun _ _ => rfl
  rw [ofEntries, hpairs]
  rfl

/-- **What a block is read as.** -/
theorem readChild_block {kind : String} {found : ObjectKind}
    (hname : ObjectKind.ofName? kind = some found) (pairs : List (String × Expr)) :
    readChild environment (.block kind pairs) = (do
      let values ← pairs.mapM (readValue environment)
      let directive ← found.read (.block kind values) []
      return [⟨directive, none⟩]) := by
  have hprecheck : found.precheck kind [] none = .ok () := by cases found <;> rfl
  rw [Child.block, readChild, readObject, hname, readChildren_pairs]
  simp only [hprecheck, ok_bind]
  cases pairs.mapM (readValue environment) with
  | error e => rfl
  | ok values =>
    have hfields := Fields.ofEntries_pairs kind values
    simp only [Except.map_ok, hfields, ok_bind]
    cases found.read (.block kind values) [] <;> rfl

variable {σ : Type} (node : SectionNode) (absorb? : σ → Directive → Except Refusal (Option σ))
  (elsewhere : String → Bool)

variable (environment) in
/-- **What children make of a section** that is filled in part. -/
def Fills (children : List Child) (state result : σ) : Prop :=
  ∃ entries, readChildren environment children = .ok entries ∧
    entries.foldlM (node.take absorb? elsewhere) state = .ok result

variable {node absorb? elsewhere}

theorem fills_nil_iff {state result : σ} :
    Fills environment node absorb? elsewhere [] state result ↔ state = result := by
  rw [Fills, readChildren]
  constructor
  · rintro ⟨_, ⟨⟩, hfold⟩
    exact pure_eq_ok_iff.1 hfold
  · rintro rfl
    exact ⟨[], rfl, rfl⟩

theorem fills_append_iff {children children' : List Child} {state result : σ} :
    Fills environment node absorb? elsewhere (children ++ children') state result ↔
      ∃ next, Fills environment node absorb? elsewhere children state next ∧
        Fills environment node absorb? elsewhere children' next result := by
  simp only [Fills, readChildren_append_eq_bind, bind_eq_ok, pure_eq_ok_iff]
  constructor
  · rintro ⟨_, ⟨entries, hentries, entries', hentries', rfl⟩, hfold⟩
    rw [List.foldlM_append] at hfold
    obtain ⟨next, hnext, hfold⟩ := bind_eq_ok.1 hfold
    exact ⟨next, ⟨entries, hentries, hnext⟩, entries', hentries', hfold⟩
  · rintro ⟨next, ⟨entries, hentries, hnext⟩, entries', hentries', hfold⟩
    refine ⟨_, ⟨entries, hentries, entries', hentries', rfl⟩, ?_⟩
    rw [List.foldlM_append]
    exact bind_eq_ok.2 ⟨next, hnext, hfold⟩

theorem fills_block_iff {kind : String} {found : ObjectKind}
    (hname : ObjectKind.ofName? kind = some found) {α : Type} {directive : α → Directive}
    {read : Fields → Except BuildError α}
    (hread : ∀ fields, found.read fields [] = directive <$> read fields)
    {pairs : List (String × Expr)} {state result : σ} :
    Fills environment node absorb? elsewhere [.block kind pairs] state result ↔
      ∃ values, pairs.mapM (readValue environment) = .ok values ∧
        ∃ a, read (.block kind values) = .ok a ∧
          absorb? state (directive a) = .ok (some result) := by
  simp only [Fills, readChildren_cons_eq_ok_iff, readChild_block hname, hread, bind_eq_ok,
    map_eq_ok, pure_eq_ok_iff]
  constructor
  · rintro ⟨_, ⟨_, _, ⟨values, hvalues, _, ⟨a, ha, rfl⟩, rfl⟩, hnil, rfl⟩, hfold⟩
    rw [readChildren] at hnil
    cases hnil
    simp only [List.append_nil, List.foldlM_cons, List.foldlM_nil, bind_pure] at hfold
    exact ⟨values, hvalues, a, ha, SectionNode.take_eq_ok_iff.1 hfold⟩
  · rintro ⟨values, hvalues, a, ha, habsorb⟩
    refine ⟨_, ⟨_, [], ⟨values, hvalues, _, ⟨a, ha, rfl⟩, rfl⟩, readChildren.eq_1 _, rfl⟩, ?_⟩
    simp only [List.append_nil, List.foldlM_cons, List.foldlM_nil, bind_pure]
    exact SectionNode.take_eq_ok_iff.2 habsorb

/-- **Blocks of a kind can be cut** in the sections that take in directives in the given way. -/
structure Keyed (absorb? : σ → Directive → Except Refusal (Option σ)) (kind : String) : Prop where
  fills_iff {environment : Environment} {node : SectionNode} {elsewhere : String → Bool}
    {parts : List (List (String × Expr))} (hnodup : (parts.flatten.map Prod.fst).Nodup)
    {state result : σ} :
    Fills environment node absorb? elsewhere (parts.map (.block kind)) state result ↔
      Fills environment node absorb? elsewhere [.block kind parts.flatten] state result

section Cutting

variable {kind : String} {found : ObjectKind} (hname : ObjectKind.ofName? kind = some found)
  {α : Type} [Monoid α] {directive : α → Directive} {read : Fields → Except BuildError α}
  (hread : ∀ fields, found.read fields [] = directive <$> read fields) (hsplits : Splits read)
  (htakes : Takes absorb? directive)

include hname hread hsplits htakes

/-- A block is taken in as the two parts that it is cut into. -/
theorem fills_block_append_iff {pairs pairs' : List (String × Expr)}
    (hnodup : ((pairs ++ pairs').map Prod.fst).Nodup) {state result : σ} :
    Fills environment node absorb? elsewhere [.block kind (pairs ++ pairs')] state result ↔
      ∃ next, Fills environment node absorb? elsewhere [.block kind pairs] state next ∧
        Fills environment node absorb? elsewhere [.block kind pairs'] next result := by
  have hkeys {values values' : List (String × Value)}
      (hvalues : pairs.mapM (readValue environment) = .ok values)
      (hvalues' : pairs'.mapM (readValue environment) = .ok values') :
      ((values ++ values').map Prod.fst).Nodup := by
    rw [List.map_append] at hnodup ⊢
    rwa [OrderedMap.map_fst_of_readNamed hvalues, OrderedMap.map_fst_of_readNamed hvalues']
  simp only [fills_block_iff hname hread, mapM_append_eq_ok_iff]
  constructor
  · rintro ⟨_, ⟨values, values', hvalues, hvalues', rfl⟩, _, hc, habsorb⟩
    obtain ⟨a, b, ha, hb, rfl⟩ := (hsplits.append (hkeys hvalues hvalues')).1 hc
    obtain ⟨next, hnext, hsame⟩ := htakes.mul state a b
    exact ⟨next, ⟨values, hvalues, a, ha, hnext⟩, values', hvalues', b, hb, hsame.trans habsorb⟩
  · rintro ⟨next, ⟨values, hvalues, a, ha, hnext⟩, values', hvalues', b, hb, habsorb⟩
    obtain ⟨next', hnext', hsame⟩ := htakes.mul state a b
    cases hnext.symm.trans hnext'
    exact ⟨_, ⟨values, values', hvalues, hvalues', rfl⟩, a * b,
      (hsplits.append (hkeys hvalues hvalues')).2 ⟨a, b, ha, hb, rfl⟩, hsame.symm.trans habsorb⟩

theorem Keyed.of_splits : Keyed absorb? kind := by
  refine ⟨fun {environment node elsewhere parts} hnodup {state result} => ?_⟩
  induction parts generalizing state with
  | nil =>
    rw [List.map_nil, fills_nil_iff, List.flatten_nil, fills_block_iff hname hread]
    constructor
    · rintro rfl
      exact ⟨[], rfl, 1, hsplits.nil kind, htakes.one state⟩
    · rintro ⟨_, ⟨⟩, a, ha, habsorb⟩
      cases (hsplits.nil kind).symm.trans ha
      cases (htakes.one state).symm.trans habsorb
      rfl
  | cons part parts ih =>
    rw [List.flatten_cons] at hnodup ⊢
    have hrest : (parts.flatten.map Prod.fst).Nodup := by
      rw [List.map_append, List.nodup_append] at hnodup
      exact hnodup.2.1
    rw [fills_block_append_iff hname hread hsplits htakes hnodup, List.map_cons,
      ← List.singleton_append, fills_append_iff]
    exact exists_congr fun next => and_congr_right fun _ => ih hrest

end Cutting

end Blocks

/-! ### The kinds of blocks -/

/-- **The blocks of keys** that a section of a given kind can have. -/
def keyedBlocks : String → List String
  | "global" => ["tune", "setenv"]
  | "defaults" | "frontend" | "backend" | "listen" => ["timeouts", "options"]
  | "resolvers" => ["hold"]
  | _ => []

theorem Global.keyed {kind : String} (h : kind ∈ keyedBlocks "global") :
    Keyed Global.absorb? kind := by
  rcases List.mem_pair.1 h with rfl | rfl
  · exact .of_splits rfl (fun _ => rfl) Fields.splits_textMap takes_tune
  · exact .of_splits rfl (fun _ => rfl) Fields.splits_textMap takes_setenv

theorem Resolvers.keyed {kind : String} (h : kind ∈ keyedBlocks "resolvers") :
    Keyed Resolvers.absorb? kind := by
  rcases List.mem_singleton.1 h with rfl
  exact .of_splits rfl (fun _ => rfl) Fields.splits_textMap takes_hold

/-- The blocks of a proxy, whatever section its body is a part of. -/
theorem keyed_of_body {σ : Type} {absorb? : σ → Directive → Except Refusal (Option σ)}
    (hbody : ∀ {α : Type} [Monoid α] {directive : α → Directive},
      Takes ProxyBody.absorb? directive → Takes absorb? directive)
    {kind : String} (h : kind ∈ ["timeouts", "options"]) : Keyed absorb? kind := by
  rcases List.mem_pair.1 h with rfl | rfl
  · exact .of_splits rfl (fun _ => rfl) Timeouts.splits (hbody ProxyBody.takes_timeouts)
  · exact .of_splits rfl (fun _ => rfl) ProxyOptions.splits (hbody ProxyBody.takes_options)

/-- What is taken in of a section depends on the way it is filled. -/
theorem Added.of_fill {environment : Environment} {config result : Configuration}
    {node node' : SectionNode} (hkind : node'.kind = node.kind) (hname : node'.name = node.name)
    {kind : String} (hmem : kind ∈ keyedBlocks node.kind)
    (hfill : ∀ {σ : Type} {absorb? : σ → Directive → Except Refusal (Option σ)}
      {elsewhere : String → Bool} {start filled : σ}, Keyed absorb? kind →
      node.fill environment absorb? elsewhere start = .ok filled →
        node'.fill environment absorb? elsewhere start = .ok filled)
    (h : Added environment config node result) : Added environment config node' result := by
  have hnamed {τ : Type} {read read' : String → Except BuildError τ} {x : τ}
      (hread : ∀ {name x}, read name = .ok x → read' name = .ok x)
      (hx : node.requiredName >>= read = .ok x) : node'.requiredName >>= read' = .ok x := by
    obtain ⟨name, hrequired, hx⟩ := bind_eq_ok.1 hx
    rw [SectionNode.requiredName_eq_ok_iff, ← hname] at hrequired
    exact bind_eq_ok.2 ⟨name, SectionNode.requiredName_eq_ok_iff.2 hrequired, hread hx⟩
  have hsettled {σ τ : Type} {absorb? : σ → Directive → Except Refusal (Option σ)}
      {elsewhere : String → Bool} {start : String → σ} {settle : σ → Except BuildError τ}
      (hkeyed : Keyed absorb? kind) {x : τ} : node.requiredName >>= (fun name =>
        node.fill environment absorb? elsewhere (start name) >>= settle) = .ok x →
      node'.requiredName >>= (fun name =>
        node'.fill environment absorb? elsewhere (start name) >>= settle) = .ok x := by
    refine hnamed fun hx => ?_
    obtain ⟨filled, hfilled, hx⟩ := bind_eq_ok.1 hx
    exact bind_eq_ok.2 ⟨filled, hfill hkeyed hfilled, hx⟩
  cases h with
  | global hown hunnamed hnone hx =>
    rw [hown] at hmem
    exact .global (hkind.trans hown) (hname.trans hunnamed) hnone (hfill (Global.keyed hmem) hx)
  | defaults hown hnone hx =>
    rw [hown] at hmem
    refine .defaults (hkind.trans hown) hnone ?_
    rw [Defaults.ofNode, hname]
    exact hfill (keyed_of_body Takes.defaults hmem) hx
  | frontend hown hx =>
    rw [hown] at hmem
    exact .frontend (hkind.trans hown) (hsettled (keyed_of_body Takes.frontend hmem) hx)
  | backend hown hx =>
    rw [hown] at hmem
    exact .backend (hkind.trans hown) (hsettled (keyed_of_body Takes.backend hmem) hx)
  | listen hown hx =>
    rw [hown] at hmem
    exact .listen (hkind.trans hown) (hsettled (keyed_of_body Takes.listen hmem) hx)
  | resolvers hown hx =>
    rw [hown] at hmem
    exact .resolvers (hkind.trans hown) (hnamed (hfill (Resolvers.keyed hmem)) hx)
  | peers hown _ | mailers hown _ | script hown _ =>
    rw [hown] at hmem
    exact nomatch hmem

/-- Runs that end in the same results return the same. -/
theorem Ends₂.eq_ok_iff {α ε φ : Type} {E : ε → φ → Prop} {x : Except ε α} {y : Except φ α}
    (h : Ends₂ Eq E x y) {a : α} : x = .ok a ↔ y = .ok a := by
  cases h with
  | ok hab => simp [hab]
  | error _ => simp

namespace Configuration

variable {environment : Environment}

theorem addSection_split (config : Configuration) (node : SectionNode) {kind : String}
    (hkind : kind ∈ keyedBlocks node.kind) (before after : List Child)
    {parts : List (List (String × Expr))} (hnodup : (parts.flatten.map Prod.fst).Nodup)
    {result : Configuration} :
    config.addSection environment
        { node with children := before ++ [.block kind parts.flatten] ++ after } = .ok result ↔
      config.addSection environment
        { node with children := before ++ parts.map (.block kind) ++ after } = .ok result := by
  have hfill {σ : Type} {absorb? : σ → Directive → Except Refusal (Option σ)}
      {elsewhere : String → Bool} {start filled : σ} (hkeyed : Keyed absorb? kind) :
      SectionNode.fill { node with children := before ++ [.block kind parts.flatten] ++ after }
          environment absorb? elsewhere start = .ok filled ↔
        SectionNode.fill { node with children := before ++ parts.map (.block kind) ++ after }
          environment absorb? elsewhere start = .ok filled := by
    have hfills (children : List Child) :
        SectionNode.fill { node with children } environment absorb? elsewhere start = .ok filled ↔
          Fills environment node absorb? elsewhere children start filled :=
      SectionNode.fill_eq_ok_iff
    simp only [hfills, fills_append_iff, hkeyed.fills_iff hnodup]
  rw [addSection_eq_ok_iff, addSection_eq_ok_iff]
  constructor
  · exact Added.of_fill rfl rfl hkind fun hkeyed => (hfill hkeyed).1
  · exact Added.of_fill rfl rfl hkind fun hkeyed => (hfill hkeyed).2

/-- **Splitting a block changes nothing.** Two documents whose outlines differ in one block of
keys, which one of them has as a whole and the other one in parts, build the same configuration, or
neither builds. -/
theorem ofDocument_split {document document' : Document} {items items' : List Item}
    {kind block : String} {name : Option String} {before after : List Child}
    {parts : List (List (String × Expr))} (hblock : block ∈ keyedBlocks kind)
    (hnodup : (parts.flatten.map Prod.fst).Nodup)
    (hwhole : document.outline.items = items ++
      .block ⟨kind, name, before ++ [.block block parts.flatten] ++ after, none⟩ :: items')
    (hsplit : document'.outline.items = items ++
      .block ⟨kind, name, before ++ parts.map (.block block) ++ after, none⟩ :: items')
    (config : Configuration) :
    ofDocument environment document = .ok config ↔
      ofDocument environment document' = .ok config := by
  have houtline (document : Document) : ofDocument environment document = .ok config ↔
      document.outline.items.foldlM (addItem environment) {} = .ok config :=
    (buildsAlike_outline document).eq_ok_iff
  rw [houtline, houtline, hwhole, hsplit, List.foldlM_append, List.foldlM_append, bind_eq_ok,
    bind_eq_ok]
  refine exists_congr fun first => and_congr_right fun _ => ?_
  rw [List.foldlM_cons, List.foldlM_cons, bind_eq_ok, bind_eq_ok]
  exact exists_congr fun next => and_congr_left fun _ =>
    addSection_split first ⟨kind, name, [], none⟩ hblock before after hnodup

/-- The options of a frontend in one block, and in a list of three with an empty one among them;
the field that is read first stands in the last one. -/
theorem ofDocument_split_options :
    let clear : String × Expr := ("httplog", .literal (.boolean false))
    let plain : String × Expr := ("tcplog", .literal (.boolean true))
    let network : String × Expr := ("forwardfor", .literal (.text "10.0.0.0/8"))
    let options (pairs : List (String × Expr)) (position : Option Position) : ObjectNode :=
      ⟨"options", [], pairs.map fun (key, value) => .pair key value position, [], position⟩
    let frontend (child : Child) : Document :=
      ⟨[.block ⟨"frontend", some "web", [child], some ⟨1, 1⟩⟩]⟩
    ∃ config,
      ofDocument {} (frontend (.object (options [clear, plain, network] (some ⟨2, 3⟩)))) =
        .ok config ∧
      ofDocument {} (frontend (.list "options" [options [clear, plain] (some ⟨3, 1⟩),
        options [] none, options [network] none] (some ⟨2, 3⟩))) = .ok config ∧
      config.frontends.map (fun frontend => frontend.body.options.enabled) =
        [[.tcplog, .forwardfor]] := by
  intro clear plain network options frontend
  obtain ⟨config, hconfig, henabled⟩ : ∃ config,
      ofDocument {} (frontend (.object (options [clear, plain, network] (some ⟨2, 3⟩)))) =
        .ok config ∧
      config.frontends.map (fun frontend => frontend.body.options.enabled) =
        [[.tcplog, .forwardfor]] := ⟨_, rfl, by decide⟩
  have hwhole : (frontend (.object (options [clear, plain, network] (some ⟨2, 3⟩)))).outline.items =
      [] ++ .block ⟨"frontend", some "web",
        [] ++ [.block "options" [[clear, plain], [], [network]].flatten] ++ [], none⟩ :: [] := rfl
  have hparts : (frontend (.list "options" [options [clear, plain] (some ⟨3, 1⟩),
      options [] none, options [network] none] (some ⟨2, 3⟩))).outline.items =
      [] ++ .block ⟨"frontend", some "web",
        [] ++ [[clear, plain], [], [network]].map (.block "options") ++ [], none⟩ :: [] := rfl
  exact ⟨config, hconfig, (ofDocument_split (by decide) (by decide) hwhole hparts config).1 hconfig,
    henabled⟩

end Configuration

end Balancer
