import Balancer.Proofs.Reading
import Balancer.Proofs.Reporting

/-!
# Where an error is reported

An error of assembly names a place in the source. The places that a document offers are the
positions of its nodes: of items, sections, children, lists, loops and objects, at any depth
(`Document.positions`). Assembly makes up no place of its own and loses none: an error stands at a
node inside the first item that cannot be taken in. So a document whose nodes all have a position
only fails with errors that have one (`Configuration.position_of_ofDocument`).

The position is chosen in three ways. Whatever is wrong with the fields of an object is reported
where the object stands (`ObjectKind.stopsAt_read`), since its readers report alike at every
position. What cannot be read at all is reported at the node in question, and what is read keeps the
position of its node (`stopsIn_readObject`, `readsIn_readChildren`). What a section refuses is
reported at the entry, or at the section if the entry has no position (`SectionNode.stopsAt_take`).
Two notions are enough to say this: `StopsAt` for a single position, and `StopsIn` for a set of
them.
-/

namespace Balancer

/-! ### The positions of a document -/

mutual

/-- **The positions of the nodes** of a child, its own first. -/
def Child.positions : Child → List (Option Position)
  | .pair _ _ position => [position]
  | .object node => node.positions
  | .list _ items position => position :: objectsPositions items
  | .loop ⟨_, _, body, position⟩ => position :: objectsPositions body

/-- The positions of the nodes of an object. -/
def ObjectNode.positions : ObjectNode → List (Option Position)
  | ⟨_, _, children, _, position⟩ => position :: childrenPositions children

/-- The positions of the nodes of children. -/
def childrenPositions : List Child → List (Option Position)
  | [] => []
  | child :: children => child.positions ++ childrenPositions children

/-- The positions of the nodes of objects. -/
def objectsPositions : List ObjectNode → List (Option Position)
  | [] => []
  | object :: objects => object.positions ++ objectsPositions objects

end

/-- The positions of the nodes of an item. -/
def Item.positions : Item → List (Option Position)
  | .definition _ _ position => [position]
  | .template _ children position => position :: childrenPositions children
  | .importFile _ position => [position]
  | .block node => node.position :: childrenPositions node.children

/-- **The positions of the nodes of a document.** -/
def Document.positions (document : Document) : List (Option Position) :=
  document.items.flatMap Item.positions

/-- **Every node has a position.** -/
def Document.Located (document : Document) : Prop :=
  ∀ position ∈ document.positions, position.isSome

instance (document : Document) : Decidable document.Located :=
  inferInstanceAs (Decidable (∀ position ∈ document.positions, position.isSome))

/-! ### Where a computation stops -/

section Stopping

variable {α : Type} {Site : Option Position → Prop} {position : Option Position}

/-- **The computation returns, or it stops at one of the sites.** -/
abbrev StopsIn (Site : Option Position → Prop) (x : Except BuildError α) : Prop :=
  Ends (fun _ => True) (fun e => Site e.position) x

/-- **The computation returns, or it stops at the position.** -/
abbrev StopsAt (position : Option Position) (x : Except BuildError α) : Prop :=
  StopsIn (· = position) x

theorem StopsAt.stopsIn {x : Except BuildError α} (hx : StopsAt position x)
    (hposition : Site position) : StopsIn Site x :=
  hx.mono_error fun _ he => he ▸ hposition

end Stopping

/-! ### Objects and expressions -/

section Objects

variable {α : Type}

theorem ReportsAlike.stopsAt {here there : Option Position} {x y : Except BuildError α}
    (h : ReportsAlike here there x y) : StopsAt here x :=
  h.ends fun _ _ he => he.1

/-- **The reader reports where the object stands.** -/
class FieldReader.Located (reader : FieldReader α) : Prop where
  stopsAt (fields : Fields) : StopsAt fields.position (reader.read fields)

instance (reader : FieldReader α) [reader.Uniform] : reader.Located :=
  ⟨fun fields => (FieldReader.alike_read fields none).stopsAt⟩

variable (fields : Fields)

theorem Fields.stopsAt_finish (known : List String) :
    StopsAt fields.position (fields.finish known) :=
  (fields.alike_finish none known).stopsAt

/-- **Whatever is wrong with the fields of an object is reported where it stands.** -/
theorem ObjectKind.stopsAt_read (kind : ObjectKind) (spreads : List String) :
    StopsAt fields.position (kind.read fields spreads) :=
  (kind.alike_read fields none spreads).stopsAt

theorem Server.stopsAt_ofFields (spreads : List String) :
    StopsAt fields.position (Server.ofFields fields spreads) :=
  (Server.alike_ofFields fields none spreads).stopsAt

/-- **A variable that is not set is reported where the expression stands.** -/
theorem Expr.stopsAt_evaluate (environment : Environment) (position : Option Position)
    (expr : Expr) : StopsAt position (expr.evaluate environment position) :=
  (expr.alike_evaluate environment position none).stopsAt

theorem Iterable.stopsAt_evaluate (environment : Environment) (position : Option Position)
    (iterable : Iterable) : StopsAt position (iterable.evaluate environment position) :=
  (iterable.alike_evaluate environment position none).stopsAt

theorem ObjectKind.stopsAt_precheck (kind : ObjectKind) (name : String) (labels : List String)
    (position : Option Position) : StopsAt position (kind.precheck name labels position) :=
  (kind.alike_precheck name labels position none).stopsAt

end Objects

/-! ### Reading -/

section Reading

variable {Site : Option Position → Prop} {environment : Environment}

/-- **The children are read, or they stop at one of the sites**, and every entry stands at one. -/
abbrev ReadsIn (Site : Option Position → Prop) (x : Except BuildError (List Entry)) : Prop :=
  Ends (fun entries => ∀ entry ∈ entries, Site entry.position) (fun e => Site e.position) x

theorem site_or {position fallback : Option Position} (hposition : Site position)
    (hfallback : Site fallback) : Site (position.or fallback) := by
  cases position with
  | none => exact hfallback
  | some _ => exact hposition

theorem Fields.ends_ofEntries {directive : String} {labels : List String}
    {position : Option Position} {entries : List Entry} (hposition : Site position)
    (hentries : ∀ entry ∈ entries, Site entry.position) :
    Ends (fun fields => fields.position = position) (fun e => Site e.position)
      (Fields.ofEntries directive labels position entries) := by
  have hpair : ∀ entry ∈ entries, StopsIn Site (Entry.pair directive position entry) := by
    intro entry hentry
    rw [Entry.pair]
    split
    · exact .ok trivial
    · exact .error (site_or (hentries entry hentry) hposition)
  exact (Ends.mapM_of_mem hpair).bind fun _ _ => .ok rfl

/-- An object stands at the first of its nodes. -/
theorem ObjectNode.site_position {object : ObjectNode}
    (h : ∀ position ∈ object.positions, Site position) : Site object.position := by
  obtain ⟨name, labels, children, spreads, position⟩ := object
  exact h position List.mem_cons_self

mutual

/-- **An object stops at one of its nodes.** -/
theorem stopsIn_readObject (object : ObjectNode)
    (h : ∀ position ∈ object.positions, Site position) :
    StopsIn Site (readObject environment object) := by
  match object with
  | ⟨name, labels, children, spreads, position⟩ =>
    rw [ObjectNode.positions, List.forall_mem_cons] at h
    obtain ⟨hposition, hchildren⟩ := h
    rw [readObject]
    cases ObjectKind.ofName? name with
    | none => exact .error hposition
    | some kind =>
      -- only the children can stop at another node: all other steps report where the object stands
      refine ((kind.stopsAt_precheck name labels position).stopsIn hposition).bind fun _ _ => ?_
      refine (readsIn_readChildren children hchildren).bind fun entries hentries => ?_
      refine (Fields.ends_ofEntries hposition hentries).bind fun fields hfields => ?_
      refine ((kind.stopsAt_read fields spreads).stopsIn (hfields ▸ hposition)).bind fun _ _ => ?_
      exact .guard hposition (.ok trivial)

theorem stopsIn_readServers {position : Option Position} (hposition : Site position)
    (items : List ObjectNode) (h : ∀ position ∈ objectsPositions items, Site position) :
    StopsIn Site (readServers environment position items) := by
  match items with
  | [] => exact .ok trivial
  | ⟨name, labels, children, spreads, own⟩ :: items =>
    rw [objectsPositions, ObjectNode.positions, List.forall_mem_append, List.forall_mem_cons] at h
    obtain ⟨⟨hown, hchildren⟩, hitems⟩ := h
    rw [readServers]
    -- what is no server is reported where it stands, or at the loop if it has no position
    refine .guard (site_or hown hposition) ?_
    refine (readsIn_readChildren children hchildren).bind fun entries hentries => ?_
    refine (Fields.ends_ofEntries hown hentries).bind fun fields hfields => ?_
    refine ((Server.stopsAt_ofFields fields spreads).stopsIn (hfields ▸ hown)).bind fun _ _ => ?_
    exact (stopsIn_readServers hposition items hitems).bind fun _ _ => .ok trivial

theorem readsIn_readItems {position : Option Position} (hposition : Site position)
    (items : List ObjectNode) (h : ∀ position ∈ objectsPositions items, Site position) :
    ReadsIn Site (readItems environment position items) := by
  match items with
  | [] => exact .ok (List.forall_mem_nil _)
  | item :: items =>
    rw [objectsPositions, List.forall_mem_append] at h
    obtain ⟨hitem, hitems⟩ := h
    refine (stopsIn_readObject item hitem).bind fun _ _ => ?_
    refine (readsIn_readItems hposition items hitems).bind fun rest hrest => ?_
    exact .ok (List.forall_mem_cons.2 ⟨site_or (ObjectNode.site_position hitem) hposition, hrest⟩)

theorem readsIn_readChild (child : Child) (h : ∀ position ∈ child.positions, Site position) :
    ReadsIn Site (readChild environment child) := by
  match child with
  | .pair key value position =>
    rw [Child.positions, List.forall_mem_singleton] at h
    refine ((value.stopsAt_evaluate environment position).stopsIn h).bind fun _ _ => ?_
    exact .ok (List.forall_mem_singleton.2 h)
  | .object ⟨name, labels, children, spreads, position⟩ =>
    rw [Child.positions] at h
    refine (stopsIn_readObject ⟨name, labels, children, spreads, position⟩ h).bind fun _ _ => ?_
    exact .ok (List.forall_mem_singleton.2 (ObjectNode.site_position h))
  | .list kind items position =>
    rw [Child.positions, List.forall_mem_cons] at h
    exact readsIn_readItems h.1 items h.2
  | .loop ⟨binder, iterable, body, position⟩ =>
    rw [Child.positions, List.forall_mem_cons] at h
    obtain ⟨hposition, hbody⟩ := h
    refine ((iterable.stopsAt_evaluate environment position).stopsIn hposition).bind fun _ _ => ?_
    refine (stopsIn_readServers hposition body hbody).bind fun _ _ => ?_
    exact .ok (List.forall_mem_singleton.2 hposition)

/-- **Children stop at one of their nodes**, and their entries stand at them. -/
theorem readsIn_readChildren (children : List Child)
    (h : ∀ position ∈ childrenPositions children, Site position) :
    ReadsIn Site (readChildren environment children) := by
  match children with
  | [] => exact .ok (List.forall_mem_nil _)
  | child :: children =>
    rw [childrenPositions, List.forall_mem_append] at h
    refine (readsIn_readChild child h.1).bind fun first hfirst => ?_
    refine (readsIn_readChildren children h.2).bind fun rest hrest => ?_
    exact .ok (List.forall_mem_append.2 ⟨hfirst, hrest⟩)

end

end Reading

/-! ### Sections -/

section Sections

variable {σ : Type} {Site : Option Position → Prop} {environment : Environment}
  {node : SectionNode} {absorb? : σ → Directive → Except Refusal (Option σ)}
  {elsewhere : String → Bool}

namespace SectionNode

theorem stopsAt_requiredName : StopsAt node.position node.requiredName := by
  rw [requiredName]
  split
  · exact .ok trivial
  · exact .error rfl

theorem position_refused (position : Option Position) (refusal : Refusal) :
    (node.refused position refusal).position = position.or node.position := by
  cases refusal with
  | field => rfl
  | fault => rfl

theorem position_leftover (entry : Entry) :
    (node.leftover elsewhere entry).position = entry.position.or node.position := by
  rw [leftover]
  split
  · split
    · rfl
    · rfl
  · rfl

/-- What a section refuses is reported at the entry or at the section. -/
theorem stopsAt_take (state : σ) (entry : Entry) :
    StopsAt (entry.position.or node.position) (node.take absorb? elsewhere state entry) := by
  rw [take]
  split
  · exact .error (position_refused ..)
  · exact .ok trivial
  · exact .error (position_leftover entry)

/-- **A section stops at one of its nodes.** -/
theorem stopsIn_fill (hposition : Site node.position)
    (hchildren : ∀ position ∈ childrenPositions node.children, Site position) (start : σ) :
    StopsIn Site (node.fill environment absorb? elsewhere start) := by
  refine (readsIn_readChildren node.children hchildren).bind fun entries hentries => ?_
  refine .foldlM (fun state _ entry hentry => ?_) trivial
  exact (stopsAt_take state entry).stopsIn (site_or (hentries entry hentry) hposition)

end SectionNode

variable (hposition : Site node.position)
  (hchildren : ∀ position ∈ childrenPositions node.children, Site position)

include hposition hchildren

theorem Script.stopsIn_ofNode : StopsIn Site (Script.ofNode environment node) := by
  refine (SectionNode.stopsAt_requiredName.stopsIn hposition).bind fun _ _ => ?_
  refine (readsIn_readChildren node.children hchildren).bind fun entries hentries => ?_
  refine (Fields.ends_ofEntries hposition hentries).bind fun fields hfields => ?_
  -- the fields stand where the section does, and the rest is read from them
  refine StopsAt.stopsIn ?_ (show Site fields.position from hfields ▸ hposition)
  refine (FieldReader.Located.stopsAt fields).bind fun _ _ => .guard rfl ?_
  refine (FieldReader.Located.stopsAt fields).bind fun _ _ => ?_
  refine (FieldReader.Located.stopsAt fields).bind fun _ _ => .guard rfl ?_
  exact (fields.stopsAt_finish _).bind fun _ _ => .ok trivial

/-- A configuration that cannot take in a section stops at one of the nodes of the section. -/
theorem Configuration.stopsIn_addSection (config : Configuration) :
    StopsIn Site (config.addSection environment node) := by
  have hname : StopsIn Site node.requiredName := SectionNode.stopsAt_requiredName.stopsIn hposition
  have hfill {σ : Type} {absorb? : σ → Directive → Except Refusal (Option σ)}
      {elsewhere : String → Bool} (start : σ) :
      StopsIn Site (node.fill environment absorb? elsewhere start) :=
    SectionNode.stopsIn_fill hposition hchildren start
  rw [addSection.eq_def]
  split
  case h_1 => exact .guard hposition (.guard hposition ((hfill _).bind fun _ _ => .ok trivial))
  case h_2 => exact .guard hposition ((hfill _).bind fun _ _ => .ok trivial)
  case h_3 | h_4 | h_5 =>
    refine Ends.bind (P := fun _ => True) ?_ fun _ _ => .ok trivial
    exact hname.bind fun _ _ => (hfill _).bind fun _ _ => .ok trivial
  case h_6 | h_7 | h_8 => exact (hname.bind fun _ _ => hfill _).bind fun _ _ => .ok trivial
  case h_9 => exact (Script.stopsIn_ofNode hposition hchildren).bind fun _ _ => .ok trivial
  case h_10 => exact .error hposition

end Sections

/-! ### Items and documents -/

theorem Template.stopsIn_ofChildren {Site : Option Position → Prop} {environment : Environment}
    {name : String} {children : List Child} {position : Option Position}
    (hposition : Site position)
    (hchildren : ∀ position ∈ childrenPositions children, Site position) :
    StopsIn Site (Template.ofChildren environment name children position) := by
  refine (readsIn_readChildren children hchildren).bind fun entries hentries => ?_
  refine (Fields.ends_ofEntries hposition hentries).bind fun fields hfields => ?_
  refine StopsAt.stopsIn ?_ (show Site fields.position from hfields ▸ hposition)
  exact (FieldReader.Located.stopsAt fields).bind fun _ _ => .guard rfl (.ok trivial)

namespace Configuration

variable {environment : Environment}

/-- **A configuration that cannot take in an item stops at one of the nodes of the item.** -/
theorem stopsIn_addItem (config : Configuration) (item : Item) :
    StopsIn (· ∈ item.positions) (config.addItem environment item) := by
  cases item with
  | definition name value position =>
    refine ((value.stopsAt_evaluate environment position).stopsIn ?_).bind fun _ _ => .ok trivial
    exact List.mem_cons_self
  | template name children position =>
    refine (Template.stopsIn_ofChildren ?_ fun p hp => ?_).bind fun _ _ => .ok trivial
    · exact List.mem_cons_self
    · exact List.mem_cons_of_mem position hp
  | importFile path position => exact .ok trivial
  | block node =>
    refine stopsIn_addSection ?_ (fun p hp => ?_) config
    · exact List.mem_cons_self
    · exact List.mem_cons_of_mem node.position hp

/-- **Errors are located.** Where every node of a document has a position, an error has one too,
and it is the position of a node: of one inside the first item that cannot be taken in. -/
theorem position_of_ofDocument {document : Document} (hlocated : document.Located) {e : BuildError}
    (h : ofDocument environment document = .error e) :
    ∃ position, e.position = some position ∧ some position ∈ document.positions ∧
      ∃ early item late config, document.items = early ++ item :: late ∧
        ofDocument environment ⟨early⟩ = .ok config ∧
        config.addItem environment item = .error e ∧ some position ∈ item.positions := by
  obtain ⟨early, item, late, config, hitems, hearly, hitem⟩ := foldlM_eq_error h
  have hsite : e.position ∈ item.positions := (stopsIn_addItem config item).of_error hitem
  have hmem : e.position ∈ document.positions :=
    List.mem_flatMap.2 ⟨item, hitems ▸ List.mem_append_right early List.mem_cons_self, hsite⟩
  obtain ⟨position, hposition⟩ := Option.isSome_iff_exists.1 (hlocated e.position hmem)
  rw [hposition] at hsite hmem
  exact ⟨position, hposition, hmem, early, item, late, config, hitems, hearly, hitem, hsite⟩

/-- A backend with a loop over a server whose address is read from the environment. -/
def borrowedAddress : Document where
  items :=
    [.definition "zone" (.literal (.text "eu")) (some ⟨1, 1⟩),
     .block
       { kind := "backend"
         name := some "app"
         children :=
           [.pair "balance" (.literal (.text "leastconn")) (some ⟨3, 3⟩),
            .loop
              { binder := "i"
                iterable := .range (.literal (.integer 1)) (.literal (.integer 3))
                body :=
                  [{ kind := "server"
                     labels := ["web"]
                     children := [.pair "address" (.env "WEB" none) (some ⟨6, 7⟩)]
                     spreads := []
                     position := some ⟨5, 5⟩ }]
                position := some ⟨4, 3⟩ }]
         position := some ⟨2, 1⟩ }]

theorem position_of_ofDocument_borrowedAddress :
    borrowedAddress.Located ∧
      ofDocument {} borrowedAddress = .error (.missingEnvironment "WEB" (some ⟨6, 7⟩)) ∧
      ∃ early item late config, borrowedAddress.items = early ++ item :: late ∧
        ofDocument {} ⟨early⟩ = .ok config ∧
        config.addItem {} item = .error (.missingEnvironment "WEB" (some ⟨6, 7⟩)) ∧
        some ⟨6, 7⟩ ∈ item.positions := by
  have hlocated : borrowedAddress.Located := by decide
  have herror :
      ofDocument {} borrowedAddress = .error (.missingEnvironment "WEB" (some ⟨6, 7⟩)) := by rfl
  obtain ⟨position, hposition, -, h⟩ := position_of_ofDocument hlocated herror
  cases hposition
  exact ⟨hlocated, herror, h⟩

end Configuration

end Balancer
