import Balancer.Entry.Reading
import Balancer.Proofs.Ends
import Balancer.Proofs.OrderedMap

/-!
# What the children of a section are read as

Reading goes through the children in order and makes entries of them. Two things about it are used
further on. The entries of one kind come from the objects of that kind, one from each and in order,
whether they stand on their own or in a list (`Selects.of_readChildren`); this file says so for
servers, conditions and addresses to listen on, and for loops. And the fields of an object are what
its pairs evaluate to (`readFields_eq_ok`), so that the last pair of a key counts.
-/

namespace Balancer

/-! ### The children of a kind -/

namespace Child

/-- The objects that a child stands for. -/
def objects : Child → List ObjectNode
  | object node => [node]
  | list _ items _ => items
  | _ => []

/-- The loop that a child is. -/
def loop? : Child → Option LoopNode
  | loop node => some node
  | _ => none

/-- The key, the value and the position of a pair. -/
def pair? : Child → Option (String × Expr × Option Position)
  | pair key value position => some (key, value, position)
  | _ => none

end Child

/-- **The objects of a kind** among the children, in order. -/
def objectsOf (kind : String) (children : List Child) : List ObjectNode :=
  (children.flatMap Child.objects).filter (·.kind = kind)

/-- The loops among the children, in order. -/
def loopsOf (children : List Child) : List LoopNode := children.filterMap Child.loop?

/-- The pairs among the children, in order. -/
def pairsOf (children : List Child) : List (String × Expr × Option Position) :=
  children.filterMap Child.pair?

namespace Directive

/-- The server that a directive is. -/
def server? : Directive → Option Server
  | server content => some content
  | _ => none

/-- The loop that a directive is. -/
def loop? : Directive → Option ServerLoop
  | loop content => some content
  | _ => none

/-- The condition that a directive is. -/
def acl? : Directive → Option Acl
  | acl content => some content
  | _ => none

/-- The address to listen on that a directive is. -/
def bind? : Directive → Option Bind
  | bind content => some content
  | _ => none

end Directive

/-! ### Objects -/

section Objects

variable (environment : Environment)

/-- The fields of an object. -/
def readFields (object : ObjectNode) : Except BuildError Fields := do
  Fields.ofEntries object.kind object.labels object.position
    (← readChildren environment object.children)

/-- **What an object is read as** by a reader of its fields. -/
def readAs {α : Type} (ofFields : Fields → List String → Except BuildError α)
    (object : ObjectNode) : Except BuildError α := do
  ofFields (← readFields environment object) object.spreads

/-- **The server that an object describes.** -/
def readServer : ObjectNode → Except BuildError Server := readAs environment Server.ofFields

variable {environment} {object : ObjectNode} {directive : Directive}

theorem readObject_eq_ok (h : readObject environment object = .ok directive) :
    ∃ kind fields, ObjectKind.ofName? object.kind = some kind ∧
      readFields environment object = .ok fields ∧
      kind.read fields object.spreads = .ok directive := by
  obtain ⟨name, labels, children, spreads, position⟩ := object
  rw [readObject] at h
  cases hkind : ObjectKind.ofName? name with
  | none =>
    rw [hkind] at h
    exact nomatch h
  | some kind =>
    rw [hkind] at h
    obtain ⟨-, -, h⟩ := bind_eq_ok.1 h
    obtain ⟨entries, hentries, h⟩ := bind_eq_ok.1 h
    obtain ⟨fields, hfields, h⟩ := bind_eq_ok.1 h
    obtain ⟨read, hread, h⟩ := bind_eq_ok.1 h
    have hread' : read = directive := by
      split at h
      · exact nomatch h
      · exact Except.ok.inj h
    exact ⟨kind, fields, rfl, bind_eq_ok.2 ⟨entries, hentries, hfields⟩, hread' ▸ hread⟩

/-- A kind is a family of rules, or one of the others with its name. -/
theorem ObjectKind.ofName?_cases {name : String} {kind : ObjectKind}
    (h : ofName? name = some kind) :
    (∃ family, RuleKind.ofDirective? name = some family ∧ kind = rule family) ∨
      (name, kind) ∈ named := by
  rw [ofName?] at h
  split at h
  · rename_i family hfamily
    exact .inl ⟨family, hfamily, (Option.some.inj h).symm⟩
  · obtain ⟨before, after, hnamed, -⟩ := List.lookup_eq_some_iff.1 h
    exact .inr (by simp [hnamed])

theorem RuleKind.directive_of_ofDirective? {name : String} {family : RuleKind}
    (h : ofDirective? name = some family) : family.directive = name := by
  rw [ofDirective?] at h
  simpa using List.find?_some h

theorem Rule.kind_of_ofFields {family : RuleKind} {fields : Fields} {rule : Rule}
    (h : Rule.ofFields family fields = .ok rule) : rule.kind = family := by
  obtain ⟨_, -, h⟩ := bind_eq_ok.1 h
  obtain ⟨_, -, h⟩ := bind_eq_ok.1 h
  obtain ⟨_, -, h⟩ := bind_eq_ok.1 h
  cases h
  rfl

/-- **An object is read as a directive of its own name.** -/
theorem ObjectKind.name_of_read {name : String} {kind : ObjectKind} {fields : Fields}
    {spreads : List String} (hname : ofName? name = some kind)
    (h : kind.read fields spreads = .ok directive) : directive.name = name := by
  obtain ⟨family, hfamily, rfl⟩ | hnamed := ofName?_cases hname
  · obtain ⟨rule, hrule, rfl⟩ := map_eq_ok.1 h
    rw [Directive.name, Rule.kind_of_ofFields hrule]
    exact RuleKind.directive_of_ofDirective? hfamily
  · cases kind with
    | rule family => simp [named] at hnamed
    | _ =>
      obtain ⟨_, -, rfl⟩ := map_eq_ok.1 h
      simpa [named, Directive.name, eq_comm] using hnamed

end Objects

/-! ### Entries of one kind -/

/-- **Directives of one kind**: `select` picks out the directives that objects of the kind are read
as, by `ofFields`, and no others. -/
structure Selects {α : Type} (kind : String) (select : Directive → Option α)
    (ofFields : Fields → List String → Except BuildError α) : Prop where
  own : ∃ own, ObjectKind.ofName? kind = some own ∧ ∀ fields spreads directive,
    own.read fields spreads = .ok directive →
      ∃ x, ofFields fields spreads = .ok x ∧ select directive = some x
  other : ∀ name other, ObjectKind.ofName? name = some other → name ≠ kind →
    ∀ fields spreads directive, other.read fields spreads = .ok directive → select directive = none
  pair : ∀ key value, select (.pair key value) = none
  loop : ∀ content, select (.loop content) = none

/-- **A kind of objects** that is read by `ofFields`, as directives made by `make`. -/
theorem Selects.of_make {α : Type} {kind : String} {select : Directive → Option α}
    {ofFields : Fields → List String → Except BuildError α} (own : ObjectKind)
    (make : α → Directive) (hown : ObjectKind.ofName? kind = some own)
    (hread : ∀ fields spreads, own.read fields spreads = make <$> ofFields fields spreads)
    (hname : ∀ x, (make x).name = kind) (hmake : ∀ x, select (make x) = some x)
    (honly : ∀ directive x, select directive = some x → directive = make x)
    (hpair : ∀ key value, select (.pair key value) = none)
    (hloop : ∀ content, select (.loop content) = none) : Selects kind select ofFields where
  own := by
    refine ⟨own, hown, fun fields spreads directive h => ?_⟩
    rw [hread] at h
    obtain ⟨x, hx, rfl⟩ := map_eq_ok.1 h
    exact ⟨x, hx, hmake x⟩
  other name other hother hne fields spreads directive h := by
    rw [Option.eq_none_iff_forall_ne_some]
    intro x hx
    obtain rfl := honly directive x hx
    exact hne ((ObjectKind.name_of_read hother h).symm.trans (hname x))
  pair := hpair
  loop := hloop

theorem selects_server : Selects "server" Directive.server? Server.ofFields := by
  refine .of_make .server .server rfl (fun _ _ => rfl) (fun _ => rfl) (fun _ => rfl) ?_
    (fun _ _ => rfl) fun _ => rfl
  rintro (_ | _) x h <;> cases h
  rfl

theorem selects_acl : Selects "acl" Directive.acl? fun fields _ => Acl.ofFields fields := by
  refine .of_make .acl .acl rfl (fun _ _ => rfl) (fun _ => rfl) (fun _ => rfl) ?_
    (fun _ _ => rfl) fun _ => rfl
  rintro (_ | _) x h <;> cases h
  rfl

theorem selects_bind : Selects "bind" Directive.bind? fun fields _ => Bind.ofFields fields := by
  refine .of_make .bind .bind rfl (fun _ _ => rfl) (fun _ => rfl) (fun _ => rfl) ?_
    (fun _ _ => rfl) fun _ => rfl
  rintro (_ | _) x h <;> cases h
  rfl

section Entries

variable {environment : Environment} {α : Type} {kind : String} {select : Directive → Option α}
  {ofFields : Fields → List String → Except BuildError α}

/-- The contents that `select` picks out of the entries, in order. -/
def selected (select : Directive → Option α) (entries : List Entry) : List α :=
  entries.filterMap fun entry => select entry.directive

theorem selected_cons (entry : Entry) (entries : List Entry) :
    selected select (entry :: entries) =
      (select entry.directive).toList ++ selected select entries := by
  rw [selected, List.filterMap_cons]
  cases h : select entry.directive <;> rfl

theorem selected_append (entries entries' : List Entry) :
    selected select (entries ++ entries') = selected select entries ++ selected select entries' :=
  List.filterMap_append

/-- What is selected of an object that has been read. -/
theorem Selects.of_readObject (hselects : Selects kind select ofFields) {object : ObjectNode}
    {directive : Directive} (h : readObject environment object = .ok directive) :
    ([object].filter (·.kind = kind)).mapM (readAs environment ofFields) =
      .ok (select directive).toList := by
  obtain ⟨found, fields, hfound, hfields, hread⟩ := readObject_eq_ok h
  by_cases hkind : object.kind = kind
  · obtain ⟨own, hown, hof⟩ := hselects.own
    obtain rfl : own = found := by
      rw [hkind, hown] at hfound
      exact Option.some.inj hfound
    obtain ⟨x, hx, hselect⟩ := hof _ _ _ hread
    have hreadAs : readAs environment ofFields object = .ok x :=
      bind_eq_ok.2 ⟨fields, hfields, hx⟩
    simp [hkind, hselect, hreadAs]
  · rw [hselects.other _ _ hfound hkind _ _ _ hread]
    simp [hkind]

/-- The items of a list, read one after the other. -/
theorem Selects.of_readItems (hselects : Selects kind select ofFields) {position : Option Position}
    {items : List ObjectNode} {entries : List Entry}
    (h : readItems environment position items = .ok entries) :
    (items.filter (·.kind = kind)).mapM (readAs environment ofFields) =
      .ok (selected select entries) := by
  induction items generalizing entries with
  | nil =>
    rw [readItems] at h
    cases h
    rfl
  | cons item items ih =>
    rw [readItems] at h
    obtain ⟨directive, hdirective, h⟩ := bind_eq_ok.1 h
    obtain ⟨rest, hrest, h⟩ := bind_eq_ok.1 h
    cases h
    rw [← List.singleton_append, List.filter_append, selected_cons]
    exact mapM_append_eq_ok (hselects.of_readObject hdirective) (ih hrest)

/-- One child. -/
theorem Selects.of_readChild (hselects : Selects kind select ofFields) {child : Child}
    {entries : List Entry} (h : readChild environment child = .ok entries) :
    (child.objects.filter (·.kind = kind)).mapM (readAs environment ofFields) =
      .ok (selected select entries) := by
  cases child with
  | pair key value position =>
    rw [readChild] at h
    obtain ⟨v, -, h⟩ := bind_eq_ok.1 h
    cases h
    simp [selected, hselects.pair, Child.objects]
  | object node =>
    obtain ⟨name, labels, children, spreads, position⟩ := node
    rw [readChild] at h
    obtain ⟨directive, hdirective, h⟩ := bind_eq_ok.1 h
    cases h
    rw [selected_cons, selected, List.filterMap_nil, List.append_nil]
    exact hselects.of_readObject hdirective
  | list _ items position =>
    rw [readChild] at h
    exact hselects.of_readItems h
  | loop node =>
    obtain ⟨binder, iterable, body, position⟩ := node
    rw [readChild] at h
    obtain ⟨values, -, h⟩ := bind_eq_ok.1 h
    obtain ⟨servers, -, h⟩ := bind_eq_ok.1 h
    cases h
    simp [selected, hselects.loop, Child.objects]

theorem readChildren_cons_eq_ok_iff {child : Child} {children : List Child}
    {entries : List Entry} :
    readChildren environment (child :: children) = .ok entries ↔
      ∃ first rest, readChild environment child = .ok first ∧
        readChildren environment children = .ok rest ∧ entries = first ++ rest := by
  rw [readChildren]
  simp only [bind_eq_ok, pure_eq_ok_iff]
  constructor
  · rintro ⟨first, hfirst, rest, hrest, rfl⟩
    exact ⟨first, rest, hfirst, hrest, rfl⟩
  · rintro ⟨first, rest, hfirst, hrest, rfl⟩
    exact ⟨first, hfirst, rest, hrest, rfl⟩

/-- **The entries of a kind come from the objects of that kind**, one from each and in order. -/
theorem Selects.of_readChildren (hselects : Selects kind select ofFields) {children : List Child}
    {entries : List Entry} (h : readChildren environment children = .ok entries) :
    (objectsOf kind children).mapM (readAs environment ofFields) =
      .ok (selected select entries) := by
  induction children generalizing entries with
  | nil =>
    rw [readChildren] at h
    cases h
    rfl
  | cons child children ih =>
    obtain ⟨first, rest, hfirst, hrest, rfl⟩ := readChildren_cons_eq_ok_iff.1 h
    rw [objectsOf, List.flatMap_cons, List.filter_append, selected_append]
    exact mapM_append_eq_ok (hselects.of_readChild hfirst) (ih hrest)

/-! ### Loops -/

variable (environment) in
/-- **The loop over servers that a loop describes.** -/
def readLoop (node : LoopNode) : Except BuildError ServerLoop := do
  let values ← node.iterable.evaluate environment node.position
  let servers ← readServers environment node.position node.body
  return ⟨node.binder, values, servers⟩

/-- No object is read as a loop. -/
theorem loop?_of_readObject {object : ObjectNode} {directive : Directive}
    (h : readObject environment object = .ok directive) : directive.loop? = none := by
  obtain ⟨kind, fields, -, -, hread⟩ := readObject_eq_ok h
  cases kind <;>
    · obtain ⟨_, -, rfl⟩ := map_eq_ok.1 hread
      rfl

theorem loop?_of_readItems {position : Option Position} {items : List ObjectNode}
    {entries : List Entry} (h : readItems environment position items = .ok entries) :
    selected Directive.loop? entries = [] := by
  induction items generalizing entries with
  | nil =>
    rw [readItems] at h
    cases h
    rfl
  | cons item items ih =>
    rw [readItems] at h
    obtain ⟨directive, hdirective, h⟩ := bind_eq_ok.1 h
    obtain ⟨rest, hrest, h⟩ := bind_eq_ok.1 h
    cases h
    rw [selected_cons, loop?_of_readObject hdirective, ih hrest]
    rfl

/-- **The loops come from the loops among the children**, in order. -/
theorem loops_of_readChildren {children : List Child} {entries : List Entry}
    (h : readChildren environment children = .ok entries) :
    (loopsOf children).mapM (readLoop environment) = .ok (selected Directive.loop? entries) := by
  induction children generalizing entries with
  | nil =>
    rw [readChildren] at h
    cases h
    rfl
  | cons child children ih =>
    obtain ⟨first, rest, hfirst, hrest, rfl⟩ := readChildren_cons_eq_ok_iff.1 h
    rw [selected_append]
    cases child with
    | pair key value position =>
      rw [readChild] at hfirst
      obtain ⟨v, -, hfirst⟩ := bind_eq_ok.1 hfirst
      cases hfirst
      exact ih hrest
    | object node =>
      obtain ⟨name, labels, children, spreads, position⟩ := node
      rw [readChild] at hfirst
      obtain ⟨directive, hdirective, hfirst⟩ := bind_eq_ok.1 hfirst
      cases hfirst
      rw [selected_cons, loop?_of_readObject hdirective]
      exact ih hrest
    | list _ items position =>
      rw [readChild] at hfirst
      rw [loop?_of_readItems hfirst]
      exact ih hrest
    | loop node =>
      obtain ⟨binder, iterable, body, position⟩ := node
      rw [readChild] at hfirst
      obtain ⟨values, hvalues, hfirst⟩ := bind_eq_ok.1 hfirst
      obtain ⟨servers, hservers, hfirst⟩ := bind_eq_ok.1 hfirst
      cases hfirst
      have hloop : readLoop environment ⟨binder, iterable, body, position⟩ =
          .ok ⟨binder, values, servers⟩ :=
        bind_eq_ok.2 ⟨values, hvalues, bind_eq_ok.2 ⟨servers, hservers, rfl⟩⟩
      exact mapM_append_eq_ok (mapM_eq_ok.2 (.cons hloop .nil)) (ih hrest)

/-- The body of a loop is read server by server. -/
theorem readServers_eq_ok_iff {position : Option Position} {body : List ObjectNode}
    {servers : List Server} :
    readServers environment position body = .ok servers ↔
      (∀ object ∈ body, object.kind = "server") ∧
        body.mapM (readServer environment) = .ok servers := by
  induction body generalizing servers with
  | nil => simp [readServers, pure, Except.pure]
  | cons object body ih =>
    obtain ⟨name, labels, children, spreads, own⟩ := object
    rw [readServers, List.mapM_cons, List.forall_mem_cons]
    by_cases hname : name = "server"
    · have hserver : readServer environment ⟨name, labels, children, spreads, own⟩ =
          (do
            let fields ← Fields.ofEntries name labels own (← readChildren environment children)
            Server.ofFields fields spreads) := by
        rw [readServer, readAs, readFields, bind_assoc]
      simp only [hname, ne_eq, not_true_eq_false, if_false, true_and]
      rw [← hname, hserver]
      simp only [bind_assoc, bind_eq_ok, ih, pure_eq_ok_iff]
      grind
    · simp [hname]

/-! ### Fields -/

variable (environment) in
/-- The named value that a pair gives. -/
def readPair : String × Expr × Option Position → Except BuildError (String × Value) :=
  OrderedMap.readNamed fun _ (value, position) => value.evaluate environment position

/-- No object is read as a pair. -/
theorem pair_of_readObject {object : ObjectNode} {directive : Directive}
    (h : readObject environment object = .ok directive) (kind : String)
    (position place : Option Position) (entry : String × Value) :
    Entry.pair kind position ⟨directive, place⟩ ≠ .ok entry := by
  obtain ⟨found, fields, -, -, hread⟩ := readObject_eq_ok h
  cases found <;>
    · obtain ⟨_, -, rfl⟩ := map_eq_ok.1 hread
      simp [Entry.pair]

/-- The entries of an object are those of its pairs; nothing else can stand there. -/
theorem pairs_of_readChildren {children : List Child} {entries : List Entry} {kind : String}
    {position : Option Position} {pairs : List (String × Value)}
    (h : readChildren environment children = .ok entries)
    (hpairs : entries.mapM (Entry.pair kind position) = .ok pairs) :
    (pairsOf children).mapM (readPair environment) = .ok pairs := by
  induction children generalizing entries pairs with
  | nil =>
    rw [readChildren] at h
    cases h
    exact hpairs
  | cons child children ih =>
    obtain ⟨first, rest, hfirst, hrest, rfl⟩ := readChildren_cons_eq_ok_iff.1 h
    rw [List.mapM_append] at hpairs
    obtain ⟨own, hown, hpairs⟩ := bind_eq_ok.1 hpairs
    obtain ⟨others, hothers, hpairs⟩ := bind_eq_ok.1 hpairs
    cases hpairs
    cases child with
    | pair key value place =>
      rw [readChild] at hfirst
      obtain ⟨v, hv, hfirst⟩ := bind_eq_ok.1 hfirst
      cases hfirst
      cases hown
      have hpair : readPair environment (key, value, place) = .ok (key, v) :=
        OrderedMap.readNamed_eq_ok_iff.2 ⟨rfl, hv⟩
      exact mapM_append_eq_ok (mapM_eq_ok.2 (.cons hpair .nil)) (ih hrest hothers)
    | object node =>
      obtain ⟨name, labels, inner, spreads, place⟩ := node
      rw [readChild] at hfirst
      obtain ⟨directive, hdirective, hfirst⟩ := bind_eq_ok.1 hfirst
      cases hfirst
      cases mapM_eq_ok.1 hown with
      | cons hentry _ => exact absurd hentry (pair_of_readObject hdirective _ _ _ _)
    | list _ items place =>
      rw [readChild] at hfirst
      cases items with
      | nil =>
        rw [readItems] at hfirst
        cases hfirst
        cases hown
        exact ih hrest hothers
      | cons item items =>
        rw [readItems] at hfirst
        obtain ⟨directive, hdirective, hfirst⟩ := bind_eq_ok.1 hfirst
        obtain ⟨_, -, hfirst⟩ := bind_eq_ok.1 hfirst
        cases hfirst
        cases mapM_eq_ok.1 hown with
        | cons hentry _ => exact absurd hentry (pair_of_readObject hdirective _ _ _ _)
    | loop node =>
      obtain ⟨binder, iterable, body, place⟩ := node
      rw [readChild] at hfirst
      obtain ⟨values, -, hfirst⟩ := bind_eq_ok.1 hfirst
      obtain ⟨servers, -, hfirst⟩ := bind_eq_ok.1 hfirst
      cases hfirst
      exact nomatch hown

/-- **The fields of an object are what its pairs evaluate to.** -/
theorem readFields_eq_ok {object : ObjectNode} {fields : Fields}
    (h : readFields environment object = .ok fields) :
    fields.labels = object.labels ∧
      ∃ pairs, (pairsOf object.children).mapM (readPair environment) = .ok pairs ∧
        fields.entries = .ofList pairs := by
  obtain ⟨entries, hentries, h⟩ := bind_eq_ok.1 h
  obtain ⟨pairs, hpairs, h⟩ := bind_eq_ok.1 h
  cases h
  exact ⟨rfl, pairs, pairs_of_readChildren hentries hpairs, rfl⟩

/-- What is found in the fields is the value of the last pair of that key. -/
theorem get?_of_readFields {object : ObjectNode} {fields : Fields}
    (h : readFields environment object = .ok fields) (key : String) :
    (OrderedMap.lastOf key (pairsOf object.children)).mapM
        (fun (value, position) => value.evaluate environment position) =
      .ok (fields.entries.get? key) := by
  obtain ⟨-, pairs, hpairs, hentries⟩ := readFields_eq_ok h
  rw [hentries, OrderedMap.get?_ofList]
  exact OrderedMap.lastOf_of_readNamed hpairs key

end Entries

end Balancer
