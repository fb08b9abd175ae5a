import Balancer.Document.OfHcl
import Balancer.Proofs.Origins
import Balancer.Proofs.Relabelling
import Balancer.Proofs.Substitution

/-!
# What becomes of a label

The label of a block names a section, a condition, an address to listen on or a server. Labels are
plain: they are kept as they are when a document is read, and no marker in them is escaped. But
names are substituted like all texts of a configuration. So what a label comes to is its
substitution, under the variables of the document and, in a loop, the loop variable
(`Document.labels_of_compile`). A label stays as it is exactly when it is its own substitution, as
any text without markers is.

For the same reason a label can make compilation fail. One without markers never does: it can be
put in the place of any other name (`Balancer.Proofs.Relabelling`).
-/

namespace Balancer

/-! ### Labels of blocks -/

section Blocks

variable {place : Nat → Option Position}

theorem ObjectNode.labels_of_addStructure {node result : ObjectNode} {entry : Hcl.Structure}
    (h : node.addStructure place entry = .ok result) :
    result.kind = node.kind ∧ result.labels = node.labels := by
  cases entry <;>
    rw [ObjectNode.addStructure] at h <;> split at h
  case block.isTrue => cases h
  all_goals
    obtain ⟨_, -, h⟩ := bind_eq_ok.1 h
    cases h
    exact ⟨rfl, rfl⟩

/-- **An object has the labels of its block.** -/
theorem ObjectNode.labels_of_ofBlock {kind : String} {labels : List String}
    {body : List Hcl.Structure} {left : Nat} {object : ObjectNode}
    (h : ObjectNode.ofBlock place kind labels body left = .ok object) :
    object.kind = kind ∧ object.labels = labels := by
  rw [ObjectNode.ofBlock] at h
  have hkeeps (node : ObjectNode) (hnode : node.addStructures place body = .ok object) :
      object.kind = node.kind ∧ object.labels = node.labels := by
    clear h
    induction body generalizing node with
    | nil =>
      rw [ObjectNode.addStructures] at hnode
      cases hnode
      exact ⟨rfl, rfl⟩
    | cons entry body ih =>
      rw [ObjectNode.addStructures] at hnode
      obtain ⟨next, hnext, hnode⟩ := bind_eq_ok.1 hnode
      obtain ⟨hkind, hlabels⟩ := labels_of_addStructure hnext
      rw [← hkind, ← hlabels]
      exact ih next hnode
  exact hkeeps _ h

/-- **A section has the label of its block as its name.** -/
theorem SectionNode.name_of_ofBlock {kind : String} {labels : List String}
    {body : List Hcl.Structure} {left : Nat} {node : SectionNode}
    (h : SectionNode.ofBlock place kind labels body left = .ok node) :
    node.kind = kind ∧ node.name = labels.head? ∧ labels.length ≤ 1 := by
  rw [SectionNode.ofBlock] at h
  split at h
  · exact nomatch h
  · rename_i hlength
    obtain ⟨children, -, h⟩ := bind_eq_ok.1 h
    cases h
    exact ⟨rfl, rfl, Nat.le_of_not_lt hlength⟩

end Blocks

/-! ### Labels of objects -/

/-- Whatever a reader of fields returns has the property. -/
def FieldReader.Always {α : Type} (P : α → Prop) (reader : FieldReader α) : Prop :=
  ∀ fields a, reader.read fields = .ok a → P a

theorem FieldReader.Always.seq {α β : Type} {P : β → Prop} {f : FieldReader (α → β)}
    (h : f.Always fun g => ∀ a, P (g a)) (x : FieldReader α) : (f <*> x).Always P := by
  intro fields b hb
  obtain ⟨g, hg, hb⟩ := bind_eq_ok.1 hb
  obtain ⟨a, -, hb⟩ := bind_eq_ok.1 hb
  cases hb
  exact h fields g hg a

theorem FieldReader.Always.pure {α : Type} {P : α → Prop} {a : α} (h : P a) :
    (Pure.pure a : FieldReader α).Always P := by
  intro fields b hb
  cases hb
  exact h

theorem FieldReader.Always.readAll {α : Type} {P : α → Prop} {reader : FieldReader α}
    (h : reader.Always P) {fields : Fields} {a : α} (ha : reader.readAll fields = .ok a) : P a := by
  obtain ⟨b, hb, ha⟩ := bind_eq_ok.1 ha
  obtain ⟨-, -, ha⟩ := bind_eq_ok.1 ha
  cases ha
  exact h fields _ hb

theorem Fields.label_eq_ok_iff {fields : Fields} {what label : String} :
    fields.label what = .ok label ↔ fields.labels = [label] := by
  rw [Fields.label]
  split <;> simp_all

section Objects

variable {environment : Environment} {object : ObjectNode}

theorem labels_of_readAcl {acl : Acl} (h : readAcl environment object = .ok acl) :
    object.labels = [label acl] := by
  obtain ⟨fields, hfields, h⟩ := bind_eq_ok.1 h
  obtain ⟨name, hname, h⟩ := bind_eq_ok.1 h
  have hsame : acl.name = name := by
    refine FieldReader.Always.readAll (P := fun acl => acl.name = name) ?_ h
    repeat refine FieldReader.Always.seq ?_ _
    exact .pure fun _ _ _ => rfl
  rw [← (readFields_eq_ok hfields).1, Fields.label_eq_ok_iff.1 hname, ← hsame]
  rfl

theorem labels_of_readBind {bind : Bind} (h : readBind environment object = .ok bind) :
    object.labels = [label bind] := by
  obtain ⟨fields, hfields, h⟩ := bind_eq_ok.1 h
  obtain ⟨address, haddress, h⟩ := bind_eq_ok.1 h
  have hsame : bind.address = address := by
    refine FieldReader.Always.readAll (P := fun bind => bind.address = address) ?_ h
    repeat refine FieldReader.Always.seq ?_ _
    refine .pure ?_
    intros
    rfl
  rw [← (readFields_eq_ok hfields).1, Fields.label_eq_ok_iff.1 haddress, ← hsame]
  rfl

/-- A server with a label has it as its name. -/
theorem name_of_readServer {server : Server} (h : readServer environment object = .ok server)
    {label : String} (hlabel : object.labels = [label]) : server.name = label := by
  obtain ⟨fields, hfields, h⟩ := bind_eq_ok.1 h
  obtain ⟨written, -, hname⟩ := (Server.ofFields_eq_ok_iff.1 h).name
  have hlabels : fields.labels = [label] := (readFields_eq_ok hfields).1.trans hlabel
  cases written with
  | none =>
    simp only [Server.nameOf, hlabels] at hname
    exact (Except.ok.inj hname).symm
  | some _ => simp [Server.nameOf, hlabels] at hname

end Objects

/-! ### From labels to names -/

/-- **What a label comes to**: it is substituted like any text. -/
structure Names (lookup : String → Except NormalizeError Value) (label name : String) : Prop where
  substituted : interpolate lookup label = .ok name
  eq_iff : name = label ↔ interpolate lookup label = .ok label
  eq_of_unmarked : unmarked label → name = label

theorem Names.of_interpolate {lookup : String → Except NormalizeError Value} {label name : String}
    (h : interpolate lookup label = .ok name) : Names lookup label name where
  substituted := h
  eq_iff := by
    rw [h]
    exact ⟨congrArg _, Except.ok.inj⟩
  eq_of_unmarked hplain := Except.ok.inj (h.symm.trans (interpolate_of_unmarked hplain lookup))

section Labels

variable (environment : Environment) (scope : OrderedMap Value)

/-- The label of a section and its name. -/
def LabelsSection (node : SectionNode) (name : String) : Prop :=
  ∃ label, node.name = some label ∧ Names scope.lookupVariable label name

/-- The labels of the objects of a kind and their names. -/
def LabelsObjects (kind : String) (children : List Child) (names : List String) : Prop :=
  List.Forall₂ (fun object name => ∃ label, object.labels = [label] ∧
    Names scope.lookupVariable label name) (objectsOf kind children) names

/-- The labels of servers and their names. A server that has a name in its fields has no label. -/
def LabelsServers (children : List Child) (servers : List Server) : Prop :=
  ∃ origins, Origins environment scope children origins ∧
    List.Forall₂ (fun origin server => ∀ label, origin.object.labels = [label] →
      Names (origin.lookup scope) label server.name) origins servers

/-- **The labels of a document and the names in what it compiles to.** -/
structure Labels (items : List Item) (result : Configuration) : Prop where
  defaults : List.Forall₂
    (fun node d => LabelsObjects scope "acl" node.children (d.body.acls.map Acl.name))
    (sectionsOf "defaults" items) result.defaults.toList
  frontends : List.Forall₂
    (fun node f => LabelsSection scope node f.name ∧
      LabelsObjects scope "acl" node.children (f.body.acls.map Acl.name) ∧
      LabelsObjects scope "bind" node.children (f.intake.binds.map Bind.address))
    (sectionsOf "frontend" items) result.frontends
  backends : List.Forall₂
    (fun node b => LabelsSection scope node b.name ∧
      LabelsObjects scope "acl" node.children (b.body.acls.map Acl.name) ∧
      LabelsServers environment scope node.children b.pool.servers)
    (sectionsOf "backend" items) result.backends
  listens : List.Forall₂
    (fun node l => LabelsSection scope node l.name ∧
      LabelsObjects scope "acl" node.children (l.body.acls.map Acl.name) ∧
      LabelsObjects scope "bind" node.children (l.intake.binds.map Bind.address) ∧
      LabelsServers environment scope node.children l.pool.servers)
    (sectionsOf "listen" items) result.listens
  peers : List.Forall₂ (fun node p => LabelsSection scope node p.name)
    (sectionsOf "peers" items) result.peers
  resolvers : List.Forall₂ (fun node r => LabelsSection scope node r.name)
    (sectionsOf "resolvers" items) result.resolvers
  mailers : List.Forall₂ (fun node m => LabelsSection scope node m.name)
    (sectionsOf "mailers" items) result.mailers

variable {environment scope} {templates : OrderedMap Template}

/-- Objects that are read and then substituted, one by one. -/
theorem labelsObjects_of_agree {α : Type} [Strings α] [Texts α] [Labelled α] {kind : String}
    {children : List Child} {read : ObjectNode → Except BuildError α} {as bs : List α}
    (hread : (objectsOf kind children).mapM read = .ok as)
    (hlabels : ∀ object a, read object = .ok a → object.labels = [label a])
    (hagree : Agree (fun s t => interpolate scope.lookupVariable s = .ok t) as bs) :
    LabelsObjects scope kind children (bs.map label) := by
  rw [LabelsObjects, List.forall₂_map_right_iff]
  refine (forall₂_comp (mapM_eq_ok.1 hread) hagree).imp ?_
  rintro object b ⟨a, ha, hab⟩
  exact ⟨label a, hlabels object a ha, .of_interpolate (Labelled.agree_label hab)⟩

theorem ProxyBody.agree_acls {R : String → String → Prop} {body body' : ProxyBody}
    (h : Agree R body body') : Agree R body.acls body'.acls := by
  obtain ⟨-, -, -, -, -, -, -, -, -, -, -, hacls, -⟩ := h
  exact hacls

/-- The servers of a pool. -/
theorem labelsServers_of_normalize {children : List Child} {pool result : Pool}
    (hservers : (objectsOf "server" children).mapM (readServer environment) = .ok pool.servers)
    (hloops : (loopsOf children).mapM (readLoop environment) = .ok pool.loops)
    (hnormal : pool.normalize scope templates = .ok result) :
    LabelsServers environment scope children result.servers := by
  obtain ⟨origins, horigins, hbecomes⟩ := Pool.becomes_of_normalize hservers hloops hnormal
  refine ⟨origins, horigins, hbecomes.imp ?_⟩
  rintro origin server ⟨read, hread, hnormal⟩ label hlabel
  obtain ⟨substituted, hsubstituted, hexpand⟩ := bind_eq_ok.1 hnormal
  have hname := (Server.traverse_eq_ok_iff.1 hsubstituted).1
  rw [name_of_readServer hread hlabel] at hname
  -- templates leave the name alone
  rw [(Server.expand_eq_ok hexpand).2.name]
  exact .of_interpolate hname

/-- A section that is read and then substituted. -/
theorem labelsSection_of_interpolate {node : SectionNode} {label name : String}
    (hnode : node.name = some label) (hname : interpolate scope.lookupVariable label = .ok name) :
    LabelsSection scope node name :=
  ⟨label, hnode, .of_interpolate hname⟩

theorem Frontend.labels_of_traverse {node : SectionNode} {frontend result : Frontend}
    (hread : Frontend.ofNode environment node = .ok frontend)
    (h : Strings.traverse (interpolate scope.lookupVariable) frontend = .ok result) :
    LabelsSection scope node result.name ∧
      LabelsObjects scope "acl" node.children (result.body.acls.map Acl.name) ∧
      LabelsObjects scope "bind" node.children (result.intake.binds.map Bind.address) := by
  obtain ⟨hname, hacls, hbinds⟩ := Frontend.ofNode_eq_ok hread
  obtain ⟨hagree, hbody, hintake⟩ := (ends _ frontend).of_ok h
  exact ⟨labelsSection_of_interpolate hname hagree,
    labelsObjects_of_agree hacls (fun _ _ => labels_of_readAcl) (ProxyBody.agree_acls hbody),
    labelsObjects_of_agree hbinds (fun _ _ => labels_of_readBind) hintake.1⟩

theorem Backend.labels_of_normalize {node : SectionNode} {backend result : Backend}
    (hread : Backend.ofNode environment node = .ok backend)
    (h : backend.normalize scope templates = .ok result) :
    LabelsSection scope node result.name ∧
      LabelsObjects scope "acl" node.children (result.body.acls.map Acl.name) ∧
      LabelsServers environment scope node.children result.pool.servers := by
  obtain ⟨hname, hacls, hservers, hloops⟩ := Backend.ofNode_eq_ok hread
  obtain ⟨hsubstituted, hbody, hpool⟩ := Backend.normalize_eq_ok_iff.1 h
  exact ⟨labelsSection_of_interpolate hname hsubstituted,
    labelsObjects_of_agree hacls (fun _ _ => labels_of_readAcl)
      (ProxyBody.agree_acls ((ends _ backend.body).of_ok hbody)),
    labelsServers_of_normalize hservers hloops hpool⟩

theorem Listen.labels_of_normalize {node : SectionNode} {listen result : Listen}
    (hread : Listen.ofNode environment node = .ok listen)
    (h : listen.normalize scope templates = .ok result) :
    LabelsSection scope node result.name ∧
      LabelsObjects scope "acl" node.children (result.body.acls.map Acl.name) ∧
      LabelsObjects scope "bind" node.children (result.intake.binds.map Bind.address) ∧
      LabelsServers environment scope node.children result.pool.servers := by
  obtain ⟨hname, hacls, hbinds, hservers, hloops⟩ := Listen.ofNode_eq_ok hread
  obtain ⟨hsubstituted, hbody, hintake, hpool⟩ := Listen.normalize_eq_ok_iff.1 h
  exact ⟨labelsSection_of_interpolate hname hsubstituted,
    labelsObjects_of_agree hacls (fun _ _ => labels_of_readAcl)
      (ProxyBody.agree_acls ((ends _ listen.body).of_ok hbody)),
    labelsObjects_of_agree hbinds (fun _ _ => labels_of_readBind)
      (And.left ((ends _ listen.intake).of_ok hintake)),
    labelsServers_of_normalize hservers hloops hpool⟩

theorem Defaults.labels_of_traverse {node : SectionNode} {defaults result : Defaults}
    (hread : Defaults.ofNode environment node = .ok defaults)
    (h : Strings.traverse (interpolate scope.lookupVariable) defaults = .ok result) :
    LabelsObjects scope "acl" node.children (result.body.acls.map Acl.name) := by
  obtain ⟨name, -, h⟩ := bind_eq_ok.1 h
  obtain ⟨body, hbody, h⟩ := bind_eq_ok.1 h
  obtain ⟨pool, -, h⟩ := bind_eq_ok.1 h
  cases h
  exact labelsObjects_of_agree (Defaults.ofNode_eq_ok hread) (fun _ _ => labels_of_readAcl)
    (ProxyBody.agree_acls ((ends _ defaults.body).of_ok hbody))

/-- Substituting an optional part, seen as a list. -/
theorem traverse_toList {α ε : Type} [Strings α] {f : String → Except ε String} {a b : Option α}
    (h : Strings.traverse f a = .ok b) : Strings.traverse f a.toList = .ok b.toList := by
  cases a with
  | none =>
    cases h
    rfl
  | some x =>
    obtain ⟨y, hy, h⟩ := bind_eq_ok.1 h
    cases h
    exact mapM_eq_ok.2 (.cons hy .nil)

/-- Sections that are read, and their names substituted. -/
theorem labelsSections_of_traverse {α : Type} [Strings α] [Texts α] [LawfulStrings α] [Labelled α]
    {nodes : List SectionNode} {read : SectionNode → Except BuildError α} {as bs : List α}
    (hread : nodes.mapM read = .ok as)
    (hname : ∀ node a, read node = .ok a → node.name = some (label a))
    (h : Strings.traverse (interpolate scope.lookupVariable) as = .ok bs) :
    List.Forall₂ (fun node b => LabelsSection scope node (label b)) nodes bs := by
  refine (forall₂_comp (mapM_eq_ok.1 hread) (mapM_eq_ok.1 h)).imp ?_
  rintro node b ⟨a, ha, hab⟩
  exact labelsSection_of_interpolate (hname node a ha)
    (Labelled.agree_label ((ends _ a).of_ok hab))

end Labels

/-- **In what a document compiles to, each name is the substitution of its label.** -/
theorem Document.labels_of_compile {environment : Environment} {document : Document}
    {config result : Configuration}
    (hconfig : Configuration.ofDocument environment document = .ok config)
    (hnormal : config.normalize = .ok result) :
    ∃ scope, Resolver.resolve config.definitions = .ok scope ∧
      Labels environment scope document.items result := by
  have hassembled := Configuration.assembled_of_ofDocument hconfig
  obtain ⟨scope, hscope, hnormal⟩ := Configuration.normalize_eq_ok_iff.1 hnormal
  refine ⟨scope, hscope, ?_⟩
  constructor
  case defaults =>
    refine (forall₂_comp (mapM_eq_ok.1 hassembled.defaults)
      (mapM_eq_ok.1 (traverse_toList hnormal.defaults))).imp ?_
    rintro node d ⟨read, hread, hd⟩
    exact Defaults.labels_of_traverse hread hd
  case frontends =>
    refine (forall₂_comp (mapM_eq_ok.1 hassembled.frontends)
      (mapM_eq_ok.1 hnormal.frontends)).imp ?_
    rintro node f ⟨read, hread, hf⟩
    exact Frontend.labels_of_traverse hread hf
  case backends =>
    refine (forall₂_comp (mapM_eq_ok.1 hassembled.backends)
      (mapM_eq_ok.1 hnormal.backends)).imp ?_
    rintro node b ⟨read, hread, hb⟩
    exact Backend.labels_of_normalize hread hb
  case listens =>
    refine (forall₂_comp (mapM_eq_ok.1 hassembled.listens) (mapM_eq_ok.1 hnormal.listens)).imp ?_
    rintro node l ⟨read, hread, hl⟩
    exact Listen.labels_of_normalize hread hl
  case peers =>
    exact labelsSections_of_traverse hassembled.peers (fun _ _ => Peers.name_of_ofNode)
      hnormal.peers
  case resolvers =>
    exact labelsSections_of_traverse hassembled.resolvers (fun _ _ => Resolvers.name_of_ofNode)
      hnormal.resolvers
  case mailers =>
    exact labelsSections_of_traverse hassembled.mailers (fun _ _ => Mailers.name_of_ofNode)
      hnormal.mailers

/-- **Labels are kept when a document is read, and substituted when it is compiled.** A section and
an object have the labels of their blocks. Where the document compiles, the name that a label gives
is the substitution of the label, so it is the label itself exactly when that is its own
substitution, and always when it holds no marker. And a label without markers never makes
normalisation fail: where this succeeds under other names, it succeeds under those of the document,
if each of them that differs holds no marker. -/
theorem Document.compile_substitutes_labels {environment : Environment} {document : Document}
    {config : Configuration}
    (hconfig : Configuration.ofDocument environment document = .ok config) :
    (∀ place kind labels body left node,
        SectionNode.ofBlock place kind labels body left = .ok node →
          node.kind = kind ∧ node.name = labels.head? ∧ labels.length ≤ 1) ∧
      (∀ place kind labels body left object,
        ObjectNode.ofBlock place kind labels body left = .ok object →
          object.kind = kind ∧ object.labels = labels) ∧
      (∀ result, document.compile environment = .ok result →
        ∃ scope, Resolver.resolve config.definitions = .ok scope ∧
          Labels environment scope document.items result) ∧
      ∀ config' : Configuration, config'.Relabelled config → Returns config'.normalize →
        Returns (document.compile environment) := by
  have hcompile (result : Configuration) :
      document.compile environment = .ok result ↔ config.normalize = .ok result := by
    rw [compile_eq_ok_iff, hconfig]
    simp
  refine ⟨fun _ _ _ _ _ _ => SectionNode.name_of_ofBlock,
    fun _ _ _ _ _ _ => ObjectNode.labels_of_ofBlock, fun result hresult => ?_,
    fun config' hrelabelled hconfig' => ?_⟩
  · exact labels_of_compile hconfig ((hcompile result).1 hresult)
  · obtain ⟨result, hresult⟩ := hrelabelled.returns_normalize hconfig'
    exact ⟨result, (hcompile result).2 hresult⟩

/-- A document with markers in its labels, outside of a loop and in one. -/
def markedDocument : Document where
  items :=
    [.definition "site" (.literal (.text "web")) none,
      .block
        { kind := "listen"
          name := "$\x7bsite\x7d-in"
          children :=
            [.object ⟨"acl", ["$$\x7bplain\x7d"],
                [.pair "criterion" (.literal (.text "path")) none],
                [], none⟩,
              .loop ⟨"i", .list [.literal (.text "a"), .literal (.text "b")],
                [⟨"server", ["$\x7bsite\x7d-$\x7bi\x7d"],
                  [.pair "address" (.literal (.text "10.0.0.7")) none], [], none⟩], none⟩]
          position := none }]

/-- What it compiles to. -/
def markedListen : Configuration where
  listens :=
    [{ name := "web-in"
       body := { mode := some .http, acls := [⟨"$\x7bplain\x7d", "path", [], []⟩] }
       intake := {}
       pool :=
        { balance := some .roundRobin
          servers :=
            [{ name := "web-a", address := "10.0.0.7" },
              { name := "web-b", address := "10.0.0.7" }] } }]

theorem Document.compile_substitutes_labels_markedDocument :
    markedDocument.compile {} = .ok markedListen ∧
      ∃ config, Configuration.ofDocument {} markedDocument = .ok config ∧
        ∃ scope, Resolver.resolve config.definitions = .ok scope ∧
          Labels {} scope markedDocument.items markedListen := by
  have hcompile : markedDocument.compile {} = .ok markedListen := by cbv
  obtain ⟨config, hconfig, -⟩ := Document.compile_eq_ok_iff.1 hcompile
  obtain ⟨-, -, hlabels, -⟩ := Document.compile_substitutes_labels hconfig
  exact ⟨hcompile, config, hconfig, hlabels markedListen hcompile⟩

/-- **A label with a marker can make compilation fail**, although it is plain text. -/
theorem Document.label_is_not_kept :
    (do
      let document ← (Document.ofStructures (fun _ => none)
        [.block "backend" ["$\x7bx\x7d"] [] 0]).toOption
      return document.compile {}) = some (.error (.normalize (.undefinedVariable "x"))) := by
  cbv

end Balancer
