import Balancer.Proofs.Escaping
import Balancer.Proofs.Origins
import Balancer.Proofs.Solution

/-!
# Plain text arrives as it was written

A plain text is escaped once when it is read, and wherever it goes from there it is substituted
once, which undoes the escaping. The places where this happens differ: a text that is written on a
server is substituted with the server, the value of a variable when the variable is resolved, an
item of a list when a loop runs over the list, and a parameter of a template when a server takes
the template over. So there are several ways in which a text can be given to a field of a server
(`Given`), and in each of them the server ends up with that very text
(`Document.compile_keeps_plain_text`), whatever markers and braces it holds.

A variable is given to a field by a reference to it, under a name that an expression can hold; which
variables have one is the matter of `Balancer.Proofs.Naming`. And a text that is given is not one
that another text is preferred to. Inside a loop, the loop variable comes before a variable of the
same name; what is written on a server comes before its templates, and an earlier template before a
later one (`Document.plain_text_gives_way`).
-/

namespace Balancer

/-! ### Texts of a server -/

/-- The text in a slot. -/
def SlotType.text? : (type : SlotType) → Option type.Carrier → Option String
  | .text, content => content
  | _, _ => none

/-- **A field of a server that holds a text.** -/
inductive TextField where
  | name
  | address
  | parameter (p : Parameter) (h : p.type = .text)

/-- The key of a field. -/
def TextField.key : TextField → String
  | name => "name"
  | address => "address"
  | parameter p _ => p.key

/-- The text in a field. -/
def Server.text? (server : Server) : TextField → Option String
  | .name => some server.name
  | .address => some server.address
  | .parameter p _ => p.type.text? (server.get p)

namespace SlotType

theorem text?_convert {type : SlotType} (h : type = .text) {key s : String} {x : type.Carrier}
    (hx : type.convert key (.text s) = .ok x) : type.text? (some x) = some s := by
  subst h
  cases hx
  rfl

theorem exists_convert {type : SlotType} (h : type = .text) (key s : String) :
    ∃ x, type.convert key (.text s) = .ok x := by
  subst h
  exact ⟨s, rfl⟩

theorem text?_of_agree {type : SlotType} {R : String → String → Prop}
    {a b : Option type.Carrier} (h : Agree R a b) {s : String} (hs : type.text? a = some s) :
    ∃ t, type.text? b = some t ∧ R s t := by
  cases type with
  | text =>
    cases h with
    | none => exact nomatch hs
    | some h =>
      cases hs
      exact ⟨_, rfl, h⟩
  | _ => exact nomatch hs

theorem text?_or {type : SlotType} {a b : Option type.Carrier} {s : String}
    (hs : type.text? a = some s) : type.text? (a.or b) = some s := by
  cases type with
  | text =>
    cases hs
    rfl
  | _ => exact nomatch hs

end SlotType

section Servers

variable {environment : Environment} {scope : OrderedMap Value} {templates : OrderedMap Template}
  {object : ObjectNode} {read server result : Server} {field : TextField} {s t : String}

/-- A text that is written on a server is read into its field. -/
theorem text?_of_readServer (h : readServer environment object = .ok read) {value : Expr}
    {position : Option Position}
    (hpair : OrderedMap.lastOf field.key (pairsOf object.children) = some (value, position))
    (hvalue : value.evaluate environment position = .ok (.text s)) :
    read.text? field = some s := by
  obtain ⟨fields, hfields, h⟩ := bind_eq_ok.1 h
  have hread := Server.ofFields_eq_ok_iff.1 h
  have hget : fields.entries.get? field.key = some (.text s) := by
    have hlast := get?_of_readFields hfields field.key
    rw [optionMapM_eq_ok_some_iff.2 ⟨(value, position), hpair, hvalue⟩] at hlast
    exact (Except.ok.inj hlast).symm
  cases field with
  | name =>
    obtain ⟨written, hwritten, hname⟩ := hread.name
    rw [show fields.entries.get? "name" = some (.text s) from hget] at hwritten
    cases hwritten
    -- a server with a name in its fields has no label
    unfold Server.nameOf at hname
    split at hname <;> simp_all [Server.text?]
  | address =>
    have haddress := hread.address
    rw [show fields.entries.get? "address" = some (.text s) from hget] at haddress
    exact (Except.ok.inj haddress).symm
  | parameter p hp =>
    have hparameter := hread.parameters p
    rw [show fields.entries.get? p.key = some (.text s) from hget] at hparameter
    obtain ⟨x, hx⟩ := SlotType.exists_convert hp p.key s
    have hset : read.get p = some x := by
      rw [Option.mapM_some, Parameter.convert, hx] at hparameter
      exact (Except.ok.inj hparameter).symm
    rw [Server.text?, hset]
    exact SlotType.text?_convert hp hx

/-- A parameter that is not written on a server is unset. -/
theorem get_of_readServer (h : readServer environment object = .ok read) {p : Parameter}
    (hpair : OrderedMap.lastOf p.key (pairsOf object.children) = none) : read.get p = none := by
  obtain ⟨fields, hfields, h⟩ := bind_eq_ok.1 h
  have hparameter := (Server.ofFields_eq_ok_iff.1 h).parameters p
  have hlast := get?_of_readFields hfields p.key
  rw [hpair] at hlast
  rw [← Except.ok.inj hlast] at hparameter
  exact (Except.ok.inj hparameter).symm

/-- Substitution goes through the fields with texts. -/
theorem text?_of_traverse {f : String → Except NormalizeError String}
    (h : Strings.traverse f server = .ok result) (hs : server.text? field = some s) :
    ∃ t, result.text? field = some t ∧ f s = .ok t := by
  obtain ⟨hname, haddress, -, hparameters⟩ := Server.traverse_eq_ok_iff.1 h
  cases field with
  | name =>
    cases hs
    exact ⟨_, rfl, hname⟩
  | address =>
    cases hs
    exact ⟨_, rfl, haddress⟩
  | parameter p _ => exact SlotType.text?_of_agree (hparameters p) hs

/-- Templates leave alone what is set. -/
theorem text?_of_expand (h : server.expand scope templates = .ok result)
    (hs : server.text? field = some s) : result.text? field = some s := by
  obtain ⟨-, hfilled⟩ := Server.expand_eq_ok h
  cases field with
  | name => exact (congrArg some hfilled.name).trans hs
  | address => exact (congrArg some hfilled.address).trans hs
  | parameter p _ =>
    rw [Server.text?, hfilled.parameters]
    exact SlotType.text?_or hs

/-- **A text on a server is substituted once.** -/
theorem Becomes.text? {origin : Origin} (h : Becomes environment scope templates origin server)
    {value : Expr} {position : Option Position}
    (hpair : OrderedMap.lastOf field.key (pairsOf origin.object.children) = some (value, position))
    (hvalue : value.evaluate environment position = .ok (.text s))
    (hs : interpolate (origin.lookup scope) s = .ok t) : server.text? field = some t := by
  obtain ⟨read, hread, hnormal⟩ := h
  obtain ⟨substituted, hsubstituted, hexpand⟩ := bind_eq_ok.1 hnormal
  obtain ⟨t', ht', hst'⟩ := text?_of_traverse hsubstituted (text?_of_readServer hread hpair hvalue)
  cases hs.symm.trans hst'
  exact text?_of_expand hexpand ht'

/-- **A text in a template is substituted once**, when the template is taken over. -/
theorem Becomes.text?_of_firstValue? {origin : Origin}
    (h : Becomes environment scope templates origin server) {p : Parameter} (hp : p.type = .text)
    (hpair : OrderedMap.lastOf p.key (pairsOf origin.object.children) = none)
    (hvalue : firstValue? templates origin.object.spreads p.key = some (.text s))
    (hs : interpolateValue scope.lookupVariable (.text s) = .ok (.text t)) :
    server.text? (.parameter p hp) = some t := by
  obtain ⟨read, hread, hnormal⟩ := h
  obtain ⟨substituted, hsubstituted, hexpand⟩ := bind_eq_ok.1 hnormal
  obtain ⟨-, -, hspreads, hparameters⟩ := Server.traverse_eq_ok_iff.1 hsubstituted
  obtain ⟨-, hfilled⟩ := Server.expand_eq_ok hexpand
  have hunset : substituted.get p = none := by
    have hagree := hparameters p
    rw [get_of_readServer hread hpair] at hagree
    exact eq_none_of_agree hagree
  have horigin : substituted.spreads = origin.object.spreads := by
    obtain ⟨fields, -, hfields⟩ := bind_eq_ok.1 hread
    rw [hspreads, (Server.ofFields_eq_ok_iff.1 hfields).spreads]
  obtain ⟨x, hx⟩ := SlotType.exists_convert hp p.key t
  have htake : p.take? scope (.text s) = some x := by
    rw [Parameter.take?, hs]
    exact congrArg Except.toOption hx
  have hget : server.get p = some x := by
    rw [hfilled.parameters, horigin, hvalue, Option.bind_some, htake]
    exact congrArg (Option.or · (some x)) hunset
  rw [Server.text?, hget]
  exact SlotType.text?_convert hp hx

end Servers

/-! ### Ways to give a text -/

/-- A plain text in a document. -/
def IsPlain (s : String) (value : Expr) : Prop :=
  ∃ position, Expr.ofHcl position (.text s) = .ok value

/-- A text in a document that is a reference to a variable and nothing else. -/
def IsReference (name : String) (value : Expr) : Prop :=
  ∃ position, Expr.ofHcl position (.template (reference name)) = .ok value

/-- **The ways to give a text to a field** of the server with an origin. -/
inductive Given (items : List Item) (origin : Origin) (s : String) : TextField → Prop
  /-- It is written on the server, outside of a loop or in one. -/
  | written {field : TextField} {value : Expr} {position : Option Position}
    (hpair : OrderedMap.lastOf field.key (pairsOf origin.object.children) = some (value, position))
    (hplain : IsPlain s value) : Given items origin s field
  /-- It is the value of a variable, and the server refers to the variable. -/
  | definition {field : TextField} {name : String} {value declared : Expr}
    {position place : Option Position}
    (hpair : OrderedMap.lastOf field.key (pairsOf origin.object.children) = some (value, position))
    (hreference : IsReference name value) (hname : isName name)
    (hround : ∀ round, origin.round = some round → round.loop.binder ≠ name)
    (hdeclared : OrderedMap.lastOf name (definitionsOf items) = some (declared, place))
    (hplain : IsPlain s declared) : Given items origin s field
  /-- It is an item of the list that a loop runs over, and the server refers to the loop
  variable. -/
  | item {field : TextField} {round : Round} {value entry : Expr} {entries : List Expr}
    {position : Option Position}
    (hpair : OrderedMap.lastOf field.key (pairsOf origin.object.children) = some (value, position))
    (hround : origin.round = some round)
    (hreference : IsReference round.loop.binder value) (hname : isName round.loop.binder)
    (hlist : round.loop.iterable = .list entries) (hentry : entries[round.index]? = some entry)
    (hplain : IsPlain s entry) : Given items origin s field
  /-- It is in a template, the first with the parameter, and the server does not set it. -/
  | template {p : Parameter} {hp : p.type = .text} {value : Expr} {position : Option Position}
    (hunset : OrderedMap.lastOf p.key (pairsOf origin.object.children) = none)
    (hpair : firstPair? items origin.object.spreads p.key = some (value, position))
    (hplain : IsPlain s value) : Given items origin s (.parameter p hp)

theorem IsPlain.evaluate {s : String} {value : Expr} (h : IsPlain s value)
    (environment : Environment) (position : Option Position) :
    value.evaluate environment position = .ok (.text (escape s)) := by
  obtain ⟨place, h⟩ := h
  rw [Expr.ofHcl] at h
  cases h
  rw [Expr.evaluate]
  rfl

theorem IsReference.evaluate {name : String} {value : Expr} (h : IsReference name value)
    (environment : Environment) (position : Option Position) :
    value.evaluate environment position = .ok (.text (reference name)) := by
  obtain ⟨place, h⟩ := h
  rw [Expr.ofHcl] at h
  cases h
  rw [Expr.evaluate]

section Routes

variable {environment : Environment} {items : List Item} {config : Configuration}
  {scope : OrderedMap Value}

/-- A variable with a plain value stands for that text. -/
theorem lookupVariable_of_plain (hassembled : Assembled environment items config)
    (hscope : Resolver.resolve config.definitions = .ok scope) {name s : String} {declared : Expr}
    {place : Option Position}
    (hdeclared : OrderedMap.lastOf name (definitionsOf items) = some (declared, place))
    (hplain : IsPlain s declared) : scope.lookupVariable name = .ok (.text s) := by
  obtain ⟨entries, hentries, hdefinitions⟩ := hassembled.definitions
  have hget : config.definitions.get? name = some (.text (escape s)) := by
    have hlast := OrderedMap.lastOf_of_readNamed hentries name
    rw [optionMapM_eq_ok_some_iff.2 ⟨(declared, place), hdeclared, hplain.evaluate _ _⟩] at hlast
    rw [hdefinitions, OrderedMap.get?_ofList]
    exact (Except.ok.inj hlast).symm
  obtain ⟨hkeys, hjustified⟩ := (Resolver.ends_resolve config.definitions).of_ok hscope
  rw [(Resolver.solves_of_justified hkeys hjustified).equation name _ hget]
  exact interpolateValue_escape _ s

theorem Expr.evaluateAll_eq_mapM (environment : Environment) (position : Option Position)
    (entries : List Expr) :
    Expr.evaluateAll environment position entries =
      entries.mapM (Expr.evaluate environment position) := by
  induction entries with
  | nil =>
    rw [Expr.evaluateAll]
    rfl
  | cons entry entries ih => rw [Expr.evaluateAll, List.mapM_cons, ih]

/-- A plain item of a list stands for that text in its round. -/
theorem LoopNode.Runs.plain {loop : LoopNode} {values : List Value}
    (h : loop.Runs environment scope values) {entries : List Expr}
    (hlist : loop.iterable = .list entries) {index : Nat} {entry : Expr} {s : String}
    (hentry : entries[index]? = some entry) (hplain : IsPlain s entry) :
    values[index]? = some (.text s) := by
  obtain ⟨iterable, hiterable, hvalues⟩ := h
  rw [hlist] at hiterable
  obtain ⟨evaluated, hevaluated, hiterable⟩ := bind_eq_ok.1 hiterable
  cases hiterable
  rw [Expr.evaluateAll_eq_mapM, mapM_eq_ok] at hevaluated
  obtain ⟨v, hv, hread⟩ := forall₂_getElem? hevaluated hentry
  rw [hplain.evaluate] at hread
  cases hread
  obtain ⟨w, hw, hsubstituted⟩ := forall₂_getElem? (mapM_eq_ok.1 hvalues) hv
  rw [interpolateValue_escape] at hsubstituted
  cases hsubstituted
  exact hw

/-- **What is given to a field is there in the end.** -/
theorem Given.text? (hassembled : Assembled environment items config)
    (hscope : Resolver.resolve config.definitions = .ok scope) {children : List Child}
    {origins : List Origin} (horigins : Origins environment scope children origins)
    {origin : Origin} (horigin : origin ∈ origins) {server : Server}
    (hbecomes : Becomes environment scope config.templates origin server) {field : TextField}
    {s : String} (h : Given items origin s field) : server.text? field = some s := by
  cases h with
  | written hpair hplain =>
    exact hbecomes.text? hpair (hplain.evaluate _ _) (interpolate_escape _ s)
  | @definition _ name _ _ _ _ hpair hreference hname hround hdeclared hplain =>
    have hvalue := lookupVariable_of_plain hassembled hscope hdeclared hplain
    have hlookup : origin.lookup scope name = .ok (.text s) := by
      cases hsome : origin.round with
      | none =>
        rw [Origin.lookup, hsome]
        exact hvalue
      | some round =>
        rw [Origin.lookup, hsome]
        exact (if_neg (hround round hsome).symm).trans hvalue
    exact hbecomes.text? hpair (hreference.evaluate _ _) (interpolate_reference hname hlookup rfl)
  | @item _ round _ _ _ _ hpair hround hreference hname hlist hentry hplain =>
    obtain ⟨values, hruns, hvalue⟩ := horigins.round horigin hround
    rw [hruns.plain hlist hentry hplain] at hvalue
    have hlookup : origin.lookup scope round.loop.binder = .ok (.text s) := by
      rw [Origin.lookup, hround]
      exact (if_pos rfl).trans (congrArg Except.ok (Option.some.inj hvalue).symm)
    exact hbecomes.text? hpair (hreference.evaluate _ _) (interpolate_reference hname hlookup rfl)
  | @template p hp _ _ hunset hpair hplain =>
    refine hbecomes.text?_of_firstValue? hp hunset ?_ (interpolateValue_escape _ s)
    have hkey : p.key ≠ "kind" := fun h => p.key_notMem (by simp [h])
    have hfirst := firstValue?_of_assembled hassembled hkey origin.object.spreads
    rw [optionMapM_eq_ok_some_iff.2 ⟨_, hpair, hplain.evaluate _ _⟩] at hfirst
    exact (Except.ok.inj hfirst).symm

variable (environment items scope) in
/-- **The texts that are given to the servers of a section are in the servers it compiles to.** -/
def KeepsTexts (children : List Child) (servers : List Server) : Prop :=
  ∃ origins, Origins environment scope children origins ∧
    List.Forall₂
      (fun origin server => ∀ field s, Given items origin s field → server.text? field = some s)
      origins servers

theorem Pool.keepsTexts_of_normalize (hassembled : Assembled environment items config)
    (hscope : Resolver.resolve config.definitions = .ok scope) {children : List Child}
    {pool result : Pool}
    (hservers : (objectsOf "server" children).mapM (readServer environment) = .ok pool.servers)
    (hloops : (loopsOf children).mapM (readLoop environment) = .ok pool.loops)
    (hnormal : pool.normalize scope config.templates = .ok result) :
    KeepsTexts environment items scope children result.servers := by
  obtain ⟨origins, horigins, hbecomes⟩ := Pool.becomes_of_normalize hservers hloops hnormal
  have hmember := (List.forall₂_and_left _ _).2 ⟨fun origin (h : origin ∈ origins) => h, hbecomes⟩
  refine ⟨origins, horigins, hmember.imp ?_⟩
  rintro origin server ⟨horigin, hserver⟩ field s hgiven
  exact hgiven.text? hassembled hscope horigins horigin hserver

end Routes

/-- **Plain text arrives as it was written.** Where a document compiles, each server has the plain
texts that are given to it: those on the server itself, outside of a loop and in one, those of the
variables and the items that it refers to by name, and those of its templates. -/
theorem Document.compile_keeps_plain_text {environment : Environment} {document : Document}
    {result : Configuration} (h : document.compile environment = .ok result) :
    ∃ config scope, Configuration.ofDocument environment document = .ok config ∧
      Resolver.resolve config.definitions = .ok scope ∧
      List.Forall₂ (fun node b => KeepsTexts environment document.items scope node.children
        b.pool.servers) (sectionsOf "backend" document.items) result.backends ∧
      List.Forall₂ (fun node l => KeepsTexts environment document.items scope node.children
        l.pool.servers) (sectionsOf "listen" document.items) result.listens := by
  obtain ⟨config, hconfig, hnormal⟩ := compile_eq_ok_iff.1 h
  obtain ⟨scope, hscope, hnormal⟩ := Configuration.normalize_eq_ok_iff.1 hnormal
  have hassembled := Configuration.assembled_of_ofDocument hconfig
  refine ⟨config, scope, hconfig, hscope, ?_, ?_⟩
  · refine (forall₂_comp (mapM_eq_ok.1 hassembled.backends)
      (mapM_eq_ok.1 hnormal.backends)).imp ?_
    rintro node b ⟨read, hread, hb⟩
    obtain ⟨-, -, hservers, hloops⟩ := Backend.ofNode_eq_ok hread
    obtain ⟨-, -, hpool⟩ := Backend.normalize_eq_ok_iff.1 hb
    exact Pool.keepsTexts_of_normalize hassembled hscope hservers hloops hpool
  · refine (forall₂_comp (mapM_eq_ok.1 hassembled.listens) (mapM_eq_ok.1 hnormal.listens)).imp ?_
    rintro node l ⟨read, hread, hl⟩
    obtain ⟨-, -, -, hservers, hloops⟩ := Listen.ofNode_eq_ok hread
    obtain ⟨-, -, -, hpool⟩ := Listen.normalize_eq_ok_iff.1 hl
    exact Pool.keepsTexts_of_normalize hassembled hscope hservers hloops hpool

/-- A document that gives a text with markers to servers in every way. -/
def textDocument : Document where
  items :=
    [.definition "v" (.literal (.text (escape "$\x7ba\x7d$$\x7b"))) none,
      .template "t" [.pair "cookie" (.literal (.text (escape "$\x7ba\x7d$$\x7b"))) none] none,
      .block
        { kind := "backend"
          name := "app"
          children :=
            [.object ⟨"server", ["w"],
                [.pair "address" (.literal (.text (escape "$\x7ba\x7d$$\x7b"))) none,
                  .pair "inter" (.literal (.text (reference "v"))) none], ["t"], none⟩,
              .loop ⟨"i", .list [.literal (.text (escape "$\x7ba\x7d$$\x7b"))],
                [⟨"server", ["x"],
                  [.pair "address" (.literal (.text (escape "$\x7ba\x7d$$\x7b"))) none,
                    .pair "inter" (.literal (.text (reference "i"))) none], [], none⟩], none⟩]
          position := none }]

/-- What it compiles to. -/
def textBackend : Configuration where
  backends :=
    [{ name := "app"
       body := { mode := some .http }
       pool :=
        { balance := some .roundRobin
          servers :=
            [{ name := "w"
               address := "$\x7ba\x7d$$\x7b"
               options := { inter := "$\x7ba\x7d$$\x7b", cookie := "$\x7ba\x7d$$\x7b" } },
              { name := "x"
                address := "$\x7ba\x7d$$\x7b"
                options := { inter := "$\x7ba\x7d$$\x7b" } }] } }]

theorem Document.compile_keeps_plain_text_textDocument :
    textDocument.compile {} = .ok textBackend ∧
      ∃ config scope, Configuration.ofDocument {} textDocument = .ok config ∧
        Resolver.resolve config.definitions = .ok scope ∧
        List.Forall₂ (fun node b => KeepsTexts {} textDocument.items scope node.children
          b.pool.servers) (sectionsOf "backend" textDocument.items) textBackend.backends := by
  have hcompile : textDocument.compile {} = .ok textBackend := by cbv
  obtain ⟨config, scope, hconfig, hscope, hbackends, -⟩ :=
    Document.compile_keeps_plain_text hcompile
  exact ⟨hcompile, config, scope, hconfig, hscope, hbackends⟩

/-- A document that prefers other texts to `text`: what is written on the first server, the earlier
template of the second one, and the loop variable that the third one refers to. -/
def preferringDocument : Document where
  items :=
    [.definition "v" (.literal (.text "text")) none,
      .template "u" [.pair "cookie" (.literal (.text "earlier")) none] none,
      .template "t" [.pair "cookie" (.literal (.text "text")) none] none,
      .block
        { kind := "backend"
          name := "app"
          children :=
            [.object ⟨"server", ["w"],
                [.pair "address" (.literal (.text "10.0.0.1")) none,
                  .pair "cookie" (.literal (.text "written")) none], ["t"], none⟩,
              .object ⟨"server", ["x"],
                [.pair "address" (.literal (.text "10.0.0.1")) none], ["u", "t"], none⟩,
              .loop ⟨"v", .list [.literal (.text "item")],
                [⟨"server", ["y"],
                  [.pair "address" (.literal (.text "10.0.0.1")) none,
                    .pair "cookie" (.literal (.text (reference "v"))) none], [], none⟩], none⟩]
          position := none }]

/-- **A text gives way to one that is preferred to it.** The plain text `text` is the parameter of
the template that the first two servers spread, and the value of the variable by whose name the
third one refers to it; and none of them has it. -/
theorem Document.plain_text_gives_way :
    (∃ value place, OrderedMap.lastOf "v" (definitionsOf preferringDocument.items) =
        some (value, place) ∧ IsPlain "text" value) ∧
      (∃ value place, templatePair? preferringDocument.items "cookie" "t" =
        some (value, place) ∧ IsPlain "text" value) ∧
      (preferringDocument.compile {}).map (fun result => result.backends.flatMap fun b =>
        b.pool.servers.map fun server => server.text? (.parameter (.option .cookie) rfl)) =
        .ok [some "written", some "earlier", some "item"] := by
  have hplain : IsPlain "text" (.literal (.text "text")) := ⟨none, by rw [Expr.ofHcl]; rfl⟩
  exact ⟨⟨_, _, rfl, hplain⟩, ⟨_, _, rfl, hplain⟩, by cbv⟩

end Balancer
