import Balancer.Proofs.Escaping
import Balancer.Proofs.Origins
import Balancer.Proofs.Rewriting
import Balancer.Proofs.Substitution

/-!
# Templates spelled out

A server that spreads templates can as well be written with the parameters of the templates on it:
each key that is not written on the server gets the value of the first template that sets it
(`SpelledOut`). Where a document compiles, the document with such servers in it compiles too, and to
the same (`Document.compile_spelledOut`).

The two servers go through different steps in a different order. A value on the server is converted
when the server is read and its texts are substituted afterwards; a value in a template is
substituted first and converted at the very end. Without markers in the templates there is nothing
to substitute, so that the templates can be taken over before the texts of the server are
substituted (`Server.normalize_of_expand`), and what is read with the templates spelled out is the
server that has taken them over (`SpelledOut.readServer`).

Both need that the templates can be taken over. The normal form of the server shows it, and inside
of a loop the normal form in the first round. In a loop without a round nothing shows it, and there
a server may spread what could not be written on it (`Document.spelledOut_without_round`).
-/

namespace Balancer

/-! ### Values without markers -/

section Values

variable {lookup : String → Except NormalizeError Value} {value : Value}

theorem mapM_toText_unmarked {key : String} {items : List Value} {texts : List String}
    (hplain : Value.allUnmarked items) (h : items.mapM (Value.toText key) = .ok texts) :
    List.Forall₂ (fun s t => interpolate lookup s = .ok t) texts texts := by
  induction items generalizing texts with
  | nil =>
    cases h
    exact .nil
  | cons item items ih =>
    rw [Value.allUnmarked, Bool.and_eq_true] at hplain
    cases mapM_eq_ok.1 h with
    | cons hfirst hrest =>
      exact .cons (interpolate_of_unmarked (unmarked_of_toText hplain.1 hfirst) lookup)
        (ih hplain.2 (mapM_eq_ok.2 hrest))

/-- Substitution leaves alone what a value without markers is converted to. -/
theorem SlotType.agree_of_convert {type : SlotType} {key : String} {x : type.Carrier}
    (hplain : value.unmarked) (h : type.convert key value = .ok x) :
    Agree (fun s t => interpolate lookup s = .ok t) (some x) (some x) := by
  cases type with
  | flag => exact .some rfl
  | port => exact .some rfl
  | count => exact .some rfl
  | text => exact .some (interpolate_of_unmarked (unmarked_of_toText hplain h) lookup)
  | texts =>
    refine .some ?_
    cases value with
    | array items =>
      rw [Value.unmarked] at hplain
      exact mapM_toText_unmarked hplain h
    | _ =>
      obtain ⟨s, hs, h⟩ := bind_eq_ok.1 h
      cases h
      exact .cons (interpolate_of_unmarked (unmarked_of_toText hplain hs) lookup) .nil

theorem agree_or {α : Type} [Texts α] {R : String → String → Prop} {a b c : Option α}
    (hab : Agree R a b) (hc : Agree R c c) : Agree R (a.or c) (b.or c) := by
  cases hab with
  | none => exact hc
  | some h => exact .some h

end Values

/-! ### Templates without markers -/

/-- **Templates without markers** in the values of their parameters. -/
def PlainTemplates (templates : OrderedMap Template) (spreads : List String) : Prop :=
  ∀ name ∈ spreads, ∀ template, templates.get? name = some template →
    ∀ entry ∈ template.params.entries, entry.2.unmarked

section Servers

variable {scope : OrderedMap Value} {templates : OrderedMap Template} {spreads : List String}
  {lookup : String → Except NormalizeError Value} {key : String} {value : Value}

/-- The first value is in one of the templates. -/
theorem exists_of_firstValue? (h : firstValue? templates spreads key = some value) :
    ∃ name ∈ spreads, ∃ template, templates.get? name = some template ∧
      (key, value) ∈ template.params.entries := by
  obtain ⟨name, hname, h⟩ := List.exists_of_findSome?_eq_some h
  obtain ⟨template, htemplate, h⟩ := Option.bind_eq_some_iff.1 h
  exact ⟨name, hname, template, htemplate, OrderedMap.get?_eq_some_iff.1 h⟩

/-- A parameter takes a value without markers over as it is. -/
theorem Parameter.take?_of_unmarked (p : Parameter) (hplain : value.unmarked) :
    p.take? scope value = (p.convert value).toOption := by
  rw [Parameter.take?, interpolateValue_of_unmarked _ value hplain]
  rfl

/-- What templates without markers set are parameters, with values that can be written as they are:
to take such a value over is to convert it. -/
theorem PlainTemplates.exists_convert (hplain : PlainTemplates templates spreads)
    (htakeable : ∀ name ∈ spreads, ∃ template, templates.get? name = some template ∧
      template.Takeable scope) (h : firstValue? templates spreads key = some value) :
    ∃ p : Parameter, p.key = key ∧
      ∃ x, p.convert value = .ok x ∧ p.take? scope value = some x := by
  obtain ⟨name, hname, template, htemplate, hentry⟩ := exists_of_firstValue? h
  obtain ⟨template', htemplate', htake⟩ := htakeable name hname
  cases htemplate.symm.trans htemplate'
  obtain ⟨p, hp, hsome⟩ := htake _ hentry
  refine ⟨p, hp, ?_⟩
  rw [p.take?_of_unmarked (hplain name hname template htemplate _ hentry)] at hsome ⊢
  cases hx : p.convert value with
  | error e =>
    rw [hx] at hsome
    exact nomatch hsome
  | ok x => exact ⟨x, rfl, rfl⟩

/-- Such templates do not set what is not a parameter. -/
theorem PlainTemplates.firstValue?_eq_none (hplain : PlainTemplates templates spreads)
    (htakeable : ∀ name ∈ spreads, ∃ template, templates.get? name = some template ∧
      template.Takeable scope) (hkey : key ∈ ["name", "address", "kind"]) :
    firstValue? templates spreads key = none := by
  cases hvalue : firstValue? templates spreads key with
  | none => rfl
  | some value =>
    obtain ⟨p, rfl, -⟩ := hplain.exists_convert htakeable hvalue
    exact absurd hkey p.key_notMem

/-- Substitution leaves alone what is taken over from templates without markers. -/
theorem PlainTemplates.agree (hplain : PlainTemplates templates spreads) (p : Parameter) :
    Agree (fun s t => interpolate lookup s = .ok t)
      ((firstValue? templates spreads p.key).bind (p.take? scope))
      ((firstValue? templates spreads p.key).bind (p.take? scope)) := by
  cases hvalue : firstValue? templates spreads p.key with
  | none => exact .none
  | some value =>
    obtain ⟨name, hname, template, htemplate, hentry⟩ := exists_of_firstValue? hvalue
    have hunmarked := hplain name hname template htemplate _ hentry
    rw [Option.bind_some, p.take?_of_unmarked hunmarked]
    cases hx : p.convert value with
    | error e => exact .none
    | ok x => exact SlotType.agree_of_convert hunmarked hx

/-- **Templates without markers can be taken over first.** What the texts of the server are
substituted by does not matter to the templates, and the templates have no texts to substitute. -/
theorem Server.normalize_of_expand {server expanded result : Server}
    (hplain : PlainTemplates templates server.spreads)
    (hexpand : server.expand scope templates = .ok expanded)
    (h : server.normalize scope templates lookup = .ok result) :
    expanded.normalize scope templates lookup = .ok result := by
  obtain ⟨substituted, hsubstituted, hresult⟩ := bind_eq_ok.1 h
  obtain ⟨hname, haddress, hspreads, hparameters⟩ := Server.traverse_eq_ok_iff.1 hsubstituted
  obtain ⟨-, hexpanded⟩ := Server.expand_eq_ok hexpand
  obtain ⟨-, hfilled⟩ := Server.expand_eq_ok hresult
  refine bind_eq_ok.2 ⟨result, Server.traverse_eq_ok_iff.2 ⟨?_, ?_, ?_, fun p => ?_⟩, ?_⟩
  · rw [hexpanded.name, hfilled.name]
    exact hname
  · rw [hexpanded.address, hfilled.address]
    exact haddress
  · rw [hexpanded.spreads, hfilled.spreads]
  · rw [hexpanded.parameters, hfilled.parameters, hspreads]
    exact agree_or (hparameters p) (hplain.agree p)
  · -- the result spreads nothing, so that it stays as it is
    rw [Server.expand, hfilled.spreads]
    obtain ⟨name, address, port, options, spreads⟩ := result
    cases hfilled.spreads
    rfl

end Servers

/-! ### Objects -/

/-- The child that a pair is. -/
def Child.ofPair : String × Expr × Option Position → Child
  | (key, value, position) => .pair key value position

section Objects

variable {environment : Environment}

theorem readChildren_append {children children' : List Child} {entries entries' : List Entry}
    (h : readChildren environment children = .ok entries)
    (h' : readChildren environment children' = .ok entries') :
    readChildren environment (children ++ children') = .ok (entries ++ entries') := by
  induction children generalizing entries with
  | nil =>
    rw [readChildren] at h
    cases h
    exact h'
  | cons child children ih =>
    obtain ⟨first, rest, hfirst, hrest, rfl⟩ := readChildren_cons_eq_ok_iff.1 h
    exact readChildren_cons_eq_ok_iff.2
      ⟨first, rest ++ entries', hfirst, ih hrest, List.append_assoc _ _ _⟩

/-- Pairs are read one by one. -/
theorem readChildren_ofPair {pairs : List (String × Expr × Option Position)}
    {values : List (String × Value)} (h : pairs.mapM (readPair environment) = .ok values) :
    ∃ entries, readChildren environment (pairs.map Child.ofPair) = .ok entries ∧
      ∀ kind position, entries.mapM (Entry.pair kind position) = .ok values := by
  rw [mapM_eq_ok] at h
  induction h with
  | nil =>
    refine ⟨[], ?_, fun _ _ => rfl⟩
    rw [List.map_nil, readChildren]
  | @cons pair value _ _ hpair _ ih =>
    obtain ⟨key, expression, place⟩ := pair
    obtain ⟨name, v⟩ := value
    obtain ⟨rfl, hv⟩ := OrderedMap.readNamed_eq_ok_iff.1 hpair
    obtain ⟨entries, hentries, hvalues⟩ := ih
    refine ⟨⟨.pair name v, place⟩ :: entries, ?_, fun kind position => ?_⟩
    · refine readChildren_cons_eq_ok_iff.2 ⟨[⟨.pair name v, place⟩], entries, ?_, hentries, rfl⟩
      rw [Child.ofPair, readChild]
      exact bind_eq_ok.2 ⟨v, hv, rfl⟩
    · exact mapM_eq_ok.2 (.cons rfl (mapM_eq_ok.1 (hvalues kind position)))

/-- The fields of an object with more pairs at its end. -/
theorem readFields_append {object : ObjectNode} {fields : Fields}
    {extra : List (String × Expr × Option Position)} {values : List (String × Value)}
    (h : readFields environment object = .ok fields)
    (hextra : extra.mapM (readPair environment) = .ok values) (spreads : List String) :
    ∃ fields', readFields environment
        { object with children := object.children ++ extra.map Child.ofPair, spreads } =
        .ok fields' ∧
      fields'.labels = fields.labels ∧
      ∀ key, fields'.entries.get? key =
        (OrderedMap.lastOf key values).or (fields.entries.get? key) := by
  obtain ⟨entries, hentries, h⟩ := bind_eq_ok.1 h
  obtain ⟨pairs, hpairs, h⟩ := bind_eq_ok.1 h
  cases h
  obtain ⟨entries', hentries', hvalues⟩ := readChildren_ofPair hextra
  refine ⟨_, bind_eq_ok.2 ⟨_, readChildren_append hentries hentries',
    bind_eq_ok.2 ⟨pairs ++ values, ?_, rfl⟩⟩, rfl, fun key => ?_⟩
  · exact mapM_append_eq_ok hpairs (hvalues _ _)
  · rw [OrderedMap.get?_ofList, OrderedMap.get?_ofList, OrderedMap.lastOf_append]

variable (environment) (templates : OrderedMap Template) in
/-- **A server with its templates spelled out**: in place of the spreads it has, for each key that
one of the templates sets and that is not written on it, a pair with the value of the first template
that sets the key. There are no markers in the templates. -/
structure SpelledOut (object object' : ObjectNode) : Prop where
  kind : object.kind = "server"
  plain : PlainTemplates templates object.spreads
  pairs : ∃ (extra : List (String × Expr × Option Position)) (values : List (String × Value)),
    object' =
      { object with children := object.children ++ extra.map Child.ofPair, spreads := [] } ∧
    extra.mapM (readPair environment) = .ok values ∧
    ∀ key, OrderedMap.lastOf key values =
      if (OrderedMap.lastOf key (pairsOf object.children)).isSome then none
      else firstValue? templates object.spreads key

theorem Server.nameOf_eq_ok_of_labels {fields fields' : Fields} {written : Option String}
    {name : String} (hlabels : fields'.labels = fields.labels)
    (h : Server.nameOf fields written = .ok name) : Server.nameOf fields' written = .ok name := by
  unfold Server.nameOf at h ⊢
  rw [hlabels]
  split at h <;> simp_all

variable {scope : OrderedMap Value} {templates : OrderedMap Template}
  {object object' : ObjectNode}

/-- What a key has in the fields, once the templates are spelled out: what is written, or else what
the first of the templates gives. -/
theorem SpelledOut.readFields (h : SpelledOut environment templates object object')
    {fields : Fields} (hfields : readFields environment object = .ok fields) :
    object'.spreads = [] ∧ ∃ fields', Balancer.readFields environment object' = .ok fields' ∧
      fields'.labels = fields.labels ∧
      ∀ key, fields'.entries.get? key =
        (fields.entries.get? key).or (firstValue? templates object.spreads key) := by
  obtain ⟨extra, values, rfl, hextra, hvalues⟩ := h.pairs
  obtain ⟨fields', hfields', hlabels, hget⟩ := readFields_append hfields hextra []
  refine ⟨rfl, fields', hfields', hlabels, fun key => ?_⟩
  rw [hget, hvalues]
  have hlast := get?_of_readFields hfields key
  cases hvalue : fields.entries.get? key with
  | none =>
    rw [hvalue, optionMapM_eq_ok_none_iff] at hlast
    rw [hlast]
    exact Option.or_none
  | some value =>
    rw [hvalue, optionMapM_eq_ok_some_iff] at hlast
    obtain ⟨pair, hpair, -⟩ := hlast
    rw [hpair]
    rfl

/-- **A server with its templates spelled out is read as the server that has taken them over.** -/
theorem SpelledOut.readServer (h : SpelledOut environment templates object object')
    {server expanded : Server} (hserver : readServer environment object = .ok server)
    (hexpand : server.expand scope templates = .ok expanded) :
    Balancer.readServer environment object' = .ok expanded := by
  obtain ⟨fields, hfields, hserver⟩ := bind_eq_ok.1 hserver
  have hread := Server.ofFields_eq_ok_iff.1 hserver
  obtain ⟨hspreads', fields', hfields', hlabels, hget⟩ := h.readFields hfields
  obtain ⟨htakeable, hfilled⟩ := Server.expand_eq_ok hexpand
  rw [hread.spreads] at htakeable hfilled
  have hnone {key : String} (hkey : key ∈ ["name", "address", "kind"]) :=
    h.plain.firstValue?_eq_none htakeable hkey
  refine bind_eq_ok.2 ⟨fields', hfields', Server.ofFields_eq_ok_iff.2 ⟨?_, ?_, fun p => ?_, ?_, ?_⟩⟩
  · obtain ⟨written, hwritten, hname⟩ := hread.name
    refine ⟨written, ?_, ?_⟩
    · rw [hget, hnone (by simp), Option.or_none]
      exact hwritten
    · rw [hfilled.name]
      exact Server.nameOf_eq_ok_of_labels hlabels hname
  · rw [hget, hnone (by simp), Option.or_none, hfilled.address]
    exact hread.address
  · have hwritten := hread.parameters p
    rw [hget, hfilled.parameters]
    cases hvalue : fields.entries.get? p.key with
    | some value =>
      rw [hvalue, Option.mapM_some] at hwritten
      obtain ⟨x, hx, hset⟩ := map_eq_ok.1 hwritten
      have hset' : ({ server with spreads := [] } : Server).get p = some x := hset.symm
      rw [hset', Option.some_or, Option.some_or]
      exact optionMapM_eq_ok_some_iff.2 ⟨value, rfl, hx⟩
    | none =>
      rw [hvalue] at hwritten
      have hunset : ({ server with spreads := [] } : Server).get p = none :=
        (Except.ok.inj hwritten).symm
      rw [hunset, Option.none_or, Option.none_or]
      cases hfirst : firstValue? templates object.spreads p.key with
      | none => rfl
      | some value =>
        obtain ⟨q, hq, x, hx, htake⟩ := h.plain.exists_convert htakeable hfirst
        cases Parameter.key_injective hq
        rw [Option.bind_some, htake]
        exact optionMapM_eq_ok_some_iff.2 ⟨value, rfl, hx⟩
  · intro key hkey
    obtain ⟨value, hvalue⟩ := OrderedMap.mem_keys_iff.1 hkey
    rw [hget] at hvalue
    cases hwritten : fields.entries.get? key with
    | some v => exact hread.keys key (OrderedMap.mem_keys_iff.2 ⟨v, hwritten⟩)
    | none =>
      rw [hwritten, Option.none_or] at hvalue
      obtain ⟨p, hp, -⟩ := h.plain.exists_convert htakeable hvalue
      exact .inr (.inr (Option.isSome_iff_exists.2 ⟨p, Parameter.ofKey?_eq_some_iff.2 hp⟩))
  · exact hfilled.spreads.trans hspreads'.symm

/-! ### Servers in their places -/

variable (environment templates) in
/-- An object that is the same, or has its templates spelled out. -/
def MaybeSpelledOut (object object' : ObjectNode) : Prop :=
  object' = object ∨ SpelledOut environment templates object object'

theorem MaybeSpelledOut.kind (h : MaybeSpelledOut environment templates object object') :
    object'.kind = object.kind := by
  rcases h with rfl | h
  · rfl
  · obtain ⟨_, _, rfl, -⟩ := h.pairs
    rfl

/-- A server with a normal form can take its templates over before its texts are substituted. -/
theorem Server.returns_expand_of_normalize {lookup : String → Except NormalizeError Value}
    {server : Server} (h : Returns (server.normalize scope templates lookup)) :
    Returns (server.expand scope templates) := by
  obtain ⟨substituted, hsubstituted, hexpand⟩ := returns_bind_iff.1 h
  rw [Server.returns_expand_iff] at hexpand ⊢
  rwa [(Server.traverse_eq_ok_iff.1 hsubstituted).2.2.1] at hexpand

theorem MaybeSpelledOut.exists_readServer (h : MaybeSpelledOut environment templates object object')
    {server : Server} (hserver : Balancer.readServer environment object = .ok server)
    (hexpand : Returns (server.expand scope templates)) :
    ∃ server', Balancer.readServer environment object' = .ok server' ∧
      ∀ lookup, Refines (Server.normalize scope templates lookup) server server' := by
  rcases h with rfl | h
  · exact ⟨server, hserver, fun _ => .refl _ _⟩
  · obtain ⟨expanded, hexpand⟩ := hexpand
    refine ⟨expanded, h.readServer hserver hexpand, fun lookup result hresult => ?_⟩
    obtain ⟨fields, -, hfields⟩ := bind_eq_ok.1 hserver
    have hplain := h.plain
    rw [← (Server.ofFields_eq_ok_iff.1 hfields).spreads] at hplain
    exact Server.normalize_of_expand hplain hexpand hresult

/-- An object of the kind of servers is read as a server. -/
theorem readObject_server_eq_ok_iff (hkind : object.kind = "server") {directive : Directive} :
    readObject environment object = .ok directive ↔
      ∃ server, Balancer.readServer environment object = .ok server ∧
        .server server = directive := by
  obtain ⟨kind, labels, children, spreads, position⟩ := object
  cases hkind
  have hname : ObjectKind.ofName? "server" = some .server := rfl
  rw [readObject, hname, Balancer.readServer, readAs, Balancer.readFields]
  simp only [ObjectKind.precheck, ObjectKind.read, ObjectKind.allowsSpreads, ok_bind, bind_assoc,
    bind_eq_ok, map_eq_ok, Bool.not_true, Bool.and_false, Bool.false_eq_true, if_false,
    pure_eq_ok_iff]
  grind

/-- **A server outside of a loop.** -/
theorem MaybeSpelledOut.exists_readObject
    (h : MaybeSpelledOut environment templates object object') {directive : Directive}
    (hread : readObject environment object = .ok directive)
    (hreturns : ∀ server, directive.server? = some server →
      Returns (server.normalize scope templates scope.lookupVariable)) :
    ∃ directive', readObject environment object' = .ok directive' ∧
      directive.Alike (Refines (Server.normalize scope templates scope.lookupVariable))
        (Refines (ServerLoop.normalize scope templates)) directive' := by
  rcases h with rfl | h
  · exact ⟨directive, hread, .refl (.refl _) (.refl _) directive⟩
  · obtain ⟨server, hserver, rfl⟩ := (readObject_server_eq_ok_iff h.kind).1 hread
    obtain ⟨server', hserver', hrefines⟩ := MaybeSpelledOut.exists_readServer (.inr h) hserver
      (Server.returns_expand_of_normalize (hreturns server rfl))
    have hkind : object'.kind = "server" := (MaybeSpelledOut.kind (.inr h)).trans h.kind
    exact ⟨.server server', (readObject_server_eq_ok_iff hkind).2 ⟨server', hserver', rfl⟩,
      .server (hrefines _)⟩

/-- The items of a list, one by one. -/
theorem exists_readItems {position : Option Position} {items items' : List ObjectNode}
    (h : List.Forall₂ (MaybeSpelledOut environment templates) items items') {entries : List Entry}
    (hread : readItems environment position items = .ok entries)
    (hreturns : ∀ server ∈ selected Directive.server? entries,
      Returns (server.normalize scope templates scope.lookupVariable)) :
    ∃ entries', readItems environment position items' = .ok entries' ∧
      EntriesAlike scope templates entries entries' := by
  induction h generalizing entries with
  | nil =>
    rw [readItems] at hread
    cases hread
    exact ⟨[], by rw [readItems], .nil⟩
  | @cons _ item' _ _ hitem _ ih =>
    rw [readItems] at hread
    obtain ⟨directive, hdirective, hread⟩ := bind_eq_ok.1 hread
    obtain ⟨rest, hrest, hread⟩ := bind_eq_ok.1 hread
    cases hread
    rw [selected_cons] at hreturns
    obtain ⟨directive', hdirective', halike⟩ := hitem.exists_readObject hdirective
      fun server hserver => hreturns server (List.mem_append_left _ (by simp [hserver]))
    obtain ⟨rest', hrest', hrestAlike⟩ := ih hrest
      fun server hserver => hreturns server (List.mem_append_right _ hserver)
    refine ⟨⟨directive', item'.position.or position⟩ :: rest', ?_, .cons halike hrestAlike⟩
    rw [readItems]
    exact bind_eq_ok.2 ⟨directive', hdirective', bind_eq_ok.2 ⟨rest', hrest', rfl⟩⟩

/-! ### Loops -/

/-- Servers that come to the same under all variables make loops that come to the same. -/
theorem ServerLoop.refines_normalize {binder : String} {iterable : LoopIterable}
    {body body' : List Server}
    (h : List.Forall₂ (fun server server' =>
      ∀ lookup, Refines (Server.normalize scope templates lookup) server server') body body') :
    Refines (ServerLoop.normalize scope templates) ⟨binder, iterable, body⟩
      ⟨binder, iterable, body'⟩ := by
  intro result hresult
  obtain ⟨values, hvalues, hresult⟩ := bind_eq_ok.1 hresult
  obtain ⟨rounds, hrounds, hresult⟩ := bind_eq_ok.1 hresult
  refine bind_eq_ok.2 ⟨values, hvalues, bind_eq_ok.2 ⟨rounds, mapM_eq_ok.2 ?_, hresult⟩⟩
  exact (mapM_eq_ok.1 hrounds).imp fun value round hround =>
    Refines.mapM (h.imp fun _ _ hserver => hserver _) round hround

/-- The servers in the body of a loop, one by one. -/
theorem exists_readServers {body body' : List ObjectNode}
    (h : List.Forall₂ (MaybeSpelledOut environment templates) body body') {servers : List Server}
    (hread : body.mapM (Balancer.readServer environment) = .ok servers)
    (hreturns : ∀ server ∈ servers, Returns (server.expand scope templates)) :
    ∃ servers', body'.mapM (Balancer.readServer environment) = .ok servers' ∧
      List.Forall₂ (fun server server' =>
        ∀ lookup, Refines (Server.normalize scope templates lookup) server server')
        servers servers' := by
  simp only [mapM_eq_ok] at hread ⊢
  induction h generalizing servers with
  | nil =>
    cases hread
    exact ⟨[], .nil, .nil⟩
  | cons hobject _ ih =>
    cases hread with
    | cons hserver hrest =>
      rw [List.forall_mem_cons] at hreturns
      obtain ⟨server', hserver', hrefines⟩ := hobject.exists_readServer hserver hreturns.1
      obtain ⟨servers', hservers', hrefines'⟩ := ih hreturns.2 hrest
      exact ⟨server' :: servers', .cons hserver' hservers', .cons hrefines hrefines'⟩

/-- **A loop with servers spelled out.** If the loop has a round, then that round shows that each
server can take its templates over. If it has none, nothing but reading the servers counts. -/
theorem exists_readLoop {loop : LoopNode} {body : List ObjectNode}
    (h : List.Forall₂ (MaybeSpelledOut environment templates) loop.body body)
    (hempty : loop.Runs environment scope [] →
      ∀ object ∈ body, Returns (Balancer.readServer environment object)) {read : ServerLoop}
    (hread : readLoop environment loop = .ok read)
    (hreturns : Returns (read.normalize scope templates)) :
    ∃ read', readLoop environment { loop with body } = .ok read' ∧
      Refines (ServerLoop.normalize scope templates) read read' := by
  obtain ⟨iterable, hiterable, hread⟩ := bind_eq_ok.1 hread
  obtain ⟨servers, hservers, hread⟩ := bind_eq_ok.1 hread
  cases hread
  obtain ⟨hkinds, hservers⟩ := readServers_eq_ok_iff.1 hservers
  have hkinds' : ∀ object ∈ body, object.kind = "server" := by
    intro object' hobject'
    obtain ⟨i, hi⟩ := List.mem_iff_getElem?.1 hobject'
    obtain ⟨object, hobject, hsame⟩ := forall₂_getElem? h.flip hi
    rw [MaybeSpelledOut.kind hsame]
    exact hkinds object (List.mem_of_getElem? hobject)
  have hloop {servers' : List Server}
      (hservers' : body.mapM (Balancer.readServer environment) = .ok servers') :
      readLoop environment { loop with body } = .ok ⟨loop.binder, iterable, servers'⟩ :=
    bind_eq_ok.2 ⟨iterable, hiterable,
      bind_eq_ok.2 ⟨servers', readServers_eq_ok_iff.2 ⟨hkinds', hservers'⟩, rfl⟩⟩
  obtain ⟨values, hvalues, hrounds⟩ := returns_bind_iff.1 hreturns
  cases values with
  | nil =>
    -- no round: both loops come to no server at all
    obtain ⟨servers', hservers'⟩ := returns_mapM_iff.2 (hempty ⟨iterable, hiterable, hvalues⟩)
    refine ⟨_, hloop hservers', fun result hresult => ?_⟩
    obtain ⟨values, hvalues₀, hresult⟩ := bind_eq_ok.1 hresult
    cases hvalues.symm.trans hvalues₀
    exact bind_eq_ok.2 ⟨[], hvalues, hresult⟩
  | cons value values =>
    -- whether templates can be taken over is the same in all rounds, so the first one is enough
    obtain ⟨rounds, hrounds, -⟩ := returns_bind_iff.1 hrounds
    have hfirst := returns_mapM_iff.1 ⟨rounds, hrounds⟩ value List.mem_cons_self
    obtain ⟨servers', hservers', hrefines⟩ := exists_readServers h hservers fun server hserver =>
      Server.returns_expand_of_normalize (returns_mapM_iff.1 hfirst server hserver)
    exact ⟨_, hloop hservers', ServerLoop.refines_normalize hrefines⟩

/-! ### Sections -/

variable (environment scope templates) in
/-- **A child with servers spelled out**: a server, a list of them, or a loop over them. In a loop
without a round nothing else shows that what the templates give can be written on a server, and so
the servers have to be readable as they are. -/
inductive Child.SpelledOut : Child → Child → Prop
  | same (child : Child) : SpelledOut child child
  | object {object object' : ObjectNode}
    (h : MaybeSpelledOut environment templates object object') :
    SpelledOut (.object object) (.object object')
  | list {kind : String} {items items' : List ObjectNode} {position : Option Position}
    (h : List.Forall₂ (MaybeSpelledOut environment templates) items items') :
    SpelledOut (.list kind items position) (.list kind items' position)
  | loop {loop : LoopNode} {body : List ObjectNode}
    (h : List.Forall₂ (MaybeSpelledOut environment templates) loop.body body)
    (hempty : loop.Runs environment scope [] →
      ∀ object ∈ body, Returns (Balancer.readServer environment object)) :
    SpelledOut (.loop loop) (.loop { loop with body })

theorem readChild_object_eq_ok_iff {entries : List Entry} :
    readChild environment (.object object) = .ok entries ↔
      ∃ directive, readObject environment object = .ok directive ∧
        [⟨directive, object.position⟩] = entries := by
  obtain ⟨kind, labels, children, spreads, position⟩ := object
  simp only [readChild, bind_eq_ok, pure_eq_ok_iff]

theorem readChild_loop_eq_ok_iff {loop : LoopNode} {entries : List Entry} :
    readChild environment (.loop loop) = .ok entries ↔
      ∃ read, readLoop environment loop = .ok read ∧ [⟨.loop read, loop.position⟩] = entries := by
  obtain ⟨binder, iterable, body, position⟩ := loop
  simp only [readChild, readLoop, bind_eq_ok, pure_eq_ok_iff]
  grind

theorem EntriesAlike.refl (entries : List Entry) : EntriesAlike scope templates entries entries :=
  List.forall₂_same.2 fun entry _ => .refl (.refl _) (.refl _) entry.directive

/-- The entries of one child. -/
theorem Child.SpelledOut.exists_readChild {child child' : Child}
    (h : child.SpelledOut environment scope templates child') {entries : List Entry}
    (hread : readChild environment child = .ok entries)
    (hservers : ∀ server ∈ selected Directive.server? entries,
      Returns (server.normalize scope templates scope.lookupVariable))
    (hloops : ∀ loop ∈ selected Directive.loop? entries, Returns (loop.normalize scope templates)) :
    ∃ entries', readChild environment child' = .ok entries' ∧
      EntriesAlike scope templates entries entries' := by
  cases h with
  | same => exact ⟨entries, hread, .refl entries⟩
  | object h =>
    obtain ⟨directive, hdirective, rfl⟩ := readChild_object_eq_ok_iff.1 hread
    obtain ⟨directive', hdirective', halike⟩ := h.exists_readObject hdirective
      fun server hserver => hservers server (by simp [selected, hserver])
    exact ⟨_, readChild_object_eq_ok_iff.2 ⟨directive', hdirective', rfl⟩, .cons halike .nil⟩
  | list h =>
    rw [readChild] at hread ⊢
    exact exists_readItems h hread hservers
  | loop h hempty =>
    obtain ⟨read, hloop, rfl⟩ := readChild_loop_eq_ok_iff.1 hread
    obtain ⟨read', hloop', hrefines⟩ :=
      exists_readLoop h hempty hloop (hloops read List.mem_cons_self)
    exact ⟨_, readChild_loop_eq_ok_iff.2 ⟨read', hloop', rfl⟩, .cons (.loop hrefines) .nil⟩

/-- **The entries of all children.** -/
theorem exists_readChildren {children children' : List Child}
    (h : List.Forall₂ (Child.SpelledOut environment scope templates) children children')
    {entries : List Entry} (hread : readChildren environment children = .ok entries)
    (hservers : ∀ server ∈ selected Directive.server? entries,
      Returns (server.normalize scope templates scope.lookupVariable))
    (hloops : ∀ loop ∈ selected Directive.loop? entries, Returns (loop.normalize scope templates)) :
    ∃ entries', readChildren environment children' = .ok entries' ∧
      EntriesAlike scope templates entries entries' := by
  induction h generalizing entries with
  | nil => exact ⟨entries, hread, .refl entries⟩
  | cons hchild _ ih =>
    obtain ⟨first, rest, hfirst, hrest, rfl⟩ := readChildren_cons_eq_ok_iff.1 hread
    rw [selected_append, List.forall_mem_append] at hservers hloops
    obtain ⟨first', hfirst', halike⟩ := hchild.exists_readChild hfirst hservers.1 hloops.1
    obtain ⟨rest', hrest', halike'⟩ := ih hrest hservers.2 hloops.2
    exact ⟨first' ++ rest', readChildren_cons_eq_ok_iff.2 ⟨first', rest', hfirst', hrest', rfl⟩,
      List.rel_append halike halike'⟩

end Objects

/-! ### Documents -/

section Documents

variable (environment : Environment) (scope : OrderedMap Value) (templates : OrderedMap Template)

/-- **An item with servers spelled out**, in a backend or a `listen` section. -/
inductive Item.SpelledOut : Item → Item → Prop
  | same (item : Item) : SpelledOut item item
  | block {node : SectionNode} {children : List Child}
    (hkind : node.kind = "backend" ∨ node.kind = "listen")
    (h : List.Forall₂ (Child.SpelledOut environment scope templates) node.children children) :
    SpelledOut (.block node) (.block { node with children })

variable {environment scope templates}

theorem Item.SpelledOut.rewritten {item item' : Item}
    (h : item.SpelledOut environment scope templates item') :
    item.Rewritten environment scope templates item' := by
  cases h with
  | same => exact .same item
  | block hkind h => exact .block hkind ⟨rfl, rfl, exists_readChildren h⟩

/-- **To spread templates is to write out their parameters.** Where a document compiles, and servers
in it get the values of their templates as pairs, each key that of the first template that sets it
and none that is written on the server, there the document still compiles, and to the same
configuration and the same text. -/
theorem Document.compile_spelledOut {environment : Environment} {document document' : Document}
    {config result : Configuration} {scope : OrderedMap Value}
    (hconfig : Configuration.ofDocument environment document = .ok config)
    (hscope : Resolver.resolve config.definitions = .ok scope)
    (hspelled : List.Forall₂ (Item.SpelledOut environment scope config.templates) document.items
      document'.items)
    (hresult : document.compile environment = .ok result) :
    ∃ result', document'.compile environment = .ok result' ∧ result' = result ∧
      result'.text = result.text := by
  have hitems := hspelled.imp fun _ _ hitem => hitem.rewritten
  exact ⟨result, compile_of_rewritten hconfig hscope hitems hresult, rfl, rfl⟩

/-- Two templates that both set the interval of the health checks. -/
def overlappingTemplates : OrderedMap Template :=
  .ofList
    [("t", { name := "t", params := .ofList [("inter", .text "2s"), ("cookie", .text "c")] }),
      ("u", { name := "u", params := .ofList [("inter", .text "9s"), ("check", .boolean true)] })]

/-- A server that spreads them and writes the cookie itself. -/
def spreadServer (label : String) : ObjectNode :=
  ⟨"server", [label],
    [.pair "address" (.literal (.text "10.0.0.1")) none,
      .pair "cookie" (.literal (.text "own")) none], ["t", "u"], none⟩

/-- The same server with the templates spelled out. -/
def writtenServer (label : String) : ObjectNode :=
  { spreadServer label with
    children := (spreadServer label).children ++
      [.pair "inter" (.literal (.text "2s")) none, .pair "check" (.literal (.boolean true)) none]
    spreads := [] }

/-- The templates, and a backend with a server outside of a loop and one inside. -/
def overlappingDocument (server : String → ObjectNode) : Document where
  items :=
    [.template "t" [.pair "inter" (.literal (.text "2s")) none,
        .pair "cookie" (.literal (.text "c")) none] none,
      .template "u" [.pair "inter" (.literal (.text "9s")) none,
        .pair "check" (.literal (.boolean true)) none] none,
      .block
        { kind := "backend"
          name := "app"
          children := [.object (server "w"),
            .loop ⟨"i", .list [.literal (.text "a")], [server "x"], none⟩]
          position := none }]

theorem spelledOut_writtenServer (label : String) :
    SpelledOut {} overlappingTemplates (spreadServer label) (writtenServer label) where
  kind := rfl
  plain := by
    intro name hname template htemplate entry hentry
    simp only [spreadServer, List.mem_cons, List.not_mem_nil, or_false] at hname
    rcases hname with rfl | rfl <;>
      · cases htemplate
        revert entry
        decide
  pairs := by
    refine ⟨[("inter", .literal (.text "2s"), none), ("check", .literal (.boolean true), none)],
      [("inter", .text "2s"), ("check", .boolean true)], rfl, rfl, fun key => ?_⟩
    by_cases hinter : key = "inter"
    · subst hinter
      rfl
    by_cases hcheck : key = "check"
    · subst hcheck
      rfl
    by_cases hcookie : key = "cookie"
    · subst hcookie
      rfl
    have hvalues : OrderedMap.lastOf key [("inter", Value.text "2s"), ("check", .boolean true)] =
        none := by
      simp [OrderedMap.lastOf, List.lookup, beq_eq_false_iff_ne.2, hinter, hcheck]
    have hfirst : firstValue? overlappingTemplates ["t", "u"] key = none := by
      refine List.findSome?_eq_none_iff.2 fun name hname => ?_
      simp only [List.mem_cons, List.not_mem_nil, or_false] at hname
      rcases hname with rfl | rfl
      · change List.lookup key [("inter", Value.text "2s"), ("cookie", .text "c")] = none
        simp [List.lookup, beq_eq_false_iff_ne.2, hinter, hcookie]
      · change List.lookup key [("inter", Value.text "9s"), ("check", .boolean true)] = none
        simp [List.lookup, beq_eq_false_iff_ne.2, hinter, hcheck]
    rw [hvalues]
    change none = ite _ none (firstValue? overlappingTemplates ["t", "u"] key)
    rw [hfirst, ite_self]

/-- What it compiles to. -/
def overlappingBackend : Configuration where
  backends :=
    [{ name := "app"
       body := { mode := some .http }
       pool :=
        { balance := some .roundRobin
          servers :=
            [{ name := "w"
               address := "10.0.0.1"
               options := { inter := "2s", cookie := "own", check := true } },
              { name := "x"
                address := "10.0.0.1"
                options := { inter := "2s", cookie := "own", check := true } }] } }]

theorem Document.compile_spelledOut_overlappingDocument :
    (overlappingDocument spreadServer).compile {} = .ok overlappingBackend ∧
      SpelledOut {} overlappingTemplates (spreadServer "w") (writtenServer "w") ∧
      SpelledOut {} overlappingTemplates (spreadServer "x") (writtenServer "x") ∧
      ∃ result, (overlappingDocument writtenServer).compile {} = .ok result ∧
        result = overlappingBackend ∧ result.text = overlappingBackend.text := by
  have hcompile : (overlappingDocument spreadServer).compile {} = .ok overlappingBackend := by cbv
  obtain ⟨config, hconfig, hnormal⟩ := compile_eq_ok_iff.1 hcompile
  obtain ⟨scope, hscope, -⟩ := Configuration.normalize_eq_ok_iff.1 hnormal
  have htemplates : config.templates = overlappingTemplates := by
    have h : (Configuration.ofDocument {} (overlappingDocument spreadServer)).map
        Configuration.templates = .ok overlappingTemplates := by cbv
    rw [hconfig] at h
    exact Except.ok.inj h
  have hrounds : ¬ LoopNode.Runs {} scope
      ⟨"i", .list [.literal (.text "a")], [spreadServer "x"], none⟩ [] := by
    rintro ⟨iterable, hiterable, hvalues⟩
    cases hiterable
    cases mapM_eq_ok.1 hvalues
  refine ⟨hcompile, spelledOut_writtenServer "w", spelledOut_writtenServer "x",
    Document.compile_spelledOut hconfig hscope (htemplates ▸ ?_) hcompile⟩
  refine .cons (.same _) (.cons (.same _) (.cons (.block (.inl rfl) ?_) .nil))
  exact .cons (.object (.inr (spelledOut_writtenServer "w")))
    (.cons (.loop (.cons (.inr (spelledOut_writtenServer "x")) .nil) fun h => absurd h hrounds)
      .nil)

/-- A template whose flag is not a flag. -/
def flawedTemplates : OrderedMap Template :=
  .ofList [("t", { name := "t", params := .ofList [("check", .text "abc")] })]

/-- A server that spreads it. -/
def idleServer : ObjectNode :=
  ⟨"server", ["w"], [.pair "address" (.literal (.text "10.0.0.1")) none], ["t"], none⟩

/-- The same server with the template spelled out. -/
def flawedServer : ObjectNode :=
  { idleServer with
    children := idleServer.children ++ [.pair "check" (.literal (.text "abc")) none]
    spreads := [] }

/-- The template, and a backend with a server in a loop without a round. -/
def idleDocument (server : ObjectNode) : Document where
  items :=
    [.template "t" [.pair "check" (.literal (.text "abc")) none] none,
      .block
        { kind := "backend"
          name := "app"
          children := [.loop ⟨"i", .list [], [server], none⟩]
          position := none }]

theorem spelledOut_flawedServer : SpelledOut {} flawedTemplates idleServer flawedServer where
  kind := rfl
  plain := by
    intro name hname template htemplate
    cases List.mem_singleton.1 hname
    cases htemplate
    decide
  pairs := by
    refine ⟨[("check", .literal (.text "abc"), none)], [("check", .text "abc")], rfl, rfl,
      fun key => ?_⟩
    by_cases hcheck : key = "check"
    · subst hcheck
      rfl
    have hlookup : List.lookup key [("check", Value.text "abc")] = none := by
      simp [List.lookup, beq_eq_false_iff_ne.2, hcheck]
    have hfirst : firstValue? flawedTemplates ["t"] key = none := by
      refine List.findSome?_eq_none_iff.2 fun name hname => ?_
      cases List.mem_singleton.1 hname
      exact hlookup
    change List.lookup key [("check", Value.text "abc")] =
      ite _ none (firstValue? flawedTemplates ["t"] key)
    rw [hlookup, hfirst, ite_self]

/-- **In a loop without a round the templates of a server are never looked at**: it may spread a
template that cannot be written out. -/
theorem Document.spelledOut_without_round :
    (Configuration.ofDocument {} (idleDocument idleServer)).map Configuration.templates =
        .ok flawedTemplates ∧
      SpelledOut {} flawedTemplates idleServer flawedServer ∧
      (∃ result, (idleDocument idleServer).compile {} = .ok result) ∧
      ∃ error, (idleDocument flawedServer).compile {} = .error (.build error) := by
  have hcompile :
      ((idleDocument idleServer).compile {}).map (fun result => result.backends.length) = .ok 1 := by
    cbv
  have hfails : (idleDocument flawedServer).compile {} =
      .error (.build (.field "server" ⟨"check", "boolean", "string"⟩ none)) := by cbv
  obtain ⟨result, hresult, -⟩ := map_eq_ok.1 hcompile
  exact ⟨by cbv, spelledOut_flawedServer, ⟨result, hresult⟩, _, hfails⟩

end Documents

end Balancer
