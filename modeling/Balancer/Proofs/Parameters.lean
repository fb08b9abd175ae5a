import Balancer.Entry.Servers
import Balancer.Normal.Spreads
import Balancer.Proofs.Agreement
import Balancer.Proofs.OrderedMap

/-!
# The parameters of a server

What can be set on a server, beside its name and its address, is its port and its options. A
`Parameter` is either, and everything that is done to a server treats all parameters alike: reading
one from fields, filling it from a template, substituting its texts. So each of the three is
described here parameter by parameter.

* A server read from fields has in each parameter what the field of that key converts to
  (`Server.ofFields_eq_ok_iff`).
* A server that has taken its templates over has in each parameter what it had there, and otherwise
  what the first of its templates with that key gives (`Server.expand_eq_ok`).
* A server whose texts are substituted has in each parameter the substitute of what it had there
  (`Server.traverse_eq_ok_iff`).
-/

namespace Balancer

/-! ### Slots -/

@[simp]
theorem ServerOptions.get_set_self (options : ServerOptions) (slot : ServerSlot)
    (value : slot.type.Carrier) : (options.set slot value).get slot = some value := by
  cases slot <;> rfl

theorem ServerOptions.get_set_of_ne (options : ServerOptions) {slot other : ServerSlot}
    (value : slot.type.Carrier) (h : other ≠ slot) :
    (options.set slot value).get other = options.get other := by
  cases slot <;> cases other <;> first | rfl | exact absurd rfl h

@[simp]
theorem ServerOptions.get_empty (slot : ServerSlot) : ({} : ServerOptions).get slot = none := by
  cases slot <;> rfl

theorem ServerSlot.ofKey?_key (slot : ServerSlot) : ofKey? slot.key = some slot := by
  cases slot <;> decide

theorem ServerSlot.ofKey?_eq_some_iff {key : String} {slot : ServerSlot} :
    ofKey? key = some slot ↔ slot.key = key := by
  constructor
  · intro h
    simpa using List.find?_some h
  · rintro rfl
    exact slot.ofKey?_key

/-- No option has a key that means something else on a server or a template. -/
theorem ServerSlot.key_notMem (slot : ServerSlot) :
    slot.key ∉ ["name", "address", "port", "kind"] := by
  cases slot <;> decide

/-! ### Parameters -/

/-- **A parameter of a server**: its port or an option. -/
inductive Parameter where
  | port
  | option (slot : ServerSlot)
deriving DecidableEq, Repr

namespace Parameter

/-- The type of a parameter. -/
@[reducible] def type : Parameter → SlotType
  | port => .port
  | option slot => slot.type

/-- The key of a parameter. -/
def key : Parameter → String
  | port => "port"
  | option slot => slot.key

/-- The parameter with a given key. -/
def ofKey? (key : String) : Option Parameter :=
  if key = "port" then some port else (ServerSlot.ofKey? key).map option

/-- The conversion of a value to the type of a parameter. -/
def convert (p : Parameter) (value : Value) : Except FieldError p.type.Carrier :=
  p.type.convert p.key value

theorem ofKey?_eq_some_iff {key : String} {p : Parameter} : ofKey? key = some p ↔ p.key = key := by
  rw [ofKey?]
  split
  · rename_i hkey
    subst hkey
    cases p with
    | port => simp [Parameter.key]
    | option slot =>
      have hslot := slot.key_notMem
      simp only [List.mem_cons, not_or] at hslot
      simp [Parameter.key, hslot]
  · rename_i hkey
    cases p with
    | port => simp [Parameter.key, Ne.symm hkey]
    | option slot => simp [Parameter.key, ServerSlot.ofKey?_eq_some_iff]

theorem key_notMem (p : Parameter) : p.key ∉ ["name", "address", "kind"] := by
  cases p with
  | port => decide
  | option slot =>
    have hslot := slot.key_notMem
    simp only [List.mem_cons, not_or] at hslot
    simp [key, hslot]

theorem key_injective {p q : Parameter} (h : p.key = q.key) : p = q :=
  Option.some.inj ((ofKey?_eq_some_iff.2 rfl).symm.trans (ofKey?_eq_some_iff.2 h.symm))

end Parameter

namespace Server

/-- The content of a parameter. -/
def get (server : Server) : (p : Parameter) → Option p.type.Carrier
  | .port => server.port
  | .option slot => server.options.get slot

/-- The server with a parameter set to a value if it was unset. -/
def fill (server : Server) : (p : Parameter) → p.type.Carrier → Server
  | .port, value => { server with port := server.port.or (some value) }
  | .option slot, value => { server with options := server.options.fill slot value }

/-- A server is what it is called, where it is, what it spreads and what its parameters hold. -/
theorem ext_get {server server' : Server} (hname : server.name = server'.name)
    (haddress : server.address = server'.address) (hspreads : server.spreads = server'.spreads)
    (h : ∀ p, server.get p = server'.get p) : server = server' := by
  obtain ⟨name, address, port, options, spreads⟩ := server
  obtain ⟨name', address', port', options', spreads'⟩ := server'
  cases hname
  cases haddress
  cases hspreads
  cases (h .port : port = port')
  cases ServerOptions.ext_get fun slot => h (.option slot)
  rfl

/-- **Filling changes a parameter that was unset** to the value, and no other. -/
theorem get_fill_self (server : Server) (p : Parameter) (value : p.type.Carrier) :
    (server.fill p value).get p = (server.get p).or (some value) := by
  cases p with
  | port => rfl
  | option slot =>
    change (server.options.fill slot value).get slot = (server.options.get slot).or (some value)
    rw [ServerOptions.fill]
    cases h : server.options.get slot with
    | none => simp
    | some x => simp [h]

theorem get_fill_of_ne (server : Server) {p q : Parameter} (value : p.type.Carrier) (h : q ≠ p) :
    (server.fill p value).get q = server.get q := by
  cases p with
  | port =>
    cases q with
    | port => exact absurd rfl h
    | option slot => rfl
  | option slot =>
    cases q with
    | port => rfl
    | option other =>
      have hother : other ≠ slot := fun heq => h (heq ▸ rfl)
      change (server.options.fill slot value).get other = server.options.get other
      rw [ServerOptions.fill]
      split
      · rfl
      · exact ServerOptions.get_set_of_ne _ value hother

theorem fill_frame (server : Server) (p : Parameter) (value : p.type.Carrier) :
    (server.fill p value).name = server.name ∧ (server.fill p value).address = server.address ∧
      (server.fill p value).spreads = server.spreads := by
  cases p <;> exact ⟨rfl, rfl, rfl⟩

/-- Filling by key is filling the parameter with that key. -/
theorem fill?_eq (server : Server) (key : String) (value : Value) :
    server.fill? key value = (Parameter.ofKey? key).map fun p =>
      server.fill p <$> p.convert value := by
  rw [fill?, Parameter.ofKey?]
  split
  · rename_i hkey
    subst hkey
    rfl
  · rw [ServerOptions.fill?]
    cases hslot : ServerSlot.ofKey? key with
    | none => rfl
    | some slot =>
      simp only [Option.map_some, ServerSlot.convert, Parameter.convert, Parameter.key]
      cases slot.type.convert slot.key value <;> rfl

end Server

/-! ### Reading from fields -/

/-- A field that may be left out is converted if it is there. -/
theorem Fields.convert_eq_ok_iff {α : Type} {fields : Fields} {key : String}
    {conversion : Value → Except FieldError α} {found : Option α} :
    fields.convert key conversion = .ok found ↔
      (fields.entries.get? key).mapM conversion = .ok found := by
  rw [Fields.convert]
  cases fields.entries.get? key with
  | none => simp [pure, Except.pure]
  | some v =>
    rw [Option.mapM_some]
    cases hv : conversion v <;> simp [hv]

theorem FieldReader.text_eq_ok_iff {fields : Fields} {key s : String} :
    (FieldReader.text key).read fields = .ok s ↔
      (fields.entries.get? key).mapM (Value.toText key) = .ok (some s) := by
  have hread : (FieldReader.text? key).read fields = fields.convert key (Value.toText key) := rfl
  rw [← Fields.convert_eq_ok_iff, FieldReader.text]
  dsimp only
  rw [hread]
  cases fields.convert key (Value.toText key) with
  | error e => simp
  | ok found => cases found <;> simp

namespace ServerOptions

variable {fields : Fields} {entries : List (String × Value)} {options : ServerOptions}

/-- One entry of the options of a server. -/
theorem assign?_eq_some_ok_iff {key : String} {value : Value} {options' : ServerOptions} :
    options.assign? key value = some (.ok options') ↔
      ∃ slot x, ServerSlot.ofKey? key = some slot ∧ slot.convert value = .ok x ∧
        options' = options.set slot x := by
  rw [assign?]
  cases ServerSlot.ofKey? key with
  | none => simp
  | some slot =>
    simp only [Option.map_some, Option.some.injEq, bind_eq_ok]
    constructor
    · rintro ⟨x, hx, h⟩
      exact ⟨slot, x, rfl, hx, (Except.ok.inj h).symm⟩
    · rintro ⟨_, x, rfl, hx, rfl⟩
      exact ⟨x, hx, rfl⟩

theorem ofEntries_concat_eq_ok_iff {key : String} {value : Value} :
    ofEntries fields (entries ++ [(key, value)]) = .ok options ↔
      ∃ before slot x, ofEntries fields entries = .ok before ∧
        ServerSlot.ofKey? key = some slot ∧ slot.convert value = .ok x ∧
        options = before.set slot x := by
  simp only [ofEntries, List.foldlM_append, List.foldlM_cons, List.foldlM_nil, bind_pure,
    bind_eq_ok]
  constructor
  · rintro ⟨before, hbefore, h⟩
    split at h
    · exact nomatch h
    · rename_i after hassign
      cases h
      obtain ⟨slot, x, hslot, hx, hset⟩ := assign?_eq_some_ok_iff.1 hassign
      exact ⟨before, slot, x, hbefore, hslot, hx, hset⟩
    · exact nomatch h
  · rintro ⟨before, slot, x, hbefore, hslot, hx, rfl⟩
    refine ⟨before, hbefore, ?_⟩
    rw [assign?_eq_some_ok_iff.2 ⟨slot, x, hslot, hx, rfl⟩]

/-- The options that are read hold what their entries convert to. -/
theorem get_of_ofEntries (hnodup : (entries.map Prod.fst).Nodup)
    (h : ofEntries fields entries = .ok options) (slot : ServerSlot) :
    (entries.lookup slot.key).mapM slot.convert = .ok (options.get slot) := by
  induction entries using List.reverseRecOn generalizing options with
  | nil =>
    cases h
    rw [get_empty]
    rfl
  | append_singleton entries entry ih =>
    obtain ⟨key, value⟩ := entry
    obtain ⟨before, other, x, hbefore, hother, hx, rfl⟩ := ofEntries_concat_eq_ok_iff.1 h
    rw [ServerSlot.ofKey?_eq_some_iff] at hother
    subst hother
    rw [List.map_append, List.nodup_append] at hnodup
    obtain ⟨hentries, -, hdisjoint⟩ := hnodup
    rw [List.lookup_append, OrderedMap.lookup_cons_eq_ite]
    by_cases hslot : slot = other
    · subst hslot
      have hnone : entries.lookup slot.key = none := by
        rw [List.lookup_eq_none_iff]
        intro entry hentry
        simpa using (hdisjoint _ (List.mem_map_of_mem hentry) slot.key (by simp)).symm
      rw [hnone, get_set_self, if_pos rfl, Option.none_or, optionMapM_eq_ok_some_iff]
      exact ⟨value, rfl, hx⟩
    · have hkey : slot.key ≠ other.key := fun heq =>
        hslot (Option.some.inj (slot.ofKey?_key.symm.trans (heq ▸ other.ofKey?_key)))
      rw [get_set_of_ne _ _ hslot, if_neg hkey, List.lookup_nil, Option.or_none]
      exact ih hentries hbefore

/-- Options can be read when each entry names a slot and converts to its type. -/
theorem exists_ofEntries_iff :
    (∃ options, ofEntries fields entries = .ok options) ↔
      ∀ entry ∈ entries, ∃ slot x, ServerSlot.ofKey? entry.1 = some slot ∧
        slot.convert entry.2 = .ok x := by
  induction entries using List.reverseRecOn with
  | nil => simp [ofEntries, pure, Except.pure]
  | append_singleton entries entry ih =>
    obtain ⟨key, value⟩ := entry
    simp only [ofEntries_concat_eq_ok_iff, List.forall_mem_append, List.forall_mem_singleton, ← ih]
    constructor
    · rintro ⟨_, before, slot, x, hbefore, hslot, hx, -⟩
      exact ⟨⟨before, hbefore⟩, slot, x, hslot, hx⟩
    · rintro ⟨⟨before, hbefore⟩, slot, x, hslot, hx⟩
      exact ⟨_, before, slot, x, hbefore, hslot, hx, rfl⟩

/-- **Options are read slot by slot**, where no key stands twice. -/
theorem ofEntries_eq_ok_iff (hnodup : (entries.map Prod.fst).Nodup) :
    ofEntries fields entries = .ok options ↔
      (∀ slot : ServerSlot,
          (entries.lookup slot.key).mapM slot.convert = .ok (options.get slot)) ∧
        ∀ entry ∈ entries, (ServerSlot.ofKey? entry.1).isSome := by
  constructor
  · intro h
    refine ⟨get_of_ofEntries hnodup h, fun entry hentry => ?_⟩
    obtain ⟨slot, -, hslot, -⟩ := exists_ofEntries_iff.1 ⟨options, h⟩ entry hentry
    rw [hslot]
    rfl
  · rintro ⟨hget, hkeys⟩
    have hread : ∃ found, ofEntries fields entries = .ok found := by
      refine exists_ofEntries_iff.2 fun entry hentry => ?_
      obtain ⟨slot, hslot⟩ := Option.isSome_iff_exists.1 (hkeys entry hentry)
      have hlookup : entries.lookup slot.key = some entry.2 := by
        rw [ServerSlot.ofKey?_eq_some_iff.1 hslot]
        exact (OrderedMap.get?_eq_some_iff (m := ⟨entries, hnodup⟩)).2 hentry
      have hconvert := hget slot
      rw [hlookup] at hconvert
      obtain ⟨x, hx, -⟩ := map_eq_ok.1 hconvert
      exact ⟨slot, x, hslot, hx⟩
    obtain ⟨found, hfound⟩ := hread
    have heq : found = options := ext_get fun slot =>
      Except.ok.inj ((get_of_ofEntries hnodup hfound slot).symm.trans (hget slot))
    rw [hfound, heq]

end ServerOptions

/-- **A server as its fields give it.** -/
structure Server.ReadFrom (fields : Fields) (spreads : List String) (server : Server) : Prop where
  name : ∃ written, (fields.entries.get? "name").mapM (Value.toText "name") = .ok written ∧
    Server.nameOf fields written = .ok server.name
  address : (fields.entries.get? "address").mapM (Value.toText "address") =
    .ok (some server.address)
  parameters (p : Parameter) : (fields.entries.get? p.key).mapM p.convert = .ok (server.get p)
  keys : ∀ key ∈ fields.entries.keys,
    key = "name" ∨ key = "address" ∨ (Parameter.ofKey? key).isSome
  spreads : server.spreads = spreads

/-- The fields that are not options are left out of the options, and no others. -/
theorem Fields.lookup_others (fields : Fields) (known : List String) {key : String}
    (h : key ∉ known) : (fields.others known).lookup key = fields.entries.get? key := by
  rw [Fields.others, OrderedMap.get?]
  induction fields.entries.entries with
  | nil => rfl
  | cons entry entries ih =>
    obtain ⟨k, v⟩ := entry
    rw [List.filter_cons, OrderedMap.lookup_cons_eq_ite, ← ih]
    by_cases hk : key = k
    · subst hk
      simp [h]
    · rw [if_neg hk]
      by_cases hknown : k ∈ known
      · simp [hknown]
      · simp [hknown, OrderedMap.lookup_cons_eq_ite, hk]

theorem Fields.nodup_others (fields : Fields) (known : List String) :
    ((fields.others known).map Prod.fst).Nodup :=
  (List.filter_sublist.map Prod.fst).nodup fields.entries.nodup

/-- **A server is read parameter by parameter.** -/
theorem Server.ofFields_eq_ok_iff {fields : Fields} {spreads : List String} {server : Server} :
    Server.ofFields fields spreads = .ok server ↔ Server.ReadFrom fields spreads server := by
  have hoptions (options : ServerOptions) :
      ServerOptions.ofEntries fields (fields.others ["name", "address", "port"]) = .ok options ↔
        (∀ slot : ServerSlot,
          (fields.entries.get? slot.key).mapM slot.convert = .ok (options.get slot)) ∧
        ∀ key ∈ fields.entries.keys, key = "name" ∨ key = "address" ∨
          (Parameter.ofKey? key).isSome := by
    have hlookup (slot : ServerSlot) :
        (fields.others ["name", "address", "port"]).lookup slot.key =
          fields.entries.get? slot.key :=
      fields.lookup_others _ fun hmem =>
        slot.key_notMem (by simp only [List.mem_cons] at hmem ⊢; tauto)
    rw [ServerOptions.ofEntries_eq_ok_iff (fields.nodup_others _)]
    simp only [hlookup]
    refine and_congr_right fun _ => ?_
    rw [OrderedMap.keys, List.forall_mem_map, Fields.others]
    simp only [List.mem_filter, Prod.forall, and_imp]
    refine forall₂_congr fun key value => imp_congr_right fun _ => ?_
    by_cases hport : key = "port"
    · simp [hport, Parameter.ofKey?]
    · by_cases hname : key = "name"
      · simp [hname]
      · by_cases haddress : key = "address"
        · simp [haddress]
        · simp [hport, hname, haddress, Parameter.ofKey?]
  constructor
  · intro h
    obtain ⟨written, hwritten, h⟩ := bind_eq_ok.1 h
    obtain ⟨name, hname, h⟩ := bind_eq_ok.1 h
    obtain ⟨address, haddress, h⟩ := bind_eq_ok.1 h
    obtain ⟨port, hport, h⟩ := bind_eq_ok.1 h
    obtain ⟨options, hread, h⟩ := bind_eq_ok.1 h
    cases h
    obtain ⟨hslots, hkeys⟩ := (hoptions options).1 hread
    refine ⟨⟨written, Fields.convert_eq_ok_iff.1 hwritten, hname⟩,
      FieldReader.text_eq_ok_iff.1 haddress, fun p => ?_, hkeys, rfl⟩
    cases p with
    | port => exact Fields.convert_eq_ok_iff.1 hport
    | option slot => exact hslots slot
  · rintro ⟨⟨written, hwritten, hname⟩, haddress, hparameters, hkeys, rfl⟩
    refine bind_eq_ok.2 ⟨written, Fields.convert_eq_ok_iff.2 hwritten, ?_⟩
    refine bind_eq_ok.2 ⟨server.name, hname, ?_⟩
    refine bind_eq_ok.2 ⟨server.address, FieldReader.text_eq_ok_iff.2 haddress, ?_⟩
    refine bind_eq_ok.2 ⟨server.port, Fields.convert_eq_ok_iff.2 (hparameters .port), ?_⟩
    refine bind_eq_ok.2 ⟨server.options, (hoptions _).2 ⟨fun slot => ?_, hkeys⟩, rfl⟩
    exact hparameters (.option slot)

/-! ### Taking templates over -/

section Spreads

variable (scope : OrderedMap Value) (templates : OrderedMap Template)

/-- **What a parameter takes over from a value** of a template: the value is substituted, then
converted. -/
def Parameter.take? (p : Parameter) (value : Value) : Option p.type.Carrier := do
  let value ← (interpolateValue scope.lookupVariable value).toOption
  (p.convert value).toOption

/-- A template whose values can all be taken over. -/
def Template.Takeable (template : Template) : Prop :=
  ∀ entry ∈ template.params.entries,
    ∃ p : Parameter, p.key = entry.1 ∧ (p.take? scope entry.2).isSome

/-- The value of a key in the first of the templates that has it. -/
def firstValue? (spreads : List String) (key : String) : Option Value :=
  spreads.findSome? fun name => (templates.get? name).bind fun template => template.params.get? key

/-- **A server with its unset parameters filled**: what is set stays, the rest is as `content`
says. -/
structure Server.FilledBy (server : Server) (content : (p : Parameter) → Option p.type.Carrier)
    (result : Server) : Prop where
  name : result.name = server.name
  address : result.address = server.address
  spreads : result.spreads = server.spreads
  parameters (p : Parameter) : result.get p = (server.get p).or (content p)

variable {scope templates}

namespace Server

variable {server result : Server}

/-- Taking over a value under the key of a parameter. -/
theorem takeParam_key (template : String) (p : Parameter) (value : Value) :
    server.takeParam scope template p.key value =
      interpolateValue scope.lookupVariable value >>= fun v =>
        match p.convert v with
        | .ok x => .ok (server.fill p x)
        | .error e => .error (.templateParam template e) := by
  have hidentity : identityKeys.contains p.key = false := by
    have hnot := p.key_notMem
    simp only [List.mem_cons, not_or] at hnot
    simp [identityKeys, hnot]
  rw [takeParam, hidentity]
  refine bind_congr fun v => ?_
  rw [fill?_eq, Parameter.ofKey?_eq_some_iff.2 rfl, Option.map_some]
  cases p.convert v <;> rfl

theorem exists_key_of_takeParam {template key : String} {value : Value}
    (h : server.takeParam scope template key value = .ok result) : ∃ p, Parameter.key p = key := by
  rw [takeParam] at h
  split at h
  · exact nomatch h
  · obtain ⟨v, -, h⟩ := bind_eq_ok.1 h
    rw [fill?_eq] at h
    cases hp : Parameter.ofKey? key with
    | none =>
      rw [hp] at h
      exact nomatch h
    | some p => exact ⟨p, Parameter.ofKey?_eq_some_iff.1 hp⟩

theorem takeParam_eq_ok_iff {template key : String} {value : Value} :
    server.takeParam scope template key value = .ok result ↔
      ∃ p x, Parameter.key p = key ∧ p.take? scope value = some x ∧ result = server.fill p x := by
  have hkey (p : Parameter) : server.takeParam scope template p.key value = .ok result ↔
      ∃ x, p.take? scope value = some x ∧ result = server.fill p x := by
    rw [takeParam_key, Parameter.take?]
    cases interpolateValue scope.lookupVariable value with
    | error e => simp [Except.toOption]
    | ok v => cases hx : p.convert v <;> simp [Except.toOption, hx, eq_comm]
  constructor
  · intro h
    obtain ⟨p, rfl⟩ := exists_key_of_takeParam h
    obtain ⟨x, hx, hresult⟩ := (hkey p).1 h
    exact ⟨p, x, rfl, hx, hresult⟩
  · rintro ⟨p, x, rfl, hx, hresult⟩
    exact (hkey p).2 ⟨x, hx, hresult⟩

/-- Filling one parameter, and then the others. -/
theorem filledBy_fill_iff {p : Parameter} {x : p.type.Carrier} {value : Value}
    {entries : List (String × Value)} (hx : p.take? scope value = some x)
    (hfresh : entries.lookup p.key = none) :
    (server.fill p x).FilledBy (fun q => (entries.lookup q.key).bind (q.take? scope)) result ↔
      server.FilledBy (fun q => (((p.key, value) :: entries).lookup q.key).bind (q.take? scope))
        result := by
  obtain ⟨hname, haddress, hspreads⟩ := server.fill_frame p x
  have hget (q : Parameter) :
      ((server.fill p x).get q).or ((entries.lookup q.key).bind (q.take? scope)) =
        (server.get q).or
          ((((p.key, value) :: entries).lookup q.key).bind (q.take? scope)) := by
    rw [OrderedMap.lookup_cons_eq_ite]
    by_cases hq : q = p
    · subst hq
      rw [get_fill_self, hfresh, if_pos rfl, Option.bind_none, Option.or_none, Option.bind_some, hx]
    · rw [get_fill_of_ne _ _ hq, if_neg fun h => hq (Parameter.key_injective h)]
  constructor
  · rintro ⟨h₁, h₂, h₃, h₄⟩
    exact ⟨h₁.trans hname, h₂.trans haddress, h₃.trans hspreads, fun q => (h₄ q).trans (hget q)⟩
  · rintro ⟨h₁, h₂, h₃, h₄⟩
    exact ⟨h₁.trans hname.symm, h₂.trans haddress.symm, h₃.trans hspreads.symm,
      fun q => (h₄ q).trans (hget q).symm⟩

theorem filledBy_none_iff : server.FilledBy (fun _ => none) result ↔ result = server := by
  constructor
  · rintro ⟨hname, haddress, hspreads, hget⟩
    exact ext_get hname haddress hspreads fun p => by rw [hget, Option.or_none]
  · rintro rfl
    exact ⟨rfl, rfl, rfl, fun p => by rw [Option.or_none]⟩

/-- **Taking one template over**, where no key stands twice in it. -/
theorem foldlM_takeParam_eq_ok_iff {template : String} {entries : List (String × Value)}
    (hnodup : (entries.map Prod.fst).Nodup) :
    entries.foldlM (fun server (key, value) => takeParam scope template server key value) server =
        .ok result ↔
      (∀ entry ∈ entries, ∃ p, Parameter.key p = entry.1 ∧ (p.take? scope entry.2).isSome) ∧
        server.FilledBy (fun p => (entries.lookup p.key).bind (p.take? scope)) result := by
  induction entries generalizing server with
  | nil =>
    simp only [List.foldlM_nil, pure_eq_ok_iff, List.lookup_nil, Option.bind_none,
      filledBy_none_iff]
    exact ⟨fun h => ⟨List.forall_mem_nil _, h.symm⟩, fun h => h.2.symm⟩
  | cons entry entries ih =>
    obtain ⟨key, value⟩ := entry
    rw [List.map_cons, List.nodup_cons] at hnodup
    have hfresh : entries.lookup key = none :=
      OrderedMap.get?_eq_none_iff (m := ⟨entries, hnodup.2⟩).2 hnodup.1
    rw [List.foldlM_cons, bind_eq_ok]
    simp only [takeParam_eq_ok_iff, ih hnodup.2, List.forall_mem_cons]
    constructor
    · rintro ⟨_, ⟨p, x, rfl, hx, rfl⟩, hrest, hfilled⟩
      exact ⟨⟨⟨p, rfl, by rw [hx]; rfl⟩, hrest⟩, (filledBy_fill_iff hx hfresh).1 hfilled⟩
    · rintro ⟨⟨⟨p, rfl, hsome⟩, hrest⟩, hfilled⟩
      obtain ⟨x, hx⟩ := Option.isSome_iff_exists.1 hsome
      exact ⟨_, ⟨p, x, rfl, hx, rfl⟩, hrest, (filledBy_fill_iff hx hfresh).2 hfilled⟩

theorem takeTemplate_eq_ok_iff {template : Template} :
    server.takeTemplate scope template = .ok result ↔
      template.Takeable scope ∧
        server.FilledBy (fun p => (template.params.get? p.key).bind (p.take? scope)) result :=
  foldlM_takeParam_eq_ok_iff template.params.nodup

/-- What the first of several templates gives is what one gives and, failing that, the others. -/
theorem firstValue?_cons_bind {name : String} {spreads : List String} {template : Template}
    (htemplate : templates.get? name = some template) (htakeable : template.Takeable scope)
    (p : Parameter) :
    (firstValue? templates (name :: spreads) p.key).bind (p.take? scope) =
      ((template.params.get? p.key).bind (p.take? scope)).or
        ((firstValue? templates spreads p.key).bind (p.take? scope)) := by
  rw [firstValue?, List.findSome?_cons, htemplate, Option.bind_some]
  cases hvalue : template.params.get? p.key with
  | none => rfl
  | some v =>
    obtain ⟨q, hq, hsome⟩ := htakeable _ (OrderedMap.get?_eq_some_iff.1 hvalue)
    cases Parameter.key_injective hq
    obtain ⟨x, hx⟩ := Option.isSome_iff_exists.1 hsome
    rw [Option.bind_some, hx, Option.some_or]

/-- **Taking all templates over**: each of them can be taken over, and what is unset is filled from
the first that has it. -/
theorem expand_eq_ok (h : server.expand scope templates = .ok result) :
    (∀ name ∈ server.spreads, ∃ template, templates.get? name = some template ∧
        template.Takeable scope) ∧
      ({ server with spreads := [] } : Server).FilledBy
        (fun p => (firstValue? templates server.spreads p.key).bind (p.take? scope)) result := by
  rw [expand] at h
  generalize { server with spreads := [] } = start at h ⊢
  generalize server.spreads = spreads at h ⊢
  induction spreads generalizing start with
  | nil =>
    cases h
    exact ⟨List.forall_mem_nil _, filledBy_none_iff.2 rfl⟩
  | cons name spreads ih =>
    rw [List.foldlM_cons] at h
    obtain ⟨next, hnext, h⟩ := bind_eq_ok.1 h
    split at hnext
    · exact nomatch hnext
    · rename_i template htemplate
      obtain ⟨htakeable, hfirst⟩ := takeTemplate_eq_ok_iff.1 hnext
      obtain ⟨hrest, hfilled⟩ := ih next h
      refine ⟨List.forall_mem_cons.2 ⟨⟨template, htemplate, htakeable⟩, hrest⟩, ?_⟩
      refine ⟨hfilled.name.trans hfirst.name, hfilled.address.trans hfirst.address,
        hfilled.spreads.trans hfirst.spreads, fun p => ?_⟩
      rw [hfilled.parameters, hfirst.parameters, Option.or_assoc,
        firstValue?_cons_bind htemplate htakeable]

theorem returns_takeTemplate {template : Template} (h : template.Takeable scope)
    (server : Server) : Returns (server.takeTemplate scope template) := by
  refine returns_foldlM (fun state entry hentry => ?_) server
  obtain ⟨p, hp, hsome⟩ := h entry hentry
  obtain ⟨x, hx⟩ := Option.isSome_iff_exists.1 hsome
  exact ⟨_, takeParam_eq_ok_iff.2 ⟨p, x, hp, hx, rfl⟩⟩

/-- Whether the templates can be taken over does not depend on what the server has set. -/
theorem returns_expand_iff :
    Returns (server.expand scope templates) ↔
      ∀ name ∈ server.spreads, ∃ template, templates.get? name = some template ∧
        template.Takeable scope := by
  constructor
  · rintro ⟨result, h⟩
    exact (expand_eq_ok h).1
  · intro h
    refine returns_foldlM (fun state name hname => ?_) _
    obtain ⟨template, htemplate, htakeable⟩ := h name hname
    rw [htemplate]
    exact returns_takeTemplate htakeable state

end Server

end Spreads

/-! ### Substituting texts -/

section Traverse

variable {ε : Type} {f : String → Except ε String}

theorem traverse_optionText {a b : Option String} (h : Agree (fun s t => f s = .ok t) a b) :
    Strings.traverse f a = Except.ok b := by
  cases h with
  | none => rfl
  | some h =>
    change (do return some (← f _)) = _
    rw [h]
    rfl

theorem traverse_optionTexts {a b : Option (List String)}
    (h : Agree (fun s t => f s = .ok t) a b) : Strings.traverse f a = Except.ok b := by
  cases h with
  | none => rfl
  | some h =>
    change (do return some (← List.mapM f _)) = _
    rw [mapM_eq_ok.2 h]
    rfl

theorem eq_of_agree_plain {α : Type} [Plain α] {R : String → String → Prop} {a b : Option α}
    (h : Agree R a b) : a = b := by
  cases h with
  | none => rfl
  | some h => rw [h]

theorem eq_none_of_agree {α : Type} [Texts α] {R : String → String → Prop} {b : Option α}
    (h : Agree R none b) : b = none := by
  cases h
  rfl

/-- **The texts of the options are substituted slot by slot.** -/
theorem ServerOptions.traverse_eq_ok_iff {options options' : ServerOptions} :
    Strings.traverse f options = Except.ok options' ↔
      ∀ slot, Agree (fun s t => f s = .ok t) (options.get slot) (options'.get slot) := by
  constructor
  · intro h
    exact (ends f options).of_ok h
  · intro h
    refine bind_eq_ok.2 ⟨_, traverse_optionText (h .inter), ?_⟩
    refine bind_eq_ok.2 ⟨_, traverse_optionText (h .fastinter), ?_⟩
    refine bind_eq_ok.2 ⟨_, traverse_optionText (h .downinter), ?_⟩
    refine bind_eq_ok.2 ⟨_, traverse_optionText (h .verify), ?_⟩
    refine bind_eq_ok.2 ⟨_, traverse_optionText (h .caFile), ?_⟩
    refine bind_eq_ok.2 ⟨_, traverse_optionText (h .crt), ?_⟩
    refine bind_eq_ok.2 ⟨_, traverse_optionText (h .sni), ?_⟩
    refine bind_eq_ok.2 ⟨_, traverse_optionTexts (h .alpn), ?_⟩
    refine bind_eq_ok.2 ⟨_, traverse_optionText (h .ciphers), ?_⟩
    refine bind_eq_ok.2 ⟨_, traverse_optionText (h .sslMinVer), ?_⟩
    refine bind_eq_ok.2 ⟨_, traverse_optionText (h .cookie), ?_⟩
    refine bind_eq_ok.2 ⟨_, traverse_optionText (h .resolvers), ?_⟩
    refine bind_eq_ok.2 ⟨_, traverse_optionText (h .resolvePrefer), ?_⟩
    refine bind_eq_ok.2 ⟨_, traverse_optionText (h .initAddr), ?_⟩
    refine bind_eq_ok.2 ⟨_, traverse_optionText (h .slowstart), ?_⟩
    refine bind_eq_ok.2 ⟨_, traverse_optionText (h .agentInter), ?_⟩
    refine bind_eq_ok.2 ⟨_, traverse_optionText (h .track), ?_⟩
    refine bind_eq_ok.2 ⟨_, traverse_optionText (h .observe), ?_⟩
    refine bind_eq_ok.2 ⟨_, traverse_optionText (h .onError), ?_⟩
    refine bind_eq_ok.2 ⟨_, traverse_optionText (h .onMarkedDown), ?_⟩
    refine bind_eq_ok.2 ⟨_, traverse_optionText (h .proto), ?_⟩
    refine bind_eq_ok.2 ⟨_, traverse_optionText (h .source), ?_⟩
    refine congrArg Except.ok (ServerOptions.ext_get fun slot => ?_)
    cases slot <;> first | rfl | exact eq_of_agree_plain (h _)

/-- **The texts of a server are substituted parameter by parameter.** -/
theorem Server.traverse_eq_ok_iff {server result : Server} :
    Strings.traverse f server = Except.ok result ↔
      f server.name = .ok result.name ∧ f server.address = .ok result.address ∧
        result.spreads = server.spreads ∧
        ∀ p, Agree (fun s t => f s = .ok t) (server.get p) (result.get p) := by
  constructor
  · intro h
    obtain ⟨name, hname, h⟩ := bind_eq_ok.1 h
    obtain ⟨address, haddress, h⟩ := bind_eq_ok.1 h
    obtain ⟨options, hoptions, h⟩ := bind_eq_ok.1 h
    cases h
    refine ⟨hname, haddress, rfl, fun p => ?_⟩
    cases p with
    | port => exact agree_refl _ _
    | option slot => exact ServerOptions.traverse_eq_ok_iff.1 hoptions slot
  · rintro ⟨hname, haddress, hspreads, h⟩
    refine bind_eq_ok.2 ⟨result.name, hname, bind_eq_ok.2 ⟨result.address, haddress, ?_⟩⟩
    refine bind_eq_ok.2 ⟨result.options, ?_, ?_⟩
    · exact ServerOptions.traverse_eq_ok_iff.2 fun slot => h (.option slot)
    · have hport : server.port = result.port := eq_of_agree_plain (h .port)
      rw [hport, ← hspreads]
      rfl

end Traverse

end Balancer
