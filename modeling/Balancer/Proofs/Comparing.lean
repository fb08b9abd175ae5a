import Balancer.Assembly
import Balancer.Proofs.Ends

/-!
# Two readings side by side

An object is read from its fields. When two objects are read that differ a little, in their places
or in the way in which values are written, the two readings are compared step by step. What is known
in the end depends on the comparison, but the way there does not: it goes along the readers of
fields, whatever they are asked for.

So this file is about any comparison of constructions (`Comparison`). Fields can be compared if they
have the same keys and labels, if the errors of the readers can be compared, and if what is made of
single values can be compared (`Compares`). Then everything that is read from the fields can be
compared, which is `ObjectKind.compares_read`.
-/

namespace Balancer

/-- **Two errors can be compared**, whatever was to be constructed. -/
def Comparison.Stops {ε φ : Type} (C : Comparison ε φ) (e : ε) (e' : φ) : Prop :=
  ∀ {α β : Type} {R : α → β → Prop}, C.Holds R (.error e) (.error e')

/-! ### Fields -/

/-- What becomes of the conversion of a field. -/
def Fields.attempt {α : Type} (fields : Fields) : Except FieldError α → Except BuildError α
  | .ok a => .ok a
  | .error e => .error (fields.fieldError e)

/-- The parameter of a rule that a field gives. -/
def Fields.parameter (fields : Fields) (key : String) (value : Value) :
    Except BuildError (String × String) :=
  match value.render with
  | some rendered => .ok (key, rendered)
  | none => .error (fields.fieldError (value.mismatch key "scalar or list"))

/-- What the value of the field `forwardfor` says. -/
def ProxyOptions.ofNetwork (fields : Fields) : Value → Except BuildError ProxyOptions
  | .text network =>
    if network = "true" then .ok (ProxyOptions.set {} .forwardfor true)
    else if network = "false" then .ok (ProxyOptions.set {} .forwardfor false)
    else .ok { ProxyOptions.set {} .forwardfor true with forwardforExcept := some network }
  | value => ProxyOptions.assign fields {} "forwardfor" value

/-- **Lists of named values with the same names**, and under each of them related values. -/
abbrev Entrywise {α β : Type} (R : α → β → Prop) : List (String × α) → List (String × β) → Prop :=
  List.Forall₂ fun entry entry' => entry.1 = entry'.1 ∧ R entry.2 entry'.2

namespace Entrywise

variable {α β : Type} {R : α → β → Prop} {as : List (String × α)} {bs : List (String × β)}

/-- What is found under a key is related. -/
theorem rel_lookup (h : Entrywise R as bs) (key : String) :
    Option.Rel R (as.lookup key) (bs.lookup key) := by
  induction h with
  | nil => exact .none
  | @cons entry entry' _ _ hentry _ ih =>
    obtain ⟨k, a⟩ := entry
    obtain ⟨_, b⟩ := entry'
    obtain ⟨rfl, hab⟩ := hentry
    rw [List.lookup_cons, List.lookup_cons]
    cases key == k with
    | true => exact .some hab
    | false => exact ih

/-- The values whose names are not among the given ones. -/
theorem filter_notMem (h : Entrywise R as bs) (known : List String) :
    Entrywise R (as.filter fun entry => !known.contains entry.1)
      (bs.filter fun entry => !known.contains entry.1) := by
  refine List.rel_filter ?_ h
  rintro ⟨key, a⟩ ⟨_, b⟩ ⟨rfl, -⟩
  exact Iff.rfl

theorem insertEntry (h : Entrywise R as bs) (key : String) {a : α} {b : β} (hab : R a b) :
    Entrywise R (OrderedMap.insertEntry key a as) (OrderedMap.insertEntry key b bs) := by
  induction h with
  | nil => exact .cons ⟨rfl, hab⟩ .nil
  | @cons entry entry' _ _ hentry hrest ih =>
    obtain ⟨k, a'⟩ := entry
    obtain ⟨_, b'⟩ := entry'
    obtain ⟨rfl, hab'⟩ := hentry
    rw [OrderedMap.insertEntry, OrderedMap.insertEntry]
    split
    · exact .cons ⟨rfl, hab⟩ hrest
    · exact .cons ⟨rfl, hab'⟩ ih

theorem ofList (h : Entrywise R as bs) :
    Entrywise R (OrderedMap.ofList as).entries (OrderedMap.ofList bs).entries := by
  have hall {m : OrderedMap α} {m' : OrderedMap β} (hm : Entrywise R m.entries m'.entries) :
      Entrywise R (m.insertAll as).entries (m'.insertAll bs).entries := by
    induction h generalizing m m' with
    | nil => exact hm
    | @cons entry entry' _ _ hentry _ ih =>
      obtain ⟨k, a⟩ := entry
      obtain ⟨_, b⟩ := entry'
      obtain ⟨rfl, hab⟩ := hentry
      exact ih (hm.insertEntry k hab)
  exact hall .nil

end Entrywise

/-- **What is made of two values can be compared**, in each of the ways in which a field is
read. -/
structure Comparison.Values (C : Comparison BuildError BuildError) (fields fields' : Fields)
    (value value' : Value) : Prop where
  convert (key : String) (type : SlotType) :
    C.Holds Eq (fields.attempt (type.convert key value)) (fields'.attempt (type.convert key value'))
  parameter (key : String) :
    C.Holds Eq (fields.parameter key value) (fields'.parameter key value')
  network : C.Holds Eq (ProxyOptions.ofNetwork fields value) (ProxyOptions.ofNetwork fields' value')

/-- **Fields that can be compared.** -/
structure Compares (C : Comparison BuildError BuildError) (fields fields' : Fields) : Prop where
  labels : fields'.labels = fields.labels
  entries : Entrywise (C.Values fields fields') fields.entries.entries fields'.entries.entries
  field (e : FieldError) : C.Stops (fields.fieldError e) (fields'.fieldError e)
  invalid (fault : Fault) : C.Stops (fields.invalid fault) (fields'.invalid fault)
  missing (need : Need) : C.Stops (fields.missing need) (fields'.missing need)
  unknownKey (key : String) : C.Stops (.unknownKey key fields.directive fields.position)
    (.unknownKey key fields'.directive fields'.position)

theorem Fields.convert_eq_attempt {α : Type} (fields : Fields) (key : String)
    (conversion : Value → Except FieldError α) :
    fields.convert key conversion =
      match fields.entries.get? key with
      | none => .ok none
      | some value => some <$> fields.attempt (conversion value) := by
  rw [convert]
  cases fields.entries.get? key with
  | none => rfl
  | some value => cases hvalue : conversion value <;> simp only [hvalue] <;> rfl

namespace Compares

variable {C : Comparison BuildError BuildError} {fields fields' : Fields}
  (h : Compares C fields fields')

include h

theorem label (what : String) : C.Holds Eq (fields.label what) (fields'.label what) := by
  rw [Fields.label, Fields.label, h.labels]
  split
  · exact C.ok rfl
  · exact h.missing _
  · exact h.invalid _

theorem soleLabel (need : Need) : C.Holds Eq (fields.soleLabel need) (fields'.soleLabel need) := by
  rw [Fields.soleLabel, Fields.soleLabel, h.labels]
  split
  · exact C.ok rfl
  · exact h.missing _

theorem noLabel : C.Holds Eq fields.noLabel fields'.noLabel := by
  rw [Fields.noLabel, Fields.noLabel, h.labels]
  split
  · exact C.ok rfl
  · exact h.invalid _

theorem get? (key : String) :
    Option.Rel (C.Values fields fields') (fields.entries.get? key) (fields'.entries.get? key) :=
  h.entries.rel_lookup key

theorem convert (key : String) (type : SlotType) :
    C.Holds Eq (fields.convert key (type.convert key))
      (fields'.convert key (type.convert key)) := by
  have hget := h.get? key
  rw [Fields.convert_eq_attempt, Fields.convert_eq_attempt]
  generalize fields.entries.get? key = found at hget
  generalize fields'.entries.get? key = found' at hget
  cases hget with
  | none => exact C.ok rfl
  | some hvalue => exact C.map_eq (hvalue.convert key type) some

theorem others (known : List String) :
    Entrywise (C.Values fields fields') (fields.others known) (fields'.others known) :=
  h.entries.filter_notMem known

theorem finish (known : List String) : C.Holds Eq (fields.finish known) (fields'.finish known) := by
  have hothers := h.others known
  rw [Fields.finish, Fields.finish]
  generalize fields.others known = entries at hothers
  generalize fields'.others known = entries' at hothers
  cases hothers with
  | nil => exact C.ok rfl
  | cons hentry _ =>
    dsimp only
    rw [← hentry.1]
    exact h.unknownKey _

end Compares

/-! ### Readers of fields -/

section Readers

variable {α β : Type} {C : Comparison BuildError BuildError} {fields fields' : Fields}

/-- **The reader treats all fields alike**, so that it can be compared on two of them. -/
class FieldReader.Uniform (reader : FieldReader α) : Prop where
  compares {C : Comparison BuildError BuildError} {fields fields' : Fields}
    (h : Compares C fields fields') : C.Holds Eq (reader.read fields) (reader.read fields')

namespace FieldReader

instance (a : α) : Uniform (pure a) := ⟨fun {C} _ _ _ => C.ok rfl⟩

instance (f : FieldReader (α → β)) (x : FieldReader α) [hf : f.Uniform] [hx : x.Uniform] :
    Uniform (f <*> x) where
  compares {C _ _} h :=
    C.bind_eq (hf.compares h) fun _ => C.bind_eq (hx.compares h) fun _ => C.ok rfl

instance (f : α → β) (x : FieldReader α) [x.Uniform] : Uniform (f <$> x) :=
  inferInstanceAs (Uniform (pure f <*> x))

instance (key : String) : Uniform (text? key) := ⟨fun h => h.convert key .text⟩
instance (key : String) : Uniform (count? key) := ⟨fun h => h.convert key .count⟩
instance (key : String) : Uniform (port? key) := ⟨fun h => h.convert key .port⟩

instance (key : String) : Uniform (flag key) :=
  have : Uniform (optional key Value.toFlag) := ⟨fun h => h.convert key .flag⟩
  inferInstanceAs (Uniform (_ <$> optional key Value.toFlag))

instance (key : String) : Uniform (texts key) :=
  have : Uniform (optional key Value.toTexts) := ⟨fun h => h.convert key .texts⟩
  inferInstanceAs (Uniform (_ <$> optional key Value.toTexts))

instance (key : String) : Uniform (text key) where
  compares {C _ _} h := by
    refine C.bind_eq (Uniform.compares h) fun found => ?_
    cases found with
    | some s => exact C.ok rfl
    | none => exact h.missing _

theorem compares_readAll (h : Compares C fields fields') (reader : FieldReader α)
    [reader.Uniform] : C.Holds Eq (reader.readAll fields) (reader.readAll fields') :=
  C.bind_eq (Uniform.compares h) fun _ => C.bind_eq (h.finish _) fun _ => C.ok rfl

/-- A directive that is named by its label. -/
theorem compares_labelled (h : Compares C fields fields') (what : String)
    (reader : String → FieldReader α) [∀ label, (reader label).Uniform] :
    C.Holds Eq (do (reader (← fields.label what)).readAll fields)
      (do (reader (← fields'.label what)).readAll fields') :=
  C.bind_eq (h.label what) fun label => compares_readAll h (reader label)

/-- A directive without labels. -/
theorem compares_unlabelled (h : Compares C fields fields') (reader : FieldReader α)
    [reader.Uniform] :
    C.Holds Eq (do fields.noLabel; reader.readAll fields)
      (do fields'.noLabel; reader.readAll fields') :=
  C.bind_eq h.noLabel fun _ => compares_readAll h reader

end FieldReader

end Readers

/-! ### Directives -/

theorem Timeouts.assign_eq_attempt (fields : Fields) (timeouts : Timeouts) (key : String)
    (value : Value) :
    timeouts.assign fields key value =
      match TimeoutSlot.ofKey? key with
      | none => .error (.unknownKey key fields.directive fields.position)
      | some slot => (timeouts.set · slot) <$> fields.attempt (value.toText key) := by
  rw [assign]
  cases TimeoutSlot.ofKey? key with
  | none => rfl
  | some slot => cases value.toText key <;> rfl

theorem ProxyOptions.assign_eq_attempt (fields : Fields) (options : ProxyOptions) (key : String)
    (value : Value) :
    options.assign fields key value = (do
      let on ← fields.attempt (value.toFlag key)
      match ProxyFlag.ofKey? key with
      | none => .error (.unknownKey key fields.directive fields.position)
      | some flag => .ok (options.set flag on)) := by
  rw [assign]
  cases value.toFlag key <;> rfl

theorem ProxyOptions.forwardfor_eq_ofNetwork (fields : Fields) :
    forwardfor fields =
      match fields.entries.get? "forwardfor" with
      | none => .ok {}
      | some value => ofNetwork fields value := by
  rw [forwardfor]
  rcases fields.entries.get? "forwardfor" with _ | value
  · rfl
  · cases value <;> rfl

section Directives

open FieldReader

variable {C : Comparison BuildError BuildError} {fields fields' : Fields}
  (h : Compares C fields fields')

include h

theorem Rule.compares_ofFields (kind : RuleKind) :
    C.Holds Eq (Rule.ofFields kind fields) (Rule.ofFields kind fields') := by
  refine C.bind_eq (h.label _) fun _ => C.bind_eq (Uniform.compares h) fun _ => ?_
  refine C.bind_eq (C.mapM_eq (h.others _) ?_) fun _ => C.ok rfl
  rintro ⟨key, value⟩ ⟨_, value'⟩ ⟨rfl, hvalue⟩
  exact hvalue.parameter key

theorem Redirect.compares_ofFields :
    C.Holds Eq (Redirect.ofFields fields) (Redirect.ofFields fields') := by
  refine C.bind_eq (h.label _) fun label => ?_
  cases RedirectKind.ofKeyword? label with
  | none => exact h.invalid _
  | some kind => exact compares_readAll h _

theorem StickRule.compares_ofFields :
    C.Holds Eq (StickRule.ofFields fields) (StickRule.ofFields fields') := by
  refine C.bind_eq (h.label _) fun label => ?_
  cases StickRuleKind.ofDirective? label with
  | none => exact h.invalid _
  | some kind => exact compares_readAll h _

theorem ErrorPage.compares_answer (file location : Option String) (code : Option Nat) :
    C.Holds Eq (ErrorPage.answer fields file location code)
      (ErrorPage.answer fields' file location code) := by
  unfold answer
  split
  · exact C.ok rfl
  · exact C.ok rfl
  · split
    · exact C.ok rfl
    · split
      · exact C.ok rfl
      · exact h.invalid _
  · exact h.invalid _
  · exact h.invalid _
  · exact h.missing _

theorem ErrorPage.compares_ofFields :
    C.Holds Eq (ErrorPage.ofFields fields) (ErrorPage.ofFields fields') := by
  refine C.bind_eq (h.label _) fun label => ?_
  cases ErrorPage.statusCode label with
  | error e => exact h.field e
  | ok code =>
    simp only [pure_bind]
    refine C.bind_eq (Uniform.compares h) fun _ => C.bind_eq (Uniform.compares h) fun _ => ?_
    refine C.bind_eq (Uniform.compares h) fun _ => ?_
    refine C.bind_eq (ErrorPage.compares_answer h _ _ _) fun _ => ?_
    exact C.bind_eq (h.finish _) fun _ => C.ok rfl

theorem LogTarget.compares_ofFields :
    C.Holds Eq (LogTarget.ofFields fields) (LogTarget.ofFields fields') := by
  refine C.bind_eq (h.label _) fun address => C.bind_eq (Uniform.compares h) fun _ => ?_
  exact C.guard (h.invalid _) (C.bind_eq (h.finish _) fun _ => C.ok rfl)

theorem Timeouts.compares_ofFields :
    C.Holds Eq (Timeouts.ofFields fields) (Timeouts.ofFields fields') := by
  refine C.bind_eq h.noLabel fun _ => C.foldlM h.entries ?_ rfl
  rintro timeouts _ rfl ⟨key, value⟩ ⟨_, value'⟩ ⟨rfl, hvalue⟩
  simp only [assign_eq_attempt]
  cases TimeoutSlot.ofKey? key with
  | none => exact h.unknownKey key
  | some slot => exact C.map_eq (hvalue.convert key .text) _

theorem ProxyOptions.compares_forwardfor :
    C.Holds Eq (ProxyOptions.forwardfor fields) (ProxyOptions.forwardfor fields') := by
  have hget := h.get? "forwardfor"
  rw [forwardfor_eq_ofNetwork, forwardfor_eq_ofNetwork]
  generalize fields.entries.get? "forwardfor" = found at hget
  generalize fields'.entries.get? "forwardfor" = found' at hget
  cases hget with
  | none => exact C.ok rfl
  | some hvalue => exact hvalue.network

theorem ProxyOptions.compares_ofFields :
    C.Holds Eq (ProxyOptions.ofFields fields) (ProxyOptions.ofFields fields') := by
  refine C.bind_eq h.noLabel fun _ => C.bind_eq (compares_forwardfor h) fun _ => ?_
  refine C.foldlM (h.others _) ?_ rfl
  rintro options _ rfl ⟨key, value⟩ ⟨_, value'⟩ ⟨rfl, hvalue⟩
  simp only [assign_eq_attempt]
  refine C.bind_eq (hvalue.convert key .flag) fun on => ?_
  cases ProxyFlag.ofKey? key with
  | none => exact h.unknownKey key
  | some flag => exact C.ok rfl

theorem Fields.compares_textMap : C.Holds Eq fields.textMap fields'.textMap := by
  refine C.bind_eq h.noLabel fun _ => C.bind_eq (C.mapM_eq h.entries ?_) fun _ => C.ok rfl
  rintro ⟨key, value⟩ ⟨_, value'⟩ ⟨rfl, hvalue⟩
  have hpairs := C.map_eq (hvalue.convert key .text) (key, ·)
  rw [SlotType.convert, SlotType.convert] at hpairs
  dsimp only
  cases hleft : value.toText key <;> cases hright : value'.toText key <;>
    · rw [hleft, hright] at hpairs
      exact hpairs

theorem ServerOptions.compares_ofEntries {entries entries' : List (String × Value)}
    (hentries : Entrywise (C.Values fields fields') entries entries') :
    C.Holds Eq (ServerOptions.ofEntries fields entries)
      (ServerOptions.ofEntries fields' entries') := by
  refine C.foldlM hentries ?_ rfl
  rintro options _ rfl ⟨key, value⟩ ⟨_, value'⟩ ⟨rfl, hvalue⟩
  dsimp only [assign?]
  cases ServerSlot.ofKey? key with
  | none => exact h.unknownKey key
  | some slot =>
    have hoptions := C.map_eq (hvalue.convert slot.key slot.type) (options.set slot)
    dsimp only [ServerSlot.convert, Option.map_some]
    cases hleft : slot.type.convert slot.key value <;>
      cases hright : slot.type.convert slot.key value' <;>
      · rw [hleft, hright] at hoptions
        exact hoptions

theorem Server.compares_nameOf (field : Option String) :
    C.Holds Eq (Server.nameOf fields field) (Server.nameOf fields' field) := by
  simp only [nameOf, h.labels]
  split
  · exact C.ok rfl
  · exact C.ok rfl
  · exact h.invalid _
  · exact h.missing _

theorem Server.compares_ofFields (spreads : List String) :
    C.Holds Eq (Server.ofFields fields spreads) (Server.ofFields fields' spreads) := by
  refine C.bind_eq (Uniform.compares h) fun _ => C.bind_eq (Server.compares_nameOf h _) fun _ => ?_
  refine C.bind_eq (Uniform.compares h) fun _ => C.bind_eq (Uniform.compares h) fun _ => ?_
  exact C.bind_eq (ServerOptions.compares_ofEntries h (h.others _)) fun _ => C.ok rfl

theorem ServerTemplate.compares_ofFields :
    C.Holds Eq (ServerTemplate.ofFields fields) (ServerTemplate.ofFields fields') := by
  refine C.bind_eq (h.soleLabel _) fun _ => C.bind_eq (Uniform.compares h) fun _ => ?_
  refine C.bind_eq (Uniform.compares h) fun _ => C.bind_eq (Uniform.compares h) fun _ => ?_
  exact C.bind_eq (ServerOptions.compares_ofEntries h (h.others _)) fun _ => C.ok rfl

theorem CheckKind.compares_ofField (field : Option String) :
    C.Holds Eq (CheckKind.ofField fields field) (CheckKind.ofField fields' field) := by
  cases field with
  | none => exact C.ok rfl
  | some name =>
    rw [ofField, ofField]
    split
    · exact C.ok rfl
    · exact h.invalid _

theorem HealthCheck.compares_ofFields :
    C.Holds Eq (HealthCheck.ofFields fields) (HealthCheck.ofFields fields') := by
  refine C.bind_eq h.noLabel fun _ => C.bind_eq (Uniform.compares h) fun _ => ?_
  refine C.bind_eq (CheckKind.compares_ofField h _) fun _ => ?_
  refine C.bind_eq (Uniform.compares h) fun _ => ?_
  exact C.guard (h.missing _) (C.bind_eq (h.finish _) fun _ => C.ok rfl)

/-- **Whatever is read from the fields can be compared.** -/
theorem ObjectKind.compares_read (kind : ObjectKind) (spreads : List String) :
    C.Holds Eq (kind.read fields spreads) (kind.read fields' spreads) := by
  cases kind with
  | rule kind => exact C.map_eq (Rule.compares_ofFields h kind) _
  | bind | acl | useBackend | useServer | statsSocket | peer | nameserver | mailer =>
    exact C.map_eq (compares_labelled h _ _) _
  | stickTable | compression | stats => exact C.map_eq (compares_unlabelled h _) _
  | redirect => exact C.map_eq (Redirect.compares_ofFields h) _
  | stickRule => exact C.map_eq (StickRule.compares_ofFields h) _
  | errorPage => exact C.map_eq (ErrorPage.compares_ofFields h) _
  | log => exact C.map_eq (LogTarget.compares_ofFields h) _
  | timeouts => exact C.map_eq (Timeouts.compares_ofFields h) _
  | options => exact C.map_eq (ProxyOptions.compares_ofFields h) _
  | tune | setenv | hold => exact C.map_eq (Fields.compares_textMap h) _
  | cookie => exact C.map_eq (C.bind_eq (h.soleLabel _) fun _ => compares_readAll h _) _
  | healthCheck => exact C.map_eq (HealthCheck.compares_ofFields h) _
  | server => exact C.map_eq (Server.compares_ofFields h spreads) _
  | defaultServer =>
    exact C.map_eq (C.bind_eq h.noLabel fun _ => ServerOptions.compares_ofEntries h h.entries) _
  | serverTemplate => exact C.map_eq (ServerTemplate.compares_ofFields h) _

end Directives

end Balancer
