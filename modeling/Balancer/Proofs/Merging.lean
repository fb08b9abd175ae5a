import Balancer.Proofs.Comparing
import Balancer.Proofs.OrderedMap
import Mathlib.Algebra.Group.Defs

/-!
# Merging blocks of keys

Timeouts, options, tuning parameters, environment variables and hold times are written in blocks of
keys, and a section can have several blocks of one kind. What they say is merged: timeouts slot by
slot, options as a set, and everything else as a map that keeps the order. Each kind of content is a
monoid under its way of merging, with the empty block as its unit.

A block with distinct keys can be cut in two, at any place, and then says what its parts say, merged
(`Splits`). Timeouts and maps are read pair by pair, and there this is the law of the monoid. For
options there are two obstacles: a pair can switch an option off, which is not undone by merging,
and one field is read before all others. Neither does harm where the keys are distinct, because an
option that is switched off was not on, and because only that one field names a network.
-/

namespace Balancer

/-! ### The monoids -/

/-- **Timeouts are merged slot by slot**, and the later value counts. -/
instance : Monoid Timeouts where
  mul := Timeouts.merge
  one := {}
  mul_assoc a b c := by
    change (a.merge b).merge c = a.merge (b.merge c)
    simp only [Timeouts.merge, Option.or_assoc]
  one_mul a := by
    change Timeouts.merge {} a = a
    simp only [Timeouts.merge, Option.or_none]
  mul_one a := by
    change a.merge {} = a
    simp only [Timeouts.merge, Option.none_or]

/-- **Options are merged as sets**; the later network counts. -/
instance : Monoid ProxyOptions where
  mul := ProxyOptions.merge
  one := {}
  mul_assoc a b c := by
    change (a.merge b).merge c = a.merge (b.merge c)
    simp only [ProxyOptions.merge, Option.or_assoc, BitVec.or_assoc]
  one_mul a := by
    change ProxyOptions.merge {} a = a
    simp only [ProxyOptions.merge, Option.or_none, BitVec.ofNat_eq_ofNat, BitVec.zero_or]
  mul_one a := by
    change a.merge {} = a
    simp only [ProxyOptions.merge, Option.none_or, BitVec.ofNat_eq_ofNat, BitVec.or_zero]

namespace OrderedMap

variable {α : Type}

theorem ext {m m' : OrderedMap α} (h : m.entries = m'.entries) : m = m' := by
  cases m
  cases m'
  cases h
  rfl

/-- A value that is replaced can be replaced before another key is inserted. -/
theorem insertEntry_comm {key other : String} (hne : other ≠ key) (value value' : α)
    {entries : List (String × α)} (hmem : key ∈ entries.map Prod.fst) :
    insertEntry key value (insertEntry other value' entries) =
      insertEntry other value' (insertEntry key value entries) := by
  induction entries with
  | nil => exact nomatch hmem
  | cons entry entries ih =>
    obtain ⟨k, v⟩ := entry
    by_cases hother : k = other
    · subst hother
      simp [insertEntry, hne]
    by_cases hkey : k = key
    · subst hkey
      simp [insertEntry, hother]
    · have hrest : key ∈ entries.map Prod.fst := by
        rcases List.mem_cons.1 hmem with heq | hrest
        · exact absurd heq.symm hkey
        · exact hrest
      simp only [insertEntry, hother, hkey, if_false, ih hrest]

theorem insertEntry_insertEntry (key : String) (value value' : α) (entries : List (String × α)) :
    insertEntry key value (insertEntry key value' entries) = insertEntry key value entries := by
  induction entries with
  | nil => simp [insertEntry]
  | cons entry entries ih =>
    obtain ⟨k, v⟩ := entry
    by_cases hkey : k = key
    · simp [insertEntry, hkey]
    · simp only [insertEntry, hkey, if_false, ih]

/-- A value that is replaced can be replaced before other keys are inserted. -/
theorem insert_insertAll {m : OrderedMap α} {key : String} (hmem : key ∈ m.keys)
    {entries : List (String × α)} (hnot : key ∉ entries.map Prod.fst) (value : α) :
    (m.insertAll entries).insert key value = (m.insert key value).insertAll entries := by
  induction entries generalizing m with
  | nil => rfl
  | cons entry entries ih =>
    obtain ⟨k, v⟩ := entry
    rw [List.map_cons, List.mem_cons, not_or] at hnot
    have hkeys : key ∈ (m.insert k v).keys := by
      rw [keys, insert, map_fst_insertEntry]
      split
      · exact hmem
      · exact List.mem_append_left _ hmem
    have hcomm : (m.insert k v).insert key value = (m.insert key value).insert k v :=
      ext (insertEntry_comm (Ne.symm hnot.1) value v hmem)
    calc (m.insertAll ((k, v) :: entries)).insert key value
        = ((m.insert k v).insert key value).insertAll entries := ih hkeys hnot.2
      _ = (m.insert key value).insertAll ((k, v) :: entries) := by rw [hcomm]; rfl

/-- Inserting all entries of a map and then one more is inserting the entries of the map with one
more. -/
theorem insertAll_insertEntry (m : OrderedMap α) (key : String) (value : α)
    {entries : List (String × α)} (hnodup : (entries.map Prod.fst).Nodup) :
    m.insertAll (insertEntry key value entries) = (m.insertAll entries).insert key value := by
  induction entries generalizing m with
  | nil => rfl
  | cons entry entries ih =>
    obtain ⟨k, v⟩ := entry
    obtain ⟨hnot, hnodup⟩ := List.nodup_cons.1 hnodup
    by_cases hkey : k = key
    · subst hkey
      have hmem : k ∈ (m.insert k v).keys := mem_keys_iff.2 ⟨v, get?_insert_self m k v⟩
      have htwice : (m.insert k v).insert k value = m.insert k value :=
        ext (insertEntry_insertEntry k value v m.entries)
      rw [insertEntry, if_pos rfl]
      calc m.insertAll ((k, value) :: entries)
          = ((m.insert k v).insert k value).insertAll entries := by rw [htwice]; rfl
        _ = (m.insertAll ((k, v) :: entries)).insert k value :=
          (insert_insertAll hmem hnot value).symm
    · rw [insertEntry, if_neg hkey]
      exact ih (m.insert k v) hnodup

theorem insertAll_insertAll (m m' : OrderedMap α) (entries : List (String × α)) :
    m.insertAll (m'.insertAll entries).entries = (m.insertAll m'.entries).insertAll entries := by
  induction entries generalizing m' with
  | nil => rfl
  | cons entry entries ih =>
    calc m.insertAll ((m'.insert entry.1 entry.2).insertAll entries).entries
        = (m.insertAll (m'.insert entry.1 entry.2).entries).insertAll entries := ih _
      _ = (m.insertAll m'.entries).insertAll (entry :: entries) := by
        rw [insert, insertAll_insertEntry m entry.1 entry.2 m'.nodup]
        rfl

/-- **Maps are merged by inserting the entries of the later one.** -/
instance : Monoid (OrderedMap α) where
  mul m m' := m.insertAll m'.entries
  one := empty
  mul_assoc m m' m'' := (insertAll_insertAll m m' m''.entries).symm
  one_mul m := ext (entries_ofList m.nodup)
  mul_one _ := rfl

theorem ofList_append {entries : List (String × α)} (entries' : List (String × α))
    (hnodup : (entries'.map Prod.fst).Nodup) :
    ofList (entries ++ entries') = ofList entries * ofList entries' := by
  change empty.insertAll (entries ++ entries') =
    (ofList entries).insertAll (ofList entries').entries
  rw [entries_ofList hnodup, insertAll, List.foldl_append]
  rfl

end OrderedMap

/-! ### Cutting a block in two -/

/-- The fields of a block without labels. -/
def Fields.block (kind : String) (values : List (String × Value)) : Fields :=
  ⟨kind, [], none, .ofList values⟩

/-- **A block with distinct keys says what its parts say, merged.** -/
structure Splits {α : Type} [Monoid α] (read : Fields → Except BuildError α) : Prop where
  nil (kind : String) : read (.block kind []) = .ok 1
  append {kind : String} {values values' : List (String × Value)}
    (hnodup : ((values ++ values').map Prod.fst).Nodup) {c : α} :
    read (.block kind (values ++ values')) = .ok c ↔
      ∃ a b, read (.block kind values) = .ok a ∧ read (.block kind values') = .ok b ∧ a * b = c

section Runs

variable {α β ε : Type} [Monoid α] {step : α → β → Except ε α}

/-- A run whose steps multiply starts from anywhere as it starts from one. -/
theorem foldlM_mul (hstep : ∀ a b, step a b = (a * ·) <$> step 1 b) (a : α) (bs : List β) :
    bs.foldlM step a = (a * ·) <$> bs.foldlM step 1 := by
  induction bs generalizing a with
  | nil => exact congrArg Except.ok (mul_one a).symm
  | cons b bs ih =>
    rw [List.foldlM_cons, List.foldlM_cons, hstep]
    cases step 1 b with
    | error e => rfl
    | ok c =>
      change bs.foldlM step (a * c) = (a * ·) <$> bs.foldlM step c
      rw [ih (a * c), ih c]
      cases bs.foldlM step 1 with
      | error e => rfl
      | ok d => exact congrArg Except.ok (mul_assoc a c d)

theorem foldlM_append_eq_ok_iff (hstep : ∀ a b, step a b = (a * ·) <$> step 1 b)
    {bs bs' : List β} {c : α} :
    (bs ++ bs').foldlM step 1 = .ok c ↔
      ∃ a b, bs.foldlM step 1 = .ok a ∧ bs'.foldlM step 1 = .ok b ∧ a * b = c := by
  rw [List.foldlM_append, bind_eq_ok]
  refine exists_congr fun a => ?_
  rw [foldlM_mul hstep a bs', map_eq_ok]
  exact exists_and_left.symm

theorem mapM_append_eq_ok_iff {γ : Type} {f : β → Except ε γ} {bs bs' : List β} {cs : List γ} :
    (bs ++ bs').mapM f = .ok cs ↔
      ∃ front back, bs.mapM f = .ok front ∧ bs'.mapM f = .ok back ∧ front ++ back = cs := by
  simp only [List.mapM_append, bind_eq_ok, pure_eq_ok_iff, exists_and_left]

end Runs

theorem Timeouts.set_eq_mul (timeouts : Timeouts) (value : String) (slot : TimeoutSlot) :
    timeouts.set value slot = timeouts * Timeouts.set 1 value slot := by
  change timeouts.set value slot = timeouts.merge (Timeouts.set {} value slot)
  cases slot <;> simp [set, merge]

theorem Timeouts.assign_eq_mul (fields : Fields) (timeouts : Timeouts) (key : String)
    (value : Value) :
    timeouts.assign fields key value = (timeouts * ·) <$> Timeouts.assign fields 1 key value := by
  rw [assign, assign]
  cases TimeoutSlot.ofKey? key with
  | none => rfl
  | some slot =>
    cases value.toText key with
    | error e => rfl
    | ok s => exact congrArg Except.ok (timeouts.set_eq_mul s slot)

theorem Timeouts.splits : Splits Timeouts.ofFields where
  nil _ := rfl
  append {kind values values'} hnodup c := by
    have hread {values : List (String × Value)} (h : (values.map Prod.fst).Nodup) :
        ofFields (.block kind values) = values.foldlM
          (fun timeouts entry => timeouts.assign (.block kind []) entry.1 entry.2) 1 := by
      change (OrderedMap.ofList values).entries.foldlM _ _ = _
      rw [OrderedMap.entries_ofList h]
      rfl
    have hnodups := hnodup
    rw [List.map_append, List.nodup_append] at hnodups
    rw [hread hnodup, hread hnodups.1, hread hnodups.2.1]
    exact foldlM_append_eq_ok_iff fun timeouts entry =>
      timeouts.assign_eq_mul (.block kind []) entry.1 entry.2

theorem Fields.splits_textMap : Splits Fields.textMap where
  nil _ := rfl
  append {kind values values'} hnodup c := by
    have hread {values : List (String × Value)} (h : (values.map Prod.fst).Nodup) :
        textMap (.block kind values) = OrderedMap.ofList <$> values.mapM
          (OrderedMap.readNamed fun key value => (block kind []).attempt (value.toText key)) := by
      change ((OrderedMap.ofList values).entries.mapM _ >>= _ : Except BuildError _) = _
      rw [OrderedMap.entries_ofList h, map_eq_pure_bind]
      refine congrArg (fun read => values.mapM read >>= _) (funext fun entry => ?_)
      obtain ⟨key, value⟩ := entry
      dsimp only [OrderedMap.readNamed]
      cases value.toText key <;> rfl
    have hnodups := hnodup
    rw [List.map_append, List.nodup_append] at hnodups
    rw [hread hnodup, hread hnodups.1, hread hnodups.2.1]
    simp only [map_eq_ok, mapM_append_eq_ok_iff]
    constructor
    · rintro ⟨_, ⟨texts, texts', htexts, htexts', rfl⟩, rfl⟩
      have hkeys := OrderedMap.map_fst_of_readNamed htexts'
      exact ⟨_, _, ⟨texts, htexts, rfl⟩, ⟨texts', htexts', rfl⟩,
        (OrderedMap.ofList_append texts' (hkeys ▸ hnodups.2.1)).symm⟩
    · rintro ⟨_, _, ⟨texts, htexts, rfl⟩, ⟨texts', htexts', rfl⟩, rfl⟩
      have hkeys := OrderedMap.map_fst_of_readNamed htexts'
      exact ⟨_, ⟨texts, texts', htexts, htexts', rfl⟩,
        OrderedMap.ofList_append texts' (hkeys ▸ hnodups.2.1)⟩

namespace ProxyOptions

/-! #### Options -/

theorem mul_comm_of_except_eq_none {a b : ProxyOptions} (h : b.forwardforExcept = none) :
    a * b = b * a := by
  change a.merge b = b.merge a
  simp [merge, h, BitVec.or_comm]

theorem has_mul (a b : ProxyOptions) (flag : ProxyFlag) :
    (a * b).has flag = (a.has flag || b.has flag) :=
  BitVec.getLsbD_or

theorem set_true_eq_mul (options : ProxyOptions) (flag : ProxyFlag) :
    options.set flag true = options * ProxyOptions.set 1 flag true := by
  change options.set flag true = options.merge (ProxyOptions.set {} flag true)
  simp [set, merge]

/-- Switching off an option that is not on changes nothing. -/
theorem set_false_of_not_has {options : ProxyOptions} {flag : ProxyFlag}
    (h : options.has flag = false) : options.set flag false = options := by
  have hflags : options.flags &&& ~~~BitVec.twoPow 28 flag.ctorIdx = options.flags := by
    apply BitVec.eq_of_getLsbD_eq
    intro i hi
    rw [BitVec.getLsbD_and, BitVec.getLsbD_not, BitVec.getLsbD_twoPow]
    by_cases hindex : flag.ctorIdx = i
    · subst hindex
      have hoff : options.flags.getLsbD flag.ctorIdx = false := h
      rw [hoff, Bool.false_and]
    · simp [hi, hindex]
  rw [set, if_neg Bool.false_ne_true, hflags]

theorem not_has_one (flag : ProxyFlag) : has 1 flag = false := BitVec.getLsbD_zero

theorem eq_of_has_set_true {flag flag' : ProxyFlag}
    (h : (ProxyOptions.set 1 flag true).has flag' = true) : flag = flag' := by
  have hbits : (0#28 ||| BitVec.twoPow 28 flag.ctorIdx).getLsbD flag'.ctorIdx = true := h
  rw [BitVec.zero_or, BitVec.getLsbD_twoPow, Bool.and_eq_true, decide_eq_true_eq,
    decide_eq_true_eq] at hbits
  calc flag = .ofNat flag.ctorIdx := (ProxyFlag.ofNat_ctorIdx flag).symm
    _ = flag' := by rw [hbits.2, ProxyFlag.ofNat_ctorIdx]

theorem key_of_ofKey? {key : String} {flag : ProxyFlag} (h : ProxyFlag.ofKey? key = some flag) :
    flag.key = key := by
  rw [ProxyFlag.ofKey?] at h
  have hfound := List.find?_some h
  exact eq_of_beq hfound

section Assign

variable {fields : Fields} {options : ProxyOptions} {key : String} {value : Value}

/-- What a single pair says: at most its own option is on, and no network is left out. -/
theorem of_assign_one (h : ProxyOptions.assign fields 1 key value = .ok options) :
    options.forwardforExcept = none ∧ ∀ flag, options.has flag = true → flag.key = key := by
  rw [assign] at h
  split at h
  · cases h
  · rename_i on _
    split at h
    · cases h
    · rename_i flag hflag
      cases h
      refine ⟨rfl, fun flag' hflag' => ?_⟩
      cases on with
      | true => exact eq_of_has_set_true hflag' ▸ key_of_ofKey? hflag
      | false =>
        rw [set_false_of_not_has (not_has_one flag), not_has_one] at hflag'
        cases hflag'

/-- Where no option of its key is on, a pair adds what it says on its own. -/
theorem assign_eq_mul (h : ∀ flag, options.has flag = true → flag.key ≠ key) :
    options.assign fields key value = (options * ·) <$> ProxyOptions.assign fields 1 key value := by
  rw [assign, assign]
  cases value.toFlag key with
  | error e => rfl
  | ok on =>
    cases hflag : ProxyFlag.ofKey? key with
    | none => rfl
    | some flag =>
      refine congrArg Except.ok ?_
      cases on with
      | true => exact set_true_eq_mul options flag
      | false =>
        have hoff : options.has flag = false := by
          rw [Bool.eq_false_iff]
          intro hon
          exact h flag hon (key_of_ofKey? hflag)
        rw [set_false_of_not_has hoff, set_false_of_not_has (not_has_one flag)]
        exact (mul_one options).symm

end Assign

/-- One more pair of a block, as it is on its own. -/
def add (kind : String) (options : ProxyOptions) (entry : String × Value) :
    Except BuildError ProxyOptions :=
  (options * ·) <$> ProxyOptions.assign (.block kind []) 1 entry.1 entry.2

theorem add_eq_mul (kind : String) (options : ProxyOptions) (entry : String × Value) :
    add kind options entry = (options * ·) <$> add kind 1 entry := by
  rw [add, add]
  cases ProxyOptions.assign (.block kind []) 1 entry.1 entry.2 with
  | error e => rfl
  | ok a => exact congrArg (Except.ok <| options * ·) (one_mul a).symm

/-- **Distinct keys do not get in each other's way.** -/
theorem foldlM_assign_eq_mul (kind : String) {options : ProxyOptions}
    {entries : List (String × Value)} (hnodup : (entries.map Prod.fst).Nodup)
    (hoff : ∀ entry ∈ entries, ∀ flag, options.has flag = true → flag.key ≠ entry.1) :
    entries.foldlM (fun options entry => options.assign (.block kind []) entry.1 entry.2) options =
      (options * ·) <$> entries.foldlM (add kind) 1 := by
  induction entries generalizing options with
  | nil => exact congrArg Except.ok (mul_one options).symm
  | cons entry entries ih =>
    obtain ⟨hnot, hnodup⟩ := List.nodup_cons.1 hnodup
    have hassign : options.assign (.block kind []) entry.1 entry.2 =
        (options * ·) <$> ProxyOptions.assign (.block kind []) 1 entry.1 entry.2 :=
      assign_eq_mul (hoff entry List.mem_cons_self)
    rw [List.foldlM_cons, List.foldlM_cons, hassign, add]
    cases hsays : ProxyOptions.assign (.block kind []) 1 entry.1 entry.2 with
    | error e => rfl
    | ok a =>
      have hoff' : ∀ other ∈ entries, ∀ flag, (options * a).has flag = true →
          flag.key ≠ other.1 := by
        intro other hother flag hflag
        rw [has_mul, Bool.or_eq_true] at hflag
        rcases hflag with hon | hon
        · exact hoff other (List.mem_cons_of_mem _ hother) flag hon
        · rw [(of_assign_one hsays).2 flag hon]
          intro heq
          exact hnot (heq ▸ List.mem_map_of_mem hother)
      change entries.foldlM _ (options * a) = (options * ·) <$> entries.foldlM (add kind) (1 * a)
      rw [ih hnodup hoff', foldlM_mul (add_eq_mul kind) (1 * a), one_mul]
      cases entries.foldlM (add kind) 1 with
      | error e => rfl
      | ok b => exact congrArg Except.ok (mul_assoc options a b)

/-- The fields of a block that are read in order. -/
def rest (values : List (String × Value)) : List (String × Value) :=
  values.filter fun (key, _) => !(["forwardfor"].contains key)

theorem forwardforExcept_of_foldlM_add {kind : String} {entries : List (String × Value)}
    {start options : ProxyOptions} (hstart : start.forwardforExcept = none)
    (h : entries.foldlM (add kind) start = .ok options) : options.forwardforExcept = none := by
  induction entries generalizing start with
  | nil =>
    cases h
    exact hstart
  | cons entry entries ih =>
    rw [List.foldlM_cons] at h
    obtain ⟨next, hnext, h⟩ := bind_eq_ok.1 h
    obtain ⟨a, ha, rfl⟩ := map_eq_ok.1 hnext
    refine ih ?_ h
    change a.forwardforExcept.or start.forwardforExcept = none
    rw [(of_assign_one ha).1, hstart, Option.none_or]

/-- The field that is read first switches on no other option. -/
theorem key_of_has_forwardfor {fields : Fields} {options : ProxyOptions}
    (h : forwardfor fields = .ok options) (flag : ProxyFlag) (hflag : options.has flag = true) :
    flag.key = "forwardfor" := by
  have hset {on : Bool} (hon : (ProxyOptions.set 1 .forwardfor on).has flag = true) :
      flag.key = "forwardfor" := by
    cases on with
    | true => exact eq_of_has_set_true hon ▸ rfl
    | false =>
      rw [set_false_of_not_has (not_has_one .forwardfor), not_has_one] at hon
      exact nomatch hon
  rw [forwardfor] at h
  split at h
  · cases h
    rw [show has {} flag = false from not_has_one flag] at hflag
    exact nomatch hflag
  · split_ifs at h <;>
      · cases h
        exact hset hflag
  · exact (of_assign_one h).2 flag hflag

/-- **A block of options** is its first field and then what its other pairs say on their own. -/
theorem ofFields_block {kind : String} {values : List (String × Value)}
    (hnodup : (values.map Prod.fst).Nodup) {options : ProxyOptions} :
    ofFields (.block kind values) = .ok options ↔
      ∃ first, forwardfor (.block kind values) = .ok first ∧
        ∃ others, (rest values).foldlM (add kind) 1 = .ok others ∧ first * others = options := by
  have hothers : (Fields.block kind values).others ["forwardfor"] = rest values := by
    rw [Fields.others, Fields.block, OrderedMap.entries_ofList hnodup]
    rfl
  have hkeys : ((rest values).map Prod.fst).Nodup := (List.filter_sublist.map Prod.fst).nodup hnodup
  change (do
    let options ← forwardfor (.block kind values)
    ((Fields.block kind values).others ["forwardfor"]).foldlM
      (fun options (entry : String × Value) =>
        assign (.block kind []) options entry.1 entry.2) options) = _ ↔ _
  rw [bind_eq_ok]
  refine exists_congr fun first => and_congr_right fun hfirst => ?_
  rw [hothers, foldlM_assign_eq_mul kind hkeys, map_eq_ok]
  intro entry hentry flag hflag
  rw [key_of_has_forwardfor hfirst flag hflag]
  intro heq
  simp [rest, ← heq] at hentry

theorem forwardfor_block_congr (kind : String) {values values' : List (String × Value)}
    (h : (OrderedMap.ofList values).get? "forwardfor" =
      (OrderedMap.ofList values').get? "forwardfor") :
    forwardfor (.block kind values) = forwardfor (.block kind values') := by
  have hget : (Fields.block kind values).entries.get? "forwardfor" =
      (Fields.block kind values').entries.get? "forwardfor" := h
  rw [forwardfor_eq_ofNetwork, forwardfor_eq_ofNetwork, hget]
  rfl

/-- The field that is read first stands on one side only. -/
theorem forwardfor_append (kind : String) {values values' : List (String × Value)}
    (hnodup : ((values ++ values').map Prod.fst).Nodup) :
    forwardfor (.block kind (values ++ values')) = forwardfor (.block kind values) ∧
        forwardfor (.block kind values') = .ok 1 ∨
      forwardfor (.block kind (values ++ values')) = forwardfor (.block kind values') ∧
        forwardfor (.block kind values) = .ok 1 := by
  have hget : (OrderedMap.ofList (values ++ values')).get? "forwardfor" =
      ((OrderedMap.ofList values').get? "forwardfor").or
        ((OrderedMap.ofList values).get? "forwardfor") := by
    rw [OrderedMap.get?_ofList, OrderedMap.get?_ofList, OrderedMap.get?_ofList,
      OrderedMap.lastOf_append]
  rw [List.map_append, List.nodup_append] at hnodup
  obtain ⟨hvalues, hvalues', hdisjoint⟩ := hnodup
  have hnone {values : List (String × Value)} (h : (values.map Prod.fst).Nodup)
      (hnot : "forwardfor" ∉ values.map Prod.fst) :
      (OrderedMap.ofList values).get? "forwardfor" = none := by
    rw [OrderedMap.get?_eq_none_iff, OrderedMap.keys, OrderedMap.entries_ofList h]
    exact hnot
  by_cases hmem : "forwardfor" ∈ values'.map Prod.fst
  · have hnot := hnone hvalues fun h => hdisjoint _ h _ hmem rfl
    rw [hnot, Option.or_none] at hget
    have hone : forwardfor (.block kind values) = forwardfor (.block kind []) :=
      forwardfor_block_congr kind hnot
    exact .inr ⟨forwardfor_block_congr kind hget, hone⟩
  · have hnot := hnone hvalues' hmem
    rw [hnot, Option.none_or] at hget
    have hone : forwardfor (.block kind values') = forwardfor (.block kind []) :=
      forwardfor_block_congr kind hnot
    exact .inl ⟨forwardfor_block_congr kind hget, hone⟩

theorem splits : Splits ProxyOptions.ofFields where
  nil _ := rfl
  append {kind values values'} hnodup c := by
    have hnodups := hnodup
    rw [List.map_append, List.nodup_append] at hnodups
    have hrest : rest (values ++ values') = rest values ++ rest values' := List.filter_append ..
    rw [ofFields_block hnodup, hrest]
    simp only [ofFields_block hnodups.1, ofFields_block hnodups.2.1,
      foldlM_append_eq_ok_iff (add_eq_mul kind)]
    rcases forwardfor_append kind hnodup with ⟨hfirst, hnone⟩ | ⟨hfirst, hnone⟩
    · rw [hfirst, hnone]
      constructor
      · rintro ⟨first, hfirst, _, ⟨a, b, ha, hb, rfl⟩, rfl⟩
        exact ⟨_, _, ⟨first, hfirst, a, ha, rfl⟩, ⟨1, rfl, b, hb, rfl⟩, by
          rw [one_mul, mul_assoc]⟩
      · rintro ⟨_, _, ⟨first, hfirst, a, ha, rfl⟩, ⟨_, hone, b, hb, rfl⟩, rfl⟩
        cases hone
        exact ⟨first, hfirst, _, ⟨a, b, ha, hb, rfl⟩, by rw [one_mul, mul_assoc]⟩
    · -- the first field has to be moved past the pairs of the first part
      have hswap {first a : ProxyOptions} (ha : (rest values).foldlM (add kind) 1 = .ok a)
          (b : ProxyOptions) : first * (a * b) = a * (first * b) := by
        rw [← mul_assoc, mul_comm_of_except_eq_none (forwardforExcept_of_foldlM_add rfl ha),
          mul_assoc]
      rw [hfirst, hnone]
      constructor
      · rintro ⟨first, hfirst, _, ⟨a, b, ha, hb, rfl⟩, rfl⟩
        exact ⟨_, _, ⟨1, rfl, a, ha, rfl⟩, ⟨first, hfirst, b, hb, rfl⟩, by
          rw [one_mul, hswap ha]⟩
      · rintro ⟨_, _, ⟨_, hone, a, ha, rfl⟩, ⟨first, hfirst, b, hb, rfl⟩, rfl⟩
        cases hone
        exact ⟨first, hfirst, _, ⟨a, b, ha, hb, rfl⟩, by rw [one_mul, hswap ha]⟩

end ProxyOptions

end Balancer
