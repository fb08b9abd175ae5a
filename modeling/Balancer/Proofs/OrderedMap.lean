import Balancer.OrderedMap
import Balancer.Proofs.Ends
import Mathlib.Data.List.Induction
import Mathlib.Data.List.Perm.Basic

/-!
# Looking names up in ordered maps

What the operations of an `OrderedMap` do to what is found in it (`OrderedMap.get?`). A map is
looked up by the first entry of a name; since no name has two entries, there is no other, and the
names that are found are exactly the keys.

Maps are mostly made from lists of declarations, which may give a name more than once. The last
declaration of a name counts (`OrderedMap.get?_ofList`).
-/

namespace Balancer.OrderedMap

variable {α β : Type}

theorem lookup_cons_eq_ite (name key : String) (value : α) (rest : List (String × α)) :
    ((key, value) :: rest).lookup name = if name = key then some value else rest.lookup name := by
  rw [List.lookup_cons]
  by_cases h : name = key
  · rw [if_pos h, beq_iff_eq.2 h]
  · rw [if_neg h, beq_false_of_ne h]

theorem lookup_insertEntry (key other : String) (value : α) (entries : List (String × α)) :
    (insertEntry key value entries).lookup other =
      if other = key then some value else entries.lookup other := by
  induction entries with
  | nil => exact lookup_cons_eq_ite other key value []
  | cons entry rest ih =>
    obtain ⟨k, v⟩ := entry
    by_cases hk : k = key
    · rw [insertEntry, if_pos hk, lookup_cons_eq_ite, lookup_cons_eq_ite, hk]
      by_cases h : other = key
      · rw [if_pos h, if_pos h]
      · rw [if_neg h, if_neg h, if_neg h]
    · rw [insertEntry, if_neg hk, lookup_cons_eq_ite, lookup_cons_eq_ite, ih]
      by_cases h : other = k
      · have hkey : other ≠ key := fun he => hk (h.symm.trans he)
        rw [if_pos h, if_neg hkey, if_pos h]
      · rw [if_neg h, if_neg h]

/-- **Insertion changes what is found under one name.** -/
theorem get?_insert (m : OrderedMap α) (key other : String) (value : α) :
    (m.insert key value).get? other = if other = key then some value else m.get? other :=
  lookup_insertEntry key other value m.entries

@[simp]
theorem get?_insert_self (m : OrderedMap α) (key : String) (value : α) :
    (m.insert key value).get? key = some value := by
  rw [get?_insert, if_pos rfl]

theorem get?_insert_of_ne (m : OrderedMap α) {key other : String} (value : α) (h : other ≠ key) :
    (m.insert key value).get? other = m.get? other := by
  rw [get?_insert, if_neg h]

theorem get?_eq_none_iff {m : OrderedMap α} {name : String} :
    m.get? name = none ↔ name ∉ m.keys := by
  rw [get?, List.lookup_eq_none_iff, keys]
  constructor
  · intro h hmem
    obtain ⟨entry, hentry, rfl⟩ := List.mem_map.1 hmem
    exact absurd (h entry hentry) (by simp)
  · intro h entry hentry
    have hne : name ≠ entry.1 := fun he => h (he ▸ List.mem_map_of_mem hentry)
    simpa using hne

/-- The names that are found are the keys. -/
theorem mem_keys_iff {m : OrderedMap α} {name : String} :
    name ∈ m.keys ↔ ∃ value, m.get? name = some value := by
  rw [← Option.ne_none_iff_exists', ne_eq, get?_eq_none_iff, not_not]

theorem length_keys (m : OrderedMap α) : m.keys.length = m.size := List.length_map _

/-- What is found under a name is the entry with that name. -/
theorem get?_eq_some_iff {m : OrderedMap α} {name : String} {value : α} :
    m.get? name = some value ↔ (name, value) ∈ m.entries := by
  obtain ⟨entries, hnodup⟩ := m
  change entries.lookup name = some value ↔ (name, value) ∈ entries
  induction entries with
  | nil => simp
  | cons entry rest ih =>
    obtain ⟨k, v⟩ := entry
    rw [List.map_cons, List.nodup_cons] at hnodup
    obtain ⟨hk, hrest⟩ := hnodup
    rw [lookup_cons_eq_ite, List.mem_cons, Prod.mk.injEq]
    by_cases h : name = k
    · have hmem : (name, value) ∉ rest := fun hmem => hk (h ▸ List.mem_map.2 ⟨_, hmem, rfl⟩)
      rw [if_pos h, Option.some.injEq]
      exact ⟨fun hv => Or.inl ⟨h, hv.symm⟩, fun hv => (hv.resolve_right hmem).2.symm⟩
    · rw [if_neg h, ih hrest]
      exact ⟨Or.inr, fun hv => hv.resolve_left fun hv => h hv.1⟩

/-! ### Maps from lists -/

theorem ofList_concat (entries : List (String × α)) (key : String) (value : α) :
    ofList (entries ++ [(key, value)]) = (ofList entries).insert key value :=
  List.foldl_append ..

theorem insertEntry_of_notMem {key : String} {entries : List (String × α)}
    (h : key ∉ entries.map Prod.fst) (value : α) :
    insertEntry key value entries = entries ++ [(key, value)] := by
  induction entries with
  | nil => rfl
  | cons entry rest ih =>
    obtain ⟨k, v⟩ := entry
    rw [List.map_cons, List.mem_cons, not_or] at h
    rw [insertEntry, if_neg (Ne.symm h.1), ih h.2, List.cons_append]

/-- A list that gives no name twice is the list of entries of its map. -/
theorem entries_ofList {entries : List (String × α)} (h : (entries.map Prod.fst).Nodup) :
    (ofList entries).entries = entries := by
  induction entries using List.reverseRecOn with
  | nil => rfl
  | append_singleton entries entry ih =>
    obtain ⟨key, value⟩ := entry
    rw [List.map_append, List.nodup_append] at h
    obtain ⟨hentries, -, hdisjoint⟩ := h
    have hkey : key ∉ entries.map Prod.fst := fun hmem => hdisjoint key hmem key (by simp) rfl
    rw [ofList_concat]
    change insertEntry key value (ofList entries).entries = _
    rw [ih hentries, insertEntry_of_notMem hkey]

/-- Where no name is given twice, the order of the list does not matter to what is found. -/
theorem get?_ofList_of_perm {entries entries' : List (String × α)} (h : entries.Perm entries')
    (hnodup : (entries.map Prod.fst).Nodup) (name : String) :
    (ofList entries').get? name = (ofList entries).get? name := by
  have hnodup' : (entries'.map Prod.fst).Nodup := (h.map Prod.fst).nodup_iff.1 hnodup
  refine Option.ext fun value => ?_
  rw [get?_eq_some_iff, get?_eq_some_iff, entries_ofList hnodup, entries_ofList hnodup', h.mem_iff]

/-- The declaration of a name that counts, which is the last one. -/
def lastOf (name : String) (declarations : List (String × α)) : Option α :=
  declarations.reverse.lookup name

theorem lastOf_concat (name key : String) (value : α) (declarations : List (String × α)) :
    lastOf name (declarations ++ [(key, value)]) =
      if name = key then some value else lastOf name declarations := by
  rw [lastOf, List.reverse_append]
  exact lookup_cons_eq_ite name key value declarations.reverse

theorem lastOf_append (name : String) (declarations declarations' : List (String × α)) :
    lastOf name (declarations ++ declarations') =
      (lastOf name declarations').or (lastOf name declarations) := by
  rw [lastOf, List.reverse_append, List.lookup_append]
  rfl

/-- **What is found in a map is the last declaration.** -/
theorem get?_ofList (entries : List (String × α)) (name : String) :
    (ofList entries).get? name = lastOf name entries := by
  induction entries using List.reverseRecOn with
  | nil => rfl
  | append_singleton entries entry ih => rw [ofList_concat, get?_insert, ih, lastOf_concat]

/-! ### Reading declarations -/

section Declarations

variable {ε : Type} (read : String → α → Except ε β)

/-- The named value that a declaration is read as. -/
def readNamed : String × α → Except ε (String × β)
  | (name, a) => do return (name, ← read name a)

variable {read} {declarations : List (String × α)} {entries : List (String × β)}

theorem readNamed_eq_ok_iff {declaration : String × α} {entry : String × β} :
    readNamed read declaration = .ok entry ↔
      entry.1 = declaration.1 ∧ read declaration.1 declaration.2 = .ok entry.2 := by
  obtain ⟨name, a⟩ := declaration
  obtain ⟨name', b⟩ := entry
  change (do return (name, ← read name a)) = Except.ok (name', b) ↔ _
  cases h : read name a <;> simp [eq_comm]

/-- Reading keeps the names. -/
theorem map_fst_of_readNamed (h : declarations.mapM (readNamed read) = .ok entries) :
    entries.map Prod.fst = declarations.map Prod.fst := by
  rw [mapM_eq_ok] at h
  induction h with
  | nil => rfl
  | cons hentry _ ih => rw [List.map_cons, List.map_cons, (readNamed_eq_ok_iff.1 hentry).1, ih]

/-- **What is found under a name is what its last declaration is read as.** -/
theorem lastOf_of_readNamed (h : declarations.mapM (readNamed read) = .ok entries)
    (name : String) : (lastOf name declarations).mapM (read name) = .ok (lastOf name entries) := by
  have hreverse := List.rel_reverse (mapM_eq_ok.1 h)
  rw [lastOf, lastOf]
  generalize declarations.reverse = declarations at hreverse ⊢
  generalize entries.reverse = entries at hreverse ⊢
  induction hreverse with
  | nil => rfl
  | @cons declaration entry _ _ hentry _ ih =>
    obtain ⟨key, a⟩ := declaration
    obtain ⟨key', b⟩ := entry
    obtain ⟨rfl, hread⟩ := readNamed_eq_ok_iff.1 hentry
    rw [lookup_cons_eq_ite, lookup_cons_eq_ite]
    split
    · rename_i hname
      rw [optionMapM_eq_ok_some_iff]
      exact ⟨a, rfl, hname ▸ hread⟩
    · exact ih

/-- Declarations that are read in another order give the same map, as long as no name is declared
twice. -/
theorem get?_ofList_of_readNamed_perm {declarations' : List (String × α)}
    {entries' : List (String × β)} (hperm : declarations.Perm declarations')
    (hnodup : (declarations.map Prod.fst).Nodup)
    (h : declarations.mapM (readNamed read) = .ok entries)
    (h' : declarations'.mapM (readNamed read) = .ok entries') (name : String) :
    (ofList entries').get? name = (ofList entries).get? name := by
  -- the entries are rearranged like the declarations, since each is read from one of them
  have hunique : Relator.RightUnique fun declaration entry =>
      readNamed read declaration = .ok entry := fun _ _ _ h h' => Except.ok.inj (h.symm.trans h')
  have hentries : entries.Perm entries' :=
    List.rel_perm_imp hunique (mapM_eq_ok.1 h) (mapM_eq_ok.1 h') hperm
  exact get?_ofList_of_perm hentries (map_fst_of_readNamed h ▸ hnodup) name

end Declarations

/-! ### New values for the entries -/

theorem entries_withValues_map (m : OrderedMap α) (f : String × α → β) :
    (m.withValues (m.entries.map f)).entries = m.entries.map fun entry => (entry.1, f entry) :=
  List.zip_map'

/-- New values leave the keys and their order alone. -/
theorem keys_withValues_map (m : OrderedMap α) (f : String × α → β) :
    (m.withValues (m.entries.map f)).keys = m.keys := by
  rw [keys, entries_withValues_map, List.map_map]
  rfl

/-- Under a name, its new value is found. -/
theorem get?_withValues_map (m : OrderedMap α) (f : String × α → β) (name : String) :
    (m.withValues (m.entries.map f)).get? name =
      (m.get? name).map fun value => f (name, value) := by
  rw [get?, entries_withValues_map, get?]
  generalize m.entries = entries
  induction entries with
  | nil => rfl
  | cons entry rest ih =>
    obtain ⟨k, v⟩ := entry
    rw [List.map_cons, lookup_cons_eq_ite, lookup_cons_eq_ite, ih]
    by_cases h : name = k
    · rw [if_pos h, if_pos h, Option.map_some, h]
    · rw [if_neg h, if_neg h]

/-- A map with its own values is itself. -/
theorem withValues_values (m : OrderedMap α) : m.withValues m.values = m := by
  have hentries : (m.withValues m.values).entries = m.entries := by
    rw [values, entries_withValues_map]
    exact List.map_id _
  generalize m.withValues m.values = m' at hentries
  obtain ⟨entries, hn⟩ := m
  obtain ⟨entries', hn'⟩ := m'
  cases hentries
  rfl

end Balancer.OrderedMap
