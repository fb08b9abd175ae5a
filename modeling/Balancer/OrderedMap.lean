/-!
# Maps that keep the order of insertion

Names in a configuration are looked up like keys of a dictionary, but they are also written out,
and then in the order in which the author wrote them. An `OrderedMap` is a list of entries whose
keys are pairwise different. Inserting a key that is there already keeps its place and replaces
its value; a new key goes to the end.

The distinctness of the keys is carried by the type, so that no operation needs it as an
assumption.
-/

namespace Balancer

/-- **An insertion-ordered map** from texts. -/
structure OrderedMap (α : Type) where
  entries : List (String × α)
  nodup : (entries.map Prod.fst).Nodup

namespace OrderedMap

variable {α β : Type}

/-! ### Insertion on lists of entries -/

/-- Replaces the value of `key` where it stands, or appends the entry. -/
def insertEntry (key : String) (value : α) : List (String × α) → List (String × α)
  | [] => [(key, value)]
  | (k, v) :: rest =>
    if k = key then (k, value) :: rest else (k, v) :: insertEntry key value rest

/-- Insertion leaves the keys alone where the key is there, and appends it otherwise. -/
theorem map_fst_insertEntry (key : String) (value : α) (entries : List (String × α)) :
    (insertEntry key value entries).map Prod.fst =
      if key ∈ entries.map Prod.fst then entries.map Prod.fst
      else entries.map Prod.fst ++ [key] := by
  induction entries with
  | nil => simp [insertEntry]
  | cons entry rest ih =>
    obtain ⟨k, v⟩ := entry
    by_cases h : k = key
    · simp [insertEntry, h]
    · have h' : ¬key = k := fun e => h e.symm
      simp only [insertEntry, if_neg h, List.map_cons, ih, List.mem_cons, h', false_or]
      split <;> simp

/-- Insertion keeps the keys different from one another. -/
theorem nodup_insertEntry (key : String) (value : α) {entries : List (String × α)}
    (h : (entries.map Prod.fst).Nodup) :
    ((insertEntry key value entries).map Prod.fst).Nodup := by
  rw [map_fst_insertEntry]
  split
  · exact h
  · rename_i hmem
    rw [List.nodup_append]
    refine ⟨h, by simp, ?_⟩
    intro a ha b hb
    rw [List.mem_singleton] at hb
    subst hb
    exact fun e => hmem (e ▸ ha)

/-! ### The operations -/

/-- The map without entries. -/
def empty : OrderedMap α := ⟨[], List.nodup_nil⟩

instance : EmptyCollection (OrderedMap α) := ⟨empty⟩

instance : Inhabited (OrderedMap α) := ⟨empty⟩

/-- The keys in order. -/
def keys (m : OrderedMap α) : List String := m.entries.map Prod.fst

/-- The values in order. -/
def values (m : OrderedMap α) : List α := m.entries.map Prod.snd

/-- The number of entries. -/
def size (m : OrderedMap α) : Nat := m.entries.length

/-- Whether there is no entry. -/
def isEmpty (m : OrderedMap α) : Bool := m.entries.isEmpty

/-- The value of a key. -/
def get? (m : OrderedMap α) (key : String) : Option α := m.entries.lookup key

/-- Whether the map has a key. -/
def contains (m : OrderedMap α) (key : String) : Bool := (m.get? key).isSome

/-- The map in which `key` has the value: in its old place, or at the end. -/
def insert (m : OrderedMap α) (key : String) (value : α) : OrderedMap α :=
  ⟨insertEntry key value m.entries, nodup_insertEntry key value m.nodup⟩

/-- The map after inserting the entries one after the other. -/
def insertAll (m : OrderedMap α) (entries : List (String × α)) : OrderedMap α :=
  entries.foldl (fun m (k, v) => m.insert k v) m

/-- The map made of the entries in order; the last value of a key counts. -/
def ofList (entries : List (String × α)) : OrderedMap α := empty.insertAll entries

/-- The map that gives the values, in order, to the keys. -/
def withValues (m : OrderedMap α) (values : List β) : OrderedMap β where
  entries := m.keys.zip values
  nodup := by
    have h : ((m.keys.zip values).map Prod.fst).Sublist m.keys := by
      have : (m.keys.zip values).map Prod.fst = m.keys.take values.length := by
        generalize m.keys = ks
        induction ks generalizing values with
        | nil => simp
        | cons k ks ih =>
          cases values with
          | nil => simp
          | cons v vs => simp [ih]
      rw [this]
      exact List.take_sublist _ _
    exact h.nodup m.nodup

end OrderedMap

instance {α : Type} [DecidableEq α] : DecidableEq (OrderedMap α) := fun a b =>
  match a, b with
  | ⟨entries, h⟩, ⟨entries', h'⟩ =>
    if e : entries = entries' then isTrue (by subst e; rfl)
    else isFalse (fun eq => e (congrArg OrderedMap.entries eq))

instance {α : Type} [Repr α] : Repr (OrderedMap α) := ⟨fun m n => reprPrec m.entries n⟩

end Balancer
