import Mathlib
import Balancer.Proofs.Assembly
import Balancer.Proofs.Gathering
import Balancer.Proofs.Naming

/-!
# What a file overrides

The last declaration of a name counts, so the order in which items are collected decides whose
declaration that is. A file is collected item by item, and an import is followed when its turn comes.
What it brings in therefore stands between two items of the file: behind those that come before the
import, and in front of the import itself.

`Brings` says which files an import brings in: those that it leads to without coming back to the
file that is being loaded. The invariant `Runs.mem_loaded_iff` is that the files loaded so far are
those that the items so far bring in, and `Runs.exists_cut` follows: every item of the file cuts the
document in two, and each of the other files stands as a whole on one side of the cut.

So a file overrides what it imports only where the import comes first. The whole of an imported file
stands before the whole of the file that imports it exactly if the very first item brings it in; and
the declaration of a name in the file counts exactly if the other files that declare it are brought
in before it.
-/

namespace Balancer

open Relation Sources

/-! ### What an item brings in -/

/-- A file leads to another by imports, and never by way of the file `p`. -/
def LeadsPast (fs : FileSystem) (p q r : Path) : Prop :=
  q ≠ p ∧ ReflTransGen (fun a b => Imports fs a b ∧ b ≠ p) q r

/-- **An item of the file `p` brings in a file**: it is an import that leads there, and does not come
back to `p` on the way. -/
def Brings (fs : FileSystem) (p : Path) (item : Item) (r : Path) : Prop :=
  ∃ q, Leads fs p item q ∧ LeadsPast fs p q r

theorem Brings.import?_ne_none {fs : FileSystem} {p r : Path} {item : Item}
    (h : Brings fs p item r) : item.import? ≠ none := by
  obtain ⟨q, ⟨path, hitem, -⟩, -⟩ := h
  simp [hitem]

namespace Runs

variable {fs : FileSystem} {job : Job} {t t' : Progress} {r : Except LoadError Unit} {p q : Path}
  {first rest : List Item} {item : Item}

/-- What is collected stays where it is. -/
theorem collected_isPrefix (h : Runs fs job t t' r) : t.collected <+: t'.collected := by
  induction h with
  | unresolved | known | unread | done | unlisted | none => exact List.prefix_rfl
  | opened _ _ _ _ ih | stopped _ _ ih | listed _ _ ih | halted _ ih => exact ih
  | plain _ _ ih => exact (List.prefix_append _ _).trans ih
  | followed _ _ _ ihfile ih => exact ihfile.trans ((List.prefix_append _ _).trans ih)
  | next _ _ ihfirst ih => exact ihfirst.trans ih

/-- The items of a file are collected in two goes. -/
theorem items_append (h : Runs fs (.items p (first ++ rest)) t t' (.ok ())) :
    ∃ t₁, Runs fs (.items p first) t t₁ (.ok ()) ∧ Runs fs (.items p rest) t₁ t' (.ok ()) := by
  induction first generalizing t with
  | nil => exact ⟨t, .done, h⟩
  | cons item first ih =>
    cases h with
    | plain hitem h =>
      obtain ⟨t₁, hfirst, hrest⟩ := ih h
      exact ⟨t₁, .plain hitem hfirst, hrest⟩
    | followed hitem hfile h =>
      obtain ⟨t₁, hfirst, hrest⟩ := ih h
      exact ⟨t₁, .followed hitem hfile hfirst, hrest⟩

/-- An item is the last thing that is collected when its turn is over. -/
theorem collected_concat (h : Runs fs (.items p (first ++ [item])) t t' (.ok ())) :
    ∃ before, t'.collected = before ++ [⟨some p, item⟩] := by
  obtain ⟨t₁, -, hitem⟩ := items_append h
  cases hitem with
  | plain _ h =>
    cases h
    exact ⟨t₁.collected, rfl⟩
  | @followed _ _ _ _ _ t₂ _ _ _ _ h =>
    cases h
    exact ⟨t₂.collected, rfl⟩

/-- What holds while a file is being loaded holds after each of its items. -/
theorem working {pending : List Path} (h : Runs fs (.items p first) t t' (.ok ()))
    (hsound : Sound fs (p :: pending) t) (hworking : Working fs p (first ++ rest) t) :
    Sound fs (p :: pending) t' ∧ Working fs p rest t' := by
  induction first generalizing t with
  | nil =>
    cases h
    exact ⟨hsound, hworking⟩
  | cons item first ih =>
    cases h with
    | plain hitem h => exact ih h (hsound.add hworking (by simp [hitem])) hworking.add
    | followed hitem hfile h =>
      have hsound₁ : Sound fs (p :: pending) _ := hfile.sound hsound
      have hworking₁ := hworking.follow hsound hsound₁ hfile
      refine ih h (hsound₁.add hworking₁ fun path hpath => ?_) hworking₁.add
      obtain rfl := Option.some.inj (hitem.symm.trans hpath)
      exact hfile.exists_mem_loaded

/-! ### The files that are loaded so far -/

/-- Following an import loads the files that it leads to past the file it stands in. -/
theorem mem_loaded_iff_of_follow {path : String} {q' : Path}
    (h : Runs fs (.load (.file path)) t t' (.ok ())) (hpath : resolve fs path = .ok q')
    (hsound : Sound fs [p] t) (habandoned : t.abandoned = []) :
    q ∈ t'.loaded ↔ q ∈ t.loaded ∨ LeadsPast fs p q' q := by
  have hp : p ∈ t.loaded := hsound.pending_mem p List.mem_cons_self
  obtain ⟨found, hfound⟩ := h.loaded_isPrefix
  constructor
  · intro hmem
    by_cases hknown : q ∈ t.loaded
    · exact .inl hknown
    · obtain ⟨_, ⟨hpath'⟩, hreached⟩ := h.reached trivial hmem hknown
      obtain rfl := Except.ok.inj (hpath.symm.trans hpath')
      have hnew : q' ∉ t.loaded := by
        intro hq'
        obtain ⟨rfl, -⟩ := h.unique (.known hpath hq')
        exact hknown hmem
      -- All that was loaded for the import comes after `p`, so no chain comes back to it.
      have hbefore : Before t'.loaded p q' := by
        have hmem' := h.mem_loaded hpath
        rw [← hfound] at hmem' ⊢
        exact Before.of_notMem hp hnew ((List.mem_append.1 hmem').resolve_left hnew)
      refine .inr ⟨hbefore.ne.symm, ?_⟩
      clear hmem hknown
      induction hreached with
      | refl => exact .refl
      | tail hchain hstep ih =>
        exact ih.tail ⟨hstep.1, (hbefore.trans_loadedFor (hchain.tail hstep)).ne.symm⟩
  · rintro (hknown | ⟨hq', hchain⟩)
    · exact h.loaded_isPrefix.subset hknown
    · -- Everything but `p` is complete when the import has been followed, and its imports loaded.
      have hsound' : Sound fs [p] t' := h.sound hsound
      suffices hmem : q ∈ t'.loaded ∧ q ≠ p from hmem.1
      induction hchain with
      | refl => exact ⟨h.mem_loaded hpath, hq'⟩
      | @tail a b _ hstep ih =>
        have hcomplete : Complete fs t' a := by
          refine (hsound'.settled a ih.1 (by simpa using ih.2)).2 ?_
          simp [h.abandoned_eq rfl, habandoned]
        exact ⟨hsound'.mem_of_imports hcomplete hstep.1, hstep.2⟩

/-- **The files that are loaded so far are those that the items so far bring in.** -/
theorem mem_loaded_iff (h : Runs fs (.items p first) t t' (.ok ())) (hsound : Sound fs [p] t)
    (hworking : Working fs p (first ++ rest) t) (habandoned : t.abandoned = []) :
    q ∈ t'.loaded ↔ q ∈ t.loaded ∨ ∃ item ∈ first, Brings fs p item q := by
  induction first generalizing t with
  | nil =>
    cases h
    simp
  | cons item first ih =>
    -- the step is what the first item brings in, and the rest is the induction hypothesis
    have hbring : ∀ {t₁ : Progress}, Runs fs (.items p [item]) t t₁ (.ok ()) →
        (q ∈ t₁.loaded ↔ q ∈ t.loaded ∨ Brings fs p item q) := by
      intro t₁ hitem
      cases hitem with
      | plain hitem h =>
        cases h
        have hnot : ¬Brings fs p item q := fun hbrings => hbrings.import?_ne_none hitem
        simp [hnot, Progress.add]
      | @followed _ _ path _ _ t₂ _ _ hitem hfile h =>
        cases h
        obtain ⟨q', -, hpath⟩ := hfile.exists_mem_loaded
        have hbrings : Brings fs p item q ↔ LeadsPast fs p q' q := by
          constructor
          · rintro ⟨q'', ⟨path', hitem', hpath'⟩, hleads⟩
            obtain rfl := Option.some.inj (hitem.symm.trans hitem')
            obtain rfl := Except.ok.inj (hpath.symm.trans hpath')
            exact hleads
          · exact fun hleads => ⟨q', ⟨path, hitem, hpath⟩, hleads⟩
        rw [hbrings]
        exact hfile.mem_loaded_iff_of_follow hpath hsound habandoned
    rw [← List.singleton_append] at h
    obtain ⟨t₁, hitem, hfirst⟩ := h.items_append
    obtain ⟨hsound₁, hworking₁⟩ := hitem.working hsound hworking
    have habandoned₁ : t₁.abandoned = [] := (hitem.abandoned_eq rfl).trans habandoned
    rw [ih hfirst hsound₁ hworking₁ habandoned₁, hbring hitem]
    simp [or_assoc]

end Runs

/-! ### Cutting the document -/

/-- **An item of the file `p` cuts what was collected in two.** In front of it stand the items of the
file before it and, as a whole, the files that these and the item itself bring in. Behind it stand
the items of the file after it and all other files. -/
structure CutAt (fs : FileSystem) (t : Progress) (p : Path) (early : List Item) (item : Item)
    (late : List Item) (before after : List Collected) : Prop where
  collected_eq : t.collected = before ++ ⟨some p, item⟩ :: after
  early_eq : ownItems before p = early
  late_eq : ownItems after p = late
  brought : ∀ q ∈ t.loaded, q ≠ p → (∃ i ∈ early ++ [item], Brings fs p i q) →
    fileItems fs q = .ok (ownItems before q) ∧ ownItems after q = []
  other : ∀ q ∈ t.loaded, q ≠ p → (¬∃ i ∈ early ++ [item], Brings fs p i q) →
    ownItems before q = [] ∧ fileItems fs q = .ok (ownItems after q)

namespace Runs

variable {fs : FileSystem} {path : String} {t : Progress} {p : Path}

/-- What has been loaded when a file was asked for first, and with success. -/
theorem complete_of_load (h : Runs fs (.load (.file path)) {} t (.ok ())) {q : Path}
    (hq : q ∈ t.loaded) : Complete fs t q := by
  have hsound : Sound fs [] t := h.sound Sound.empty
  refine (hsound.settled q hq (by simp)).2 ?_
  simp [h.abandoned_eq rfl]

/-- A file that is asked for first is opened. -/
theorem exists_opened (h : Runs fs (.load (.file path)) {} t (.ok ())) :
    ∃ p items, resolve fs path = .ok p ∧ fileItems fs p = .ok items ∧
      Runs fs (.items p items) (Progress.begin {} p) t (.ok ()) := by
  cases h with
  | known _ hp => cases hp
  | opened hpath _ hitems h => exact ⟨_, _, hpath, hitems, h⟩

/-- **Every item of the file cuts the document in two.** -/
theorem exists_cut (h : Runs fs (.load (.file path)) {} t (.ok ())) (hpath : resolve fs path = .ok p)
    {early late : List Item} {item : Item}
    (hitems : fileItems fs p = .ok (early ++ item :: late)) :
    ∃ before after, CutAt fs t p early item late before after := by
  obtain ⟨p', items, hpath', hitems', hrun⟩ := h.exists_opened
  obtain rfl := Except.ok.inj (hpath.symm.trans hpath')
  obtain rfl := Except.ok.inj (hitems.symm.trans hitems')
  have hnew : p ∉ (Progress.loaded {}) := by simp
  have hbegin : Sound fs [p] (Progress.begin {} p) := Sound.empty.begin hnew
  have hworking : Working fs p (early ++ item :: late) (Progress.begin {} p) :=
    Working.begin Sound.empty hnew hitems
  -- the progress right after the item, and what holds then
  rw [List.append_cons] at hrun hworking
  obtain ⟨t₁, hfirst, hlast⟩ := hrun.items_append
  obtain ⟨hsound₁, hworking₁⟩ := hfirst.working hbegin hworking
  have habandoned₁ : t₁.abandoned = [] := hfirst.abandoned_eq rfl
  obtain ⟨before, hbefore⟩ := hfirst.collected_concat
  obtain ⟨after, hafter⟩ := hlast.collected_isPrefix
  have hown (q : Path) : ownItems t.collected q = ownItems t₁.collected q ++ ownItems after q := by
    rw [← hafter, ownItems_append]
  have hloaded {q : Path} (hq : q ≠ p) :
      q ∈ t₁.loaded ↔ ∃ i ∈ early ++ [item], Brings fs p i q := by
    rw [hfirst.mem_loaded_iff hbegin hworking rfl]
    simp [Progress.begin, hq]
  have hbeforeOf {q : Path} (hq : q ≠ p) : ownItems t₁.collected q = ownItems before q := by
    rw [hbefore, ownItems_append]
    simp [ownItems, hq.symm]
  -- the items of `p` are those that were collected by then and those that were left
  have hearly : ownItems t₁.collected p = early ++ [item] := by
    have heq : (early ++ [item]) ++ late = ownItems t₁.collected p ++ late := by
      simpa using Except.ok.inj (hitems.symm.trans hworking₁.items_eq)
    exact (List.append_cancel_right heq).symm
  refine ⟨before, after, ⟨?_, ?_, ?_, ?_, ?_⟩⟩
  · rw [← hafter, hbefore, List.append_assoc, List.singleton_append]
  · have hconcat : ownItems before p ++ [item] = early ++ [item] := by
      rw [← hearly, hbefore, ownItems_append]
      simp [ownItems]
    exact List.append_cancel_right hconcat
  · have hp : p ∈ t.loaded := h.mem_loaded hpath
    have heq : (early ++ [item]) ++ ownItems after p = (early ++ [item]) ++ late := by
      rw [← hearly, ← hown, hearly, List.append_assoc, List.singleton_append]
      exact Except.ok.inj ((h.complete_of_load hp).symm.trans hitems)
    exact List.append_cancel_left heq
  · intro q hq hne hbrings
    have hq₁ : q ∈ t₁.loaded := (hloaded hne).2 hbrings
    have howner : (Job.items p late).owner? ≠ some q := by simpa [Job.owner?] using hne.symm
    have hnone : ownItems after q = [] := by
      simpa [hown q] using hlast.ownItems_eq hq₁ howner
    refine ⟨?_, hnone⟩
    rw [← hbeforeOf hne, ← List.append_nil (ownItems t₁.collected q), ← hnone, ← hown]
    exact h.complete_of_load hq
  · intro q hq hne hbrings
    have hq₁ : q ∉ t₁.loaded := mt (hloaded hne).1 hbrings
    have hnone : ownItems t₁.collected q = [] :=
      ownItems_eq_nil fun c hc hsource => hq₁ (hsound₁.source_mem c hc q hsource)
    refine ⟨(hbeforeOf hne).symm.trans hnone, ?_⟩
    rw [← List.nil_append (ownItems after q), ← hnone, ← hown]
    exact h.complete_of_load hq

end Runs

/-! ### Whole files before whole files -/

/-- All items of the file `q` stand before all items of the file `p`. -/
def Precedes (collected : List Collected) (q p : Path) : Prop :=
  ∀ before c after, collected = before ++ c :: after → c.source = some p →
    ∀ c' ∈ after, c'.source ≠ some q

theorem ownItems_eq_nil_iff {collected : List Collected} {p : Path} :
    ownItems collected p = [] ↔ ∀ c ∈ collected, c.source ≠ some p := by
  simp [ownItems]

/-- What stands behind an item of the file `p` stands behind the first one. -/
theorem CutAt.mem_after {fs : FileSystem} {t : Progress} {p : Path} {item : Item}
    {late : List Item} {before after : List Collected} (h : CutAt fs t p [] item late before after)
    {first : List Collected} {c : Collected} {last : List Collected}
    (hsplit : t.collected = first ++ c :: last) (hc : c.source = some p) {c' : Collected}
    (hc' : c' ∈ last) : c' ∈ after := by
  rcases cons_of_append_eq (h.collected_eq.symm.trans hsplit) with ⟨skipped, hskipped⟩ | hin
  · cases skipped with
    | nil =>
      obtain ⟨-, rfl⟩ := List.cons.inj hskipped
      exact hc'
    | cons _ skipped =>
      obtain ⟨-, rfl⟩ := List.cons.inj hskipped
      simp [hc']
  · obtain ⟨rest, rfl, -⟩ := hin
    exact absurd hc (ownItems_eq_nil_iff.1 h.early_eq c (by simp))

/-- **A file stands before the file that imports it exactly if the first item brings it in**, or if
there is nothing in it. -/
theorem Runs.precedes_iff {fs : FileSystem} {path : String} {t : Progress} {p q : Path}
    {items : List Item} (h : Runs fs (.load (.file path)) {} t (.ok ()))
    (hpath : resolve fs path = .ok p) (hitems : fileItems fs p = .ok items) (hq : q ∈ t.loaded)
    (hne : q ≠ p) :
    Precedes t.collected q p ↔
      fileItems fs q = .ok [] ∨ ∃ item, items.head? = some item ∧ Brings fs p item q := by
  cases items with
  | nil =>
    -- a file without items brings in no other
    obtain ⟨p', items, hpath', hitems', hrun⟩ := h.exists_opened
    obtain rfl := Except.ok.inj (hpath.symm.trans hpath')
    obtain rfl := Except.ok.inj (hitems.symm.trans hitems')
    cases hrun
    exact absurd (List.mem_singleton.1 hq) hne
  | cons item late =>
    rw [← List.nil_append (item :: late)] at hitems
    obtain ⟨before, after, hcut⟩ := h.exists_cut hpath hitems
    constructor
    · intro hprecedes
      by_cases hbrings : ∃ i ∈ [] ++ [item], Brings fs p i q
      · exact .inr ⟨item, rfl, by simpa using hbrings⟩
      · refine .inl ?_
        have hnone := ownItems_eq_nil_iff.2 (hprecedes before _ after hcut.collected_eq rfl)
        rw [(hcut.other q hq hne hbrings).2, hnone]
    · intro hor first c last hsplit hc c' hc'
      rcases hor with hempty | ⟨_, ⟨⟩, hbrings⟩
      · have hnone : ownItems t.collected q = [] :=
          Except.ok.inj ((h.complete_of_load hq).symm.trans hempty)
        exact ownItems_eq_nil_iff.1 hnone c' (by simp [hsplit, hc'])
      · have hnone := (hcut.brought q hq hne ⟨item, by simp, hbrings⟩).2
        exact ownItems_eq_nil_iff.1 hnone c' (hcut.mem_after hsplit hc hc')

/-! ### Whose declaration counts -/

section Declarations

open OrderedMap (lastOf)

variable {α β : Type} {declared : β → Option (String × α)} {name : String} {xs : List β}

theorem lastOf_filterMap_eq_none_iff :
    lastOf name (xs.filterMap declared) = none ↔ ∀ x ∈ xs, ∀ v, declared x ≠ some (name, v) := by
  rw [lastOf, List.lookup_eq_none_iff]
  constructor
  · intro h x hx v hv
    have hmem : (name, v) ∈ (xs.filterMap declared).reverse :=
      List.mem_reverse.2 (List.mem_filterMap.2 ⟨x, hx, hv⟩)
    simpa using h _ hmem
  · rintro h ⟨key, v⟩ hmem
    obtain ⟨x, hx, hv⟩ := List.mem_filterMap.1 (List.mem_reverse.1 hmem)
    have hne : name ≠ key := fun heq => h x hx v (heq ▸ hv)
    simpa using hne

/-- The last declaration of a name is one behind which there is no other. -/
theorem lastOf_filterMap_eq_some_iff {v : α} :
    lastOf name (xs.filterMap declared) = some v ↔ ∃ early x late, xs = early ++ x :: late ∧
      declared x = some (name, v) ∧ lastOf name (late.filterMap declared) = none := by
  have hsingle {x : β} {v : α} :
      lastOf name ([x].filterMap declared) = some v ↔ declared x = some (name, v) := by
    cases hx : declared x with
    | none => simp [lastOf, hx]
    | some entry =>
      obtain ⟨key, v'⟩ := entry
      by_cases hkey : name = key
      · simp [lastOf, hx, hkey]
      · simp [lastOf, hx, hkey, Ne.symm hkey, OrderedMap.lookup_cons_eq_ite]
  constructor
  · intro h
    induction xs with
    | nil => cases h
    | cons x xs ih =>
      rw [← List.singleton_append, List.filterMap_append, OrderedMap.lastOf_append] at h
      cases hxs : lastOf name (xs.filterMap declared) with
      | none =>
        rw [hxs, Option.none_or, hsingle] at h
        exact ⟨[], x, xs, rfl, h, hxs⟩
      | some v' =>
        rw [hxs, Option.some_or] at h
        obtain ⟨early, x', late, rfl, hx', hlate⟩ := ih (hxs.trans h)
        exact ⟨x :: early, x', late, rfl, hx', hlate⟩
  · rintro ⟨early, x, late, rfl, hx, hlate⟩
    rw [List.append_cons, List.filterMap_append, List.filterMap_append, OrderedMap.lastOf_append,
      OrderedMap.lastOf_append, hlate, Option.none_or, hsingle.2 hx, Option.some_or]

end Declarations

section Counting

open OrderedMap (lastOf)

variable {α : Type}

/-- The items declare a name. -/
def Declares (declared : Item → Option (String × α)) (name : String) (items : List Item) : Prop :=
  lastOf name (items.filterMap declared) ≠ none

/-- **A file is brought in first**: the file `p`, with the given items, declares the name behind an
item that brings in the file `q`. -/
def BroughtFirst (fs : FileSystem) (declared : Item → Option (String × α)) (name : String)
    (p : Path) (items : List Item) (q : Path) : Prop :=
  ∃ early item late v, items = early ++ item :: late ∧ declared item = some (name, v) ∧
    ∃ i ∈ early, Brings fs p i q

/-- **Whose declaration of a name counts**, of the file `p` with the given items and of the other
files that are loaded. If all others that declare the name are brought in first, it is the file's
own, and otherwise it is that of one which is not. -/
def Settled (fs : FileSystem) (declared : Item → Option (String × α)) (name : String) (p : Path)
    (items : List Item) (loaded : List Path) (counts : List Item → Prop) : Prop :=
  ((∀ q ∈ loaded, q ≠ p → ∀ items', fileItems fs q = .ok items' → Declares declared name items' →
      BroughtFirst fs declared name p items q) ∧ counts items) ∨
    ∃ q ∈ loaded, q ≠ p ∧ ¬BroughtFirst fs declared name p items q ∧
      ∃ items', fileItems fs q = .ok items' ∧ Declares declared name items' ∧ counts items'

variable {fs : FileSystem} {declared : Item → Option (String × α)} {name : String} {t : Progress}
  {p q : Path} {early late : List Item} {item : Item} {before after : List Collected} {v : α}

theorem Settled.mono {items : List Item} {loaded : List Path}
    {counts counts' : List Item → Prop} (h : Settled fs declared name p items loaded counts)
    (himp : ∀ items, counts items → counts' items) :
    Settled fs declared name p items loaded counts' := by
  rcases h with ⟨hall, hcounts⟩ | ⟨q, hq, hne, hnot, items', hitems', hdeclares, hcounts⟩
  · exact .inl ⟨hall, himp _ hcounts⟩
  · exact .inr ⟨q, hq, hne, hnot, items', hitems', hdeclares, himp _ hcounts⟩

/-- The items of a file are declared where they are collected. -/
theorem lastOf_ownItems {collected : List Collected}
    (h : lastOf name (collected.filterMap fun c => declared c.item) = some v) :
    ∃ c ∈ collected, ∀ q, c.source = some q →
      lastOf name ((ownItems collected q).filterMap declared) = some v := by
  obtain ⟨first, c, last, rfl, hc, hlast⟩ := lastOf_filterMap_eq_some_iff.1 h
  refine ⟨c, by simp, fun q hq => lastOf_filterMap_eq_some_iff.2 ?_⟩
  refine ⟨ownItems first q, c.item, ownItems last q, ?_, hc, ?_⟩
  · rw [ownItems_append]
    simp [ownItems, hq]
  · rw [lastOf_filterMap_eq_none_iff] at hlast ⊢
    intro i hi
    obtain ⟨c', hc', -, rfl⟩ := mem_ownItems.1 hi
    exact hlast c' hc'

/-- A file that a cut leaves behind the last declaration is not brought in first. -/
theorem CutAt.not_broughtFirst (h : CutAt fs t p early item late before after)
    (hlate : lastOf name (late.filterMap declared) = none) (hq : q ∈ t.loaded) (hne : q ≠ p)
    (hafter : ownItems after q ≠ []) :
    ¬BroughtFirst fs declared name p (early ++ item :: late) q := by
  rintro ⟨early', item', late', v, hsplit, hitem', i, hi, hbrings⟩
  rw [List.append_cons] at hsplit
  rcases cons_of_append_eq hsplit with ⟨skipped, rfl⟩ | ⟨rest, hrest, -⟩
  · exact lastOf_filterMap_eq_none_iff.1 hlate item' (by simp) v hitem'
  · have hmem : i ∈ early ++ [item] := by simp [hrest, hi]
    exact hafter (h.brought q hq hne ⟨i, hmem, hbrings⟩).2

/-- **The declarations of a name are settled by the order of the items**, for declarations that are
not imports. -/
theorem Runs.settled {path : String} {items : List Item}
    (h : Runs fs (.load (.file path)) {} t (.ok ())) (hpath : resolve fs path = .ok p)
    (hitems : fileItems fs p = .ok items)
    (hplain : ∀ item entry, declared item = some entry → item.import? = Option.none)
    (hdeclares : Declares declared name items) :
    Settled fs declared name p items t.loaded fun items' =>
      lastOf name (t.sources.items.filterMap declared) =
        lastOf name (items'.filterMap declared) := by
  obtain ⟨v, hv⟩ := Option.ne_none_iff_exists'.1 hdeclares
  obtain ⟨early, item, late, rfl, hitem, hlate⟩ := lastOf_filterMap_eq_some_iff.1 hv
  obtain ⟨before, after, hcut⟩ := h.exists_cut hpath hitems
  have hdocument : lastOf name (t.sources.items.filterMap declared) =
      (lastOf name (after.filterMap fun c => declared c.item)).or (some v) := by
    have hcollected : t.sources.items.filterMap declared =
        t.collected.filterMap fun c => declared c.item := List.filterMap_map ..
    have hfront : lastOf name
        ((before ++ [Collected.mk (some p) item]).filterMap fun c => declared c.item) = some v :=
      lastOf_filterMap_eq_some_iff.2 ⟨before, ⟨some p, item⟩, [], rfl, hitem, rfl⟩
    rw [hcollected, hcut.collected_eq, List.append_cons, List.filterMap_append,
      OrderedMap.lastOf_append, hfront]
  cases hafter : lastOf name (after.filterMap fun c => declared c.item) with
  | none =>
    refine .inl ⟨fun q hq hne items' hitems' hdeclares' => ?_, ?_⟩
    · by_cases hbrings : ∃ i ∈ early ++ [item], Brings fs p i q
      · obtain ⟨i, hi, hbrings⟩ := hbrings
        have hne' : i ≠ item := by
          rintro rfl
          exact hbrings.import?_ne_none (hplain i _ hitem)
        exact ⟨early, item, late, v, rfl, hitem, i, by simpa [hne'] using hi, hbrings⟩
      · -- otherwise its declaration would stand behind the cut
        obtain rfl := Except.ok.inj (hitems'.symm.trans (hcut.other q hq hne hbrings).2)
        refine absurd (lastOf_filterMap_eq_none_iff.2 fun i hi => ?_) hdeclares'
        obtain ⟨c, hc, -, rfl⟩ := mem_ownItems.1 hi
        exact lastOf_filterMap_eq_none_iff.1 hafter c hc
    · calc
        lastOf name (t.sources.items.filterMap declared) = some v := by
          rw [hdocument, hafter, Option.none_or]
        _ = _ := hv.symm
  | some w =>
    obtain ⟨c, hc, hown⟩ := lastOf_ownItems hafter
    have hmem : c ∈ t.collected := by simp [hcut.collected_eq, hc]
    obtain ⟨q, hsource⟩ := Option.ne_none_iff_exists'.1 (h.source_ne_none nofun c hmem)
    have hlast := hown q hsource
    have hne : q ≠ p := by
      rintro rfl
      rw [hcut.late_eq, hlate] at hlast
      cases hlast
    have hq : q ∈ t.loaded := (h.sound Sound.empty).source_mem c hmem q hsource
    have hfound : ownItems after q ≠ [] := by
      intro hnone
      exact ownItems_eq_nil_iff.1 hnone c hc hsource
    have hnot : ¬∃ i ∈ early ++ [item], Brings fs p i q := fun hbrings =>
      hfound (hcut.brought q hq hne hbrings).2
    refine .inr ⟨q, hq, hne, hcut.not_broughtFirst hlate hq hne hfound, ownItems after q,
      (hcut.other q hq hne hnot).2, ?_, ?_⟩
    · rw [Declares, hlast]
      exact nofun
    · calc
        lastOf name (t.sources.items.filterMap declared) = some w := by
          rw [hdocument, hafter, Option.some_or]
        _ = _ := hlast.symm

end Counting

/-! ### Configurations -/

section Configurations

open OrderedMap (lastOf)

variable (environment : Environment) (config : Configuration) (name : String) (items : List Item)

/-- The configuration holds a variable as the items declare it. -/
def Configuration.HoldsVariable : Prop :=
  (lastOf name (definitionsOf items)).mapM (fun d => d.1.evaluate environment d.2) =
    .ok (config.definitions.get? name)

/-- The configuration holds a template as the items declare it. -/
def Configuration.HoldsTemplate : Prop :=
  (lastOf name (templatesOf items)).mapM (fun d => Template.ofChildren environment name d.1 d.2) =
    .ok (config.templates.get? name)

variable {environment config name items} {document : Document}

theorem Configuration.holdsVariable_of_ofDocument
    (h : ofDocument environment document = .ok config) :
    config.HoldsVariable environment name document.items := by
  obtain ⟨entries, hentries, hdefinitions⟩ := (assembled_of_ofDocument h).definitions
  rw [HoldsVariable, hdefinitions, OrderedMap.get?_ofList]
  exact OrderedMap.lastOf_of_readNamed hentries name

theorem Configuration.holdsTemplate_of_ofDocument
    (h : ofDocument environment document = .ok config) :
    config.HoldsTemplate environment name document.items := by
  obtain ⟨entries, hentries, htemplates⟩ := (assembled_of_ofDocument h).templates
  rw [HoldsTemplate, htemplates, OrderedMap.get?_ofList]
  exact OrderedMap.lastOf_of_readNamed hentries name

end Configurations

/-- **A file overrides what it imports before.** After a file was loaded by itself, every item of it
cuts the document in two. Another file stands before the whole of it exactly if the first item brings
the other file in. And in the configuration, a variable or a template that the file declares is the
file's own exactly if every other file that declares it too is brought in first. -/
theorem Sources.loadFile_overrides (fs : FileSystem) (path : String) (s : Sources)
    (h : Loading.exec (loadFile fs path) {} = (.ok (), s)) :
    ∃ p items t, resolve fs path = .ok p ∧ fileItems fs p = .ok items ∧
      Runs fs (.load (.file path)) {} t (.ok ()) ∧ t.sources = s ∧
      (∀ q, Imports fs p q → q ∈ s.loaded) ∧
      (∀ early item late, items = early ++ item :: late →
        ∃ before after, CutAt fs t p early item late before after) ∧
      (∀ q ∈ s.loaded, q ≠ p → (Precedes t.collected q p ↔
        fileItems fs q = .ok [] ∨ ∃ item, items.head? = some item ∧ Brings fs p item q)) ∧
      ∀ environment config, Configuration.ofDocument environment s.document = .ok config →
        ∀ name,
          (Declares Item.definition? name items →
            Settled fs Item.definition? name p items s.loaded
              (config.HoldsVariable environment name)) ∧
          (Declares Item.template? name items →
            Settled fs Item.template? name p items s.loaded
              (config.HoldsTemplate environment name)) := by
  obtain ⟨t, hrun, rfl⟩ := (performs_loadFile path {}).exec_iff.1 h
  obtain ⟨p, items, hpath, hitems, -⟩ := hrun.exists_opened
  refine ⟨p, items, t, hpath, hitems, hrun, rfl, fun q hq => ?_, ?_, ?_, ?_⟩
  · have hsound : Sound fs [] t := hrun.sound Sound.empty
    exact hsound.mem_of_imports (hrun.complete_of_load (hrun.mem_loaded hpath)) hq
  · rintro early item late rfl
    exact hrun.exists_cut hpath hitems
  · exact fun q hq hne => hrun.precedes_iff hpath hitems hq hne
  · intro environment config hconfig name
    refine ⟨fun hdeclares => ?_, fun hdeclares => ?_⟩
    · have hholds : config.HoldsVariable environment name t.sources.items :=
        Configuration.holdsVariable_of_ofDocument hconfig
      refine (hrun.settled hpath hitems (fun item _ hitem => ?_) hdeclares).mono fun items' heq => ?_
      · cases item with
        | definition => rfl
        | template | importFile | block => cases hitem
      · rwa [Configuration.HoldsVariable, definitionsOf, ← heq]
    · have hholds : config.HoldsTemplate environment name t.sources.items :=
        Configuration.holdsTemplate_of_ofDocument hconfig
      refine (hrun.settled hpath hitems (fun item _ hitem => ?_) hdeclares).mono fun items' heq => ?_
      · cases item with
        | template => rfl
        | definition | importFile | block => cases hitem
      · rwa [Configuration.HoldsTemplate, templatesOf, ← heq]

/-- A file that declares a variable before its import and another one behind it, and the imported
file, which declares both. -/
def lateFiles : FileSystem where
  nodes := [
    (["a.hcl"], .file (some "x = \"own\"\nimport \"b.hcl\" \x7b\x7d\ny = \"own\"\n")),
    (["b.hcl"], .file (some "x = \"imported\"\ny = \"imported\"\n"))]

/-- The files lead one way only. -/
theorem imports_lateFiles : Imports lateFiles ["a.hcl"] ["b.hcl"] ∧
    ¬ReflTransGen (Imports lateFiles) ["b.hcl"] ["a.hcl"] := by
  have hviews : (fileItems lateFiles ["a.hcl"]).toOption.map (List.map Item.import?) =
        some [none, some "b.hcl", none] ∧
      (fileItems lateFiles ["b.hcl"]).toOption.map (List.map Item.import?) = some [none, none] ∧
      resolve lateFiles (joinPath (baseOf ["a.hcl"]) "b.hcl") = .ok ["b.hcl"] := by
    decide +kernel
  obtain ⟨ha, hb, hresolve⟩ := hviews
  refine ⟨?_, fun hchain => ?_⟩
  · cases hitems : fileItems lateFiles ["a.hcl"] with
    | error e =>
      rw [hitems] at ha
      cases ha
    | ok items =>
      rw [hitems] at ha
      have hmem : some "b.hcl" ∈ items.map Item.import? := by
        rw [Option.some.inj ha]
        simp
      obtain ⟨item, hitem, himport⟩ := List.mem_map.1 hmem
      exact ⟨items, hitems, item, hitem, "b.hcl", himport, hresolve⟩
  · -- no item of the second file is an import, so the chain cannot start
    rcases hchain.cases_head with heq | ⟨q, ⟨items, hitems, item, hitem, path, himport, -⟩, -⟩
    · exact absurd heq (by decide)
    · rw [hitems] at hb
      have hmem : some path ∈ items.map Item.import? := himport ▸ List.mem_map_of_mem hitem
      rw [Option.some.inj hb] at hmem
      simp at hmem

/-- The file is loaded with the one that it imports, which does not stand before it. -/
theorem Sources.loadFile_overrides_lateFiles :
    ∃ s p items t, Loading.exec (loadFile lateFiles "a.hcl") {} = (.ok (), s) ∧
      Runs lateFiles (.load (.file "a.hcl")) {} t (.ok ()) ∧ t.sources = s ∧
      resolve lateFiles "a.hcl" = .ok p ∧ fileItems lateFiles p = .ok items ∧
      (∀ early item late, items = early ++ item :: late →
        ∃ before after, CutAt lateFiles t p early item late before after) ∧
      ∀ q ∈ s.loaded, q ≠ p → (Precedes t.collected q p ↔
        fileItems lateFiles q = .ok [] ∨ ∃ item, items.head? = some item ∧
          Brings lateFiles p item q) := by
  have hok : (Loading.exec (loadFile lateFiles "a.hcl") {}).1 = .ok () := by decide +kernel
  generalize hexec : Loading.exec (loadFile lateFiles "a.hcl") {} = outcome at hok
  obtain ⟨r, s⟩ := outcome
  cases hok
  obtain ⟨p, items, t, hpath, hitems, hrun, hsources, -, hcut, hprecedes, -⟩ :=
    loadFile_overrides lateFiles "a.hcl" s hexec
  exact ⟨s, p, items, t, rfl, hrun, hsources, hpath, hitems, hcut, hprecedes⟩

/-- **An import may override the file that it stands in**: the variable that is declared in front
of it comes out as the imported file has it, and only the one behind it as the file's own. -/
theorem Sources.import_overrides_importer :
    ∃ s config, Loading.exec (loadFile lateFiles "a.hcl") {} = (.ok (), s) ∧
      Imports lateFiles ["a.hcl"] ["b.hcl"] ∧
      ¬ReflTransGen (Imports lateFiles) ["b.hcl"] ["a.hcl"] ∧
      s.document.items.map Item.textDefinition? =
        [some ("x", "own", some ⟨1, 1⟩), some ("x", "imported", some ⟨1, 1⟩),
          some ("y", "imported", some ⟨2, 1⟩), none, some ("y", "own", some ⟨3, 1⟩)] ∧
      Configuration.ofDocument {} s.document = .ok config ∧
      (config.definitions.get? "x").bind Value.text? = some "imported" ∧
      (config.definitions.get? "y").bind Value.text? = some "own" := by
  have hviews : (Loading.exec (loadFile lateFiles "a.hcl") {}).1 = .ok () ∧
      (Loading.exec (loadFile lateFiles "a.hcl") {}).2.document.items.map Item.textDefinition? =
        [some ("x", "own", some ⟨1, 1⟩), some ("x", "imported", some ⟨1, 1⟩),
          some ("y", "imported", some ⟨2, 1⟩), none, some ("y", "own", some ⟨3, 1⟩)] ∧
      (Configuration.ofDocument {}
          (Loading.exec (loadFile lateFiles "a.hcl") {}).2.document).toOption.map
        (fun config => ((config.definitions.get? "x").bind Value.text?,
          (config.definitions.get? "y").bind Value.text?)) =
        some (some "imported", some "own") := by
    decide +kernel
  generalize Loading.exec (loadFile lateFiles "a.hcl") {} = outcome at hviews ⊢
  obtain ⟨r, s⟩ := outcome
  obtain ⟨rfl, hitems, hconfig⟩ := hviews
  cases hdocument : Configuration.ofDocument {} s.document with
  | error e =>
    rw [hdocument] at hconfig
    cases hconfig
  | ok config =>
    rw [hdocument] at hconfig
    obtain ⟨hx, hy⟩ := Prod.mk.inj (Option.some.inj hconfig)
    exact ⟨s, config, rfl, imports_lateFiles.1, imports_lateFiles.2, hitems, hdocument, hx, hy⟩

end Balancer
