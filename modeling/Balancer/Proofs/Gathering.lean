import Mathlib
import Balancer.Proofs.Loading

/-!
# What loading gathers

Files import each other in any way, in circles too, and a file is loaded once, by whoever comes to
it first. This module says what has been gathered after any number of requests, whatever the graph
of imports looks like.

* **Which files.** `Imports` is the graph. The loaded files are those that can be reached from the
  files that were asked for, and none of them is loaded twice.
* **Which items.** The items of a loaded file are all there, each once and in their order. The
  exceptions are the files that were abandoned, and these are exactly the exceptions (`Sound`).
* **In which order.** If a file `p` imports a file `q` that was loaded later, then `q` was loaded
  while `p` was, and all that `q` brought with it stands before the import (`Sound.ordered`).

The invariant `Sound` is about a moment in the middle of a run, when some files are pending: they
have been opened, and not all their items have been collected. One lemma for each way in which
progress is made keeps it, and `Runs.sound` follows a run along its rules.
-/

namespace Balancer

open Relation Sources

/-! ### The graph of imports -/

/-- An item of a file leads to another file. -/
def Leads (fs : FileSystem) (p : Path) (item : Item) (q : Path) : Prop :=
  ∃ path, item.import? = some path ∧ resolve fs (joinPath (baseOf p) path) = .ok q

/-- **A file imports another.** -/
def Imports (fs : FileSystem) (p q : Path) : Prop :=
  ∃ items, fileItems fs p = .ok items ∧ ∃ item ∈ items, Leads fs p item q

/-- In a list of files, one stands before another. -/
def Before (files : List Path) (p q : Path) : Prop :=
  q ∈ files ∧ files.idxOf p < files.idxOf q

/-- A file was loaded for another one, which imports it and was loaded before it. -/
def LoadedFor (fs : FileSystem) (files : List Path) (p q : Path) : Prop :=
  Imports fs p q ∧ Before files p q

namespace Before

variable {files more : List Path} {p q r : Path}

theorem ne (h : Before files p q) : p ≠ q := by
  rintro rfl
  exact absurd h.2 (lt_irrefl _)

theorem trans (hpq : Before files p q) (hqr : Before files q r) : Before files p r :=
  ⟨hqr.1, hpq.2.trans hqr.2⟩

/-- Where two files stand does not change when others come after them. -/
theorem append_iff (hq : q ∈ files) : Before (files ++ more) p q ↔ Before files p q := by
  have hlt : files.idxOf q < files.length := List.idxOf_lt_length_of_mem hq
  by_cases hp : p ∈ files
  · simp [Before, List.idxOf_append_of_mem, hp, hq]
  · -- A file that is not there comes after all that are, on either side.
    have hle : files.length ≤ files.idxOf p := (List.idxOf_eq_length hp).ge
    simp only [Before, List.idxOf_append_of_mem hq, List.idxOf_append_of_notMem hp]
    constructor
    · rintro ⟨-, h⟩
      omega
    · rintro ⟨-, h⟩
      omega

/-- A file that comes later stands after the ones that are there. -/
theorem of_notMem (hp : p ∈ files) (hq : q ∉ files) (hmore : q ∈ more) :
    Before (files ++ more) p q := by
  have hlt : files.idxOf p < files.length := List.idxOf_lt_length_of_mem hp
  refine ⟨List.mem_append_right _ hmore, ?_⟩
  rw [List.idxOf_append_of_mem hp, List.idxOf_append_of_notMem hq]
  omega

/-- Nothing stands after the last file. -/
theorem not_last (hp : p ∉ files) : ¬Before (files ++ [p]) p q := by
  rintro ⟨hq, hlt⟩
  have hbound : (files ++ [p]).idxOf q < (files ++ [p]).length := List.idxOf_lt_length_of_mem hq
  rw [List.idxOf_append_of_notMem hp] at hlt
  simp only [List.idxOf_cons_self, List.length_append, List.length_singleton] at hlt hbound
  omega

end Before

/-- What was loaded for a file comes after it. -/
theorem Before.trans_loadedFor {fs : FileSystem} {files : List Path} {p q r : Path}
    (hpq : Before files p q) (hqr : ReflTransGen (LoadedFor fs files) q r) : Before files p r := by
  induction hqr with
  | refl => exact hpq
  | tail _ hstep ih => exact ih.trans hstep.2

/-- What was loaded for a file stays so when more is loaded. -/
theorem reflTransGen_loadedFor_mono {fs : FileSystem} {files files' : List Path} {p q : Path}
    (hfiles : files <+: files') (h : ReflTransGen (LoadedFor fs files) p q) :
    ReflTransGen (LoadedFor fs files') p q := by
  obtain ⟨more, rfl⟩ := hfiles
  refine ReflTransGen.mono (fun _ _ hstep => ?_) _ _ h
  exact ⟨hstep.1, (Before.append_iff hstep.2.1).2 hstep.2⟩

/-! ### The items of one file -/

/-- The items that were collected from a file. -/
def ownItems (collected : List Collected) (p : Path) : List Item :=
  (collected.filter (·.source = some p)).map Collected.item

section OwnItems

variable {collected more : List Collected} {p : Path} {item : Item}

theorem mem_ownItems :
    item ∈ ownItems collected p ↔ ∃ c ∈ collected, c.source = some p ∧ c.item = item := by
  simp [ownItems, and_assoc]

theorem ownItems_append :
    ownItems (collected ++ more) p = ownItems collected p ++ ownItems more p := by
  simp [ownItems]

theorem ownItems_eq_nil (h : ∀ c ∈ collected, c.source ≠ some p) : ownItems collected p = [] := by
  simpa [ownItems] using h

theorem ownItems_sublist : (ownItems collected p).Sublist (collected.map Collected.item) :=
  List.filter_sublist.map _

end OwnItems

/-- **A file is complete**: it can be read, and its items have been collected from it, each once and
in their order. -/
def Complete (fs : FileSystem) (t : Progress) (p : Path) : Prop :=
  fileItems fs p = .ok (ownItems t.collected p)

namespace Progress

variable {t : Progress} {p q : Path} {item : Item}

theorem ownItems_add_self :
    ownItems (t.add p item).collected p = ownItems t.collected p ++ [item] := by
  simp [add, ownItems]

theorem ownItems_add_of_ne (h : p ≠ q) :
    ownItems (t.add p item).collected q = ownItems t.collected q := by
  simp [add, ownItems, h]

end Progress

/-! ### What a run leaves alone -/

/-- The file whose items a job collects by itself, without opening it. -/
def Job.owner? : Job → Option Path
  | .items p _ => some p
  | _ => none

namespace Runs

variable {fs : FileSystem} {job : Job} {t t' : Progress} {r : Except LoadError Unit}

/-- A run collects items of the files that it opens, and of no other than the one it is about. -/
theorem ownItems_eq (h : Runs fs job t t' r) {q : Path} (hq : q ∈ t.loaded)
    (howner : job.owner? ≠ some q) : ownItems t'.collected q = ownItems t.collected q := by
  induction h with
  | unresolved | known | unread | done | unlisted | none => rfl
  | opened _ hp _ _ ih =>
    -- The file that is opened becomes the owner, and it was not loaded.
    refine ih (List.mem_append_left _ hq) ?_
    rintro ⟨⟩
    exact hp hq
  | plain _ _ ih =>
    rw [ih hq howner, Progress.ownItems_add_of_ne (mt (congrArg some) howner)]
  | followed _ hfile _ ihfile ih =>
    rw [ih (hfile.loaded_isPrefix.subset hq) howner,
      Progress.ownItems_add_of_ne (mt (congrArg some) howner), ihfile hq nofun]
  | stopped _ _ ih => exact ih hq nofun
  | listed _ _ ih => exact ih hq nofun
  | next hfirst _ ihfirst ih => rw [ih (hfirst.loaded_isPrefix.subset hq) nofun, ihfirst hq nofun]
  | halted _ ih => exact ih hq nofun

theorem complete (h : Runs fs job t t' r) {q : Path} (hq : q ∈ t.loaded)
    (howner : job.owner? ≠ some q) : Complete fs t' q ↔ Complete fs t q := by
  rw [Complete, Complete, h.ownItems_eq hq howner]

/-- A run that succeeds abandons no file. -/
theorem abandoned_eq (h : Runs fs job t t' r) (hr : r = .ok ()) : t'.abandoned = t.abandoned := by
  induction h with
  | known | done | none => rfl
  | unresolved | unread | stopped | unlisted | halted => cases hr
  | opened _ _ _ _ ih | plain _ _ ih | listed _ _ ih => exact ih hr
  | followed _ _ _ ihfile ih => exact (ih hr).trans (ihfile rfl)
  | next _ _ ihfirst ih => exact (ih hr).trans (ihfirst rfl)

/-- A file counts as loaded after it was asked for, even if it could not be read. -/
theorem mem_loaded {path : String} {p : Path} (h : Runs fs (.load (.file path)) t t' r)
    (hpath : resolve fs path = .ok p) : p ∈ t'.loaded := by
  cases h with
  | unresolved hpath' => cases hpath.symm.trans hpath'
  | known hpath' hp => exact Except.ok.inj (hpath'.symm.trans hpath) ▸ hp
  | unread hpath' =>
    obtain rfl := Except.ok.inj (hpath'.symm.trans hpath)
    exact List.mem_concat_self
  | opened hpath' _ _ h =>
    obtain rfl := Except.ok.inj (hpath'.symm.trans hpath)
    exact h.loaded_isPrefix.subset List.mem_concat_self

/-- A path that was asked for with success leads to a file that is loaded. -/
theorem exists_mem_loaded {path : String} (h : Runs fs (.load (.file path)) t t' (.ok ())) :
    ∃ p ∈ t'.loaded, resolve fs path = .ok p := by
  cases hpath : resolve fs path with
  | error e => cases (h.unique (.unresolved hpath)).2
  | ok p => exact ⟨p, h.mem_loaded hpath, rfl⟩

end Runs

/-! ### The invariant -/

/-- **What holds while files are loaded**, where the pending files have been opened and have items
left to collect. -/
structure Sound (fs : FileSystem) (pending : List Path) (t : Progress) : Prop where
  nodup : t.loaded.Nodup
  pending_nodup : pending.Nodup
  pending_mem : ∀ p ∈ pending, p ∈ t.loaded
  abandoned_mem : ∀ p ∈ t.abandoned, p ∈ t.loaded ∧ p ∉ pending
  source_mem : ∀ c ∈ t.collected, ∀ p, c.source = some p → p ∈ t.loaded
  /-- An import has been followed when it is collected. -/
  followed : ∀ c ∈ t.collected, ∀ p path, c.source = some p → c.item.import? = some path →
    ∃ q ∈ t.loaded, resolve fs (joinPath (baseOf p) path) = .ok q
  /-- Only the files that were abandoned are not complete. -/
  settled : ∀ p ∈ t.loaded, p ∉ pending → (Complete fs t p ↔ p ∉ t.abandoned)
  /-- Behind an import stands nothing that was loaded for it. -/
  ordered : ∀ before c after, t.collected = before ++ c :: after →
    ∀ p q, c.source = some p → Leads fs p c.item q → Before t.loaded p q →
      ∀ r, ReflTransGen (LoadedFor fs t.loaded) q r →
        Complete fs t r ∧ ∀ c' ∈ after, c'.source ≠ some r

/-- **A file is being loaded**, with some items left. What was opened after it is complete. -/
structure Working (fs : FileSystem) (p : Path) (rest : List Item) (t : Progress) : Prop where
  items_eq : fileItems fs p = .ok (ownItems t.collected p ++ rest)
  later : ∀ q, Before t.loaded p q → Complete fs t q

theorem Working.not_complete {fs : FileSystem} {p : Path} {item : Item} {rest : List Item}
    {t : Progress} (h : Working fs p (item :: rest) t) : ¬Complete fs t p := by
  intro hcomplete
  have hitems : ownItems t.collected p = ownItems t.collected p ++ item :: rest :=
    Except.ok.inj (hcomplete.symm.trans h.items_eq)
  simpa using congrArg List.length hitems

/-- An element of two lists in a row is in the second or in the first. -/
theorem cons_of_append_eq {α : Type} {xs ys before after : List α} {a : α}
    (h : xs ++ ys = before ++ a :: after) :
    (∃ first, ys = first ++ a :: after) ∨
      ∃ last, xs = before ++ a :: last ∧ after = last ++ ys := by
  rcases List.append_eq_append_iff.1 h with ⟨first, -, hfirst⟩ | ⟨last, hlast, hafter⟩
  · exact .inl ⟨first, hfirst⟩
  · cases last with
    | nil => exact .inl ⟨[], hafter.symm⟩
    | cons b last =>
      obtain ⟨rfl, rfl⟩ := List.cons.inj hafter
      exact .inr ⟨last, hlast, rfl⟩

namespace Sound

variable {fs : FileSystem} {pending : List Path} {t t' : Progress} {p q : Path}

theorem empty : Sound fs [] {} where
  nodup := List.nodup_nil
  pending_nodup := List.nodup_nil
  pending_mem := nofun
  abandoned_mem := nofun
  source_mem := nofun
  followed := nofun
  settled := nofun
  ordered before c after h := by simp at h

/-- What a collected import leads to is loaded. -/
theorem mem_of_leads (h : Sound fs pending t) {c : Collected} (hc : c ∈ t.collected)
    (hsource : c.source = some p) (hq : Leads fs p c.item q) : q ∈ t.loaded := by
  obtain ⟨path, hpath, hresolve⟩ := hq
  obtain ⟨q', hq', hresolve'⟩ := h.followed c hc p path hsource hpath
  obtain rfl : q = q' := Except.ok.inj (hresolve.symm.trans hresolve')
  exact hq'

/-- What a complete file imports is loaded. -/
theorem mem_of_imports (h : Sound fs pending t) (hp : Complete fs t p) (hpq : Imports fs p q) :
    q ∈ t.loaded := by
  obtain ⟨items, hitems, item, hitem, hq⟩ := hpq
  obtain rfl : items = ownItems t.collected p := Except.ok.inj (hitems.symm.trans hp)
  obtain ⟨c, hc, hsource, rfl⟩ := mem_ownItems.1 hitem
  exact h.mem_of_leads hc hsource hq

/-- Opening a file makes it pending. -/
theorem begin (h : Sound fs pending t) (hp : p ∉ t.loaded) :
    Sound fs (p :: pending) (t.begin p) where
  nodup := h.nodup.append (List.nodup_singleton p) (List.disjoint_singleton.2 hp)
  pending_nodup := List.nodup_cons.2 ⟨mt (h.pending_mem p) hp, h.pending_nodup⟩
  pending_mem := by
    rintro q (_ | ⟨_, hq⟩)
    · exact List.mem_concat_self
    · exact List.mem_append_left _ (h.pending_mem q hq)
  abandoned_mem := by
    intro q hq
    obtain ⟨hloaded, hpending⟩ := h.abandoned_mem q hq
    refine ⟨List.mem_append_left _ hloaded, ?_⟩
    rintro (_ | ⟨_, hq'⟩)
    · exact hp hloaded
    · exact hpending hq'
  source_mem c hc q hq := List.mem_append_left _ (h.source_mem c hc q hq)
  followed := by
    intro c hc q path hq hpath
    obtain ⟨q', hq', hresolve⟩ := h.followed c hc q path hq hpath
    exact ⟨q', List.mem_append_left _ hq', hresolve⟩
  settled := by
    intro q hq hpending
    rw [List.mem_cons, not_or] at hpending
    rcases List.mem_append.1 hq with hq | hq
    · exact h.settled q hq hpending.2
    · exact absurd (List.mem_singleton.1 hq) hpending.1
  ordered := by
    intro before c after hsplit p' q hsource hq hbefore r hr
    have hc : c ∈ t.collected := by
      change t.collected = _ at hsplit
      simp [hsplit]
    have hbefore : Before t.loaded p' q :=
      (Before.append_iff (h.mem_of_leads hc hsource hq)).1 hbefore
    -- A complete file imports nothing that is not loaded, so no chain reaches the new file.
    have hr : ReflTransGen (LoadedFor fs t.loaded) q r := by
      induction hr with
      | refl => exact .refl
      | tail _ hstep ih =>
        have hcomplete := (h.ordered before c after hsplit p' q hsource hq hbefore _ ih).1
        have hmem := h.mem_of_imports hcomplete hstep.1
        exact ih.tail ⟨hstep.1, (Before.append_iff hmem).1 hstep.2⟩
    exact h.ordered before c after hsplit p' q hsource hq hbefore r hr

/-- More is collected: items of no file, or the next item of a pending file, an import only after it
was followed. -/
theorem extend (h : Sound fs pending t) {more : List Collected}
    (hmore : ∀ c ∈ more, ∀ p, c.source = some p → p ∈ pending ∧
      (∃ rest, Working fs p (c.item :: rest) t) ∧
      ∀ path, c.item.import? = some path →
        ∃ q ∈ t.loaded, resolve fs (joinPath (baseOf p) path) = .ok q) :
    Sound fs pending { t with collected := t.collected ++ more } := by
  have hkeep : ∀ r, r ∉ pending ∨ Complete fs t r →
      ownItems more r = [] ∧ ∀ c ∈ more, c.source ≠ some r := by
    intro r hr
    have hne : ∀ c ∈ more, c.source ≠ some r := by
      intro c hc hsource
      obtain ⟨hpending, ⟨rest, hworking⟩, -⟩ := hmore c hc r hsource
      rcases hr with hr | hr
      · exact hr hpending
      · exact hworking.not_complete hr
    exact ⟨ownItems_eq_nil hne, hne⟩
  have hcomplete : ∀ r, r ∉ pending ∨ Complete fs t r →
      (Complete fs { t with collected := t.collected ++ more } r ↔ Complete fs t r) := by
    intro r hr
    rw [Complete, ownItems_append, (hkeep r hr).1, List.append_nil, Complete]
  exact {
    nodup := h.nodup
    pending_nodup := h.pending_nodup
    pending_mem := h.pending_mem
    abandoned_mem := h.abandoned_mem
    source_mem := by
      intro c hc q hq
      rcases List.mem_append.1 hc with hc | hc
      · exact h.source_mem c hc q hq
      · exact h.pending_mem q (hmore c hc q hq).1
    followed := by
      intro c hc q path hq hpath
      rcases List.mem_append.1 hc with hc | hc
      · exact h.followed c hc q path hq hpath
      · exact (hmore c hc q hq).2.2 path hpath
    settled := by
      intro q hq hpending
      rw [hcomplete q (.inl hpending)]
      exact h.settled q hq hpending
    ordered := by
      intro before c after hsplit p q hsource hq hbefore r hr
      rcases cons_of_append_eq hsplit with ⟨first, hfirst⟩ | ⟨last, hlast, rfl⟩
      · -- The import is new, and all that was loaded after its file is complete.
        have hc : c ∈ more := by simp [hfirst]
        obtain ⟨-, ⟨rest, hworking⟩, -⟩ := hmore c hc p hsource
        have hr := hworking.later r (hbefore.trans_loadedFor hr)
        refine ⟨(hcomplete r (.inr hr)).2 hr, fun c' hc' => (hkeep r (.inr hr)).2 c' ?_⟩
        simp [hfirst, hc']
      · obtain ⟨hr, hafter⟩ := h.ordered before c last hlast p q hsource hq hbefore r hr
        refine ⟨(hcomplete r (.inr hr)).2 hr, fun c' hc' => ?_⟩
        rcases List.mem_append.1 hc' with hc' | hc'
        · exact hafter c' hc'
        · exact (hkeep r (.inr hr)).2 c' hc' }

theorem add {item : Item} {rest : List Item} (h : Sound fs (p :: pending) t)
    (hworking : Working fs p (item :: rest) t)
    (hfollowed : ∀ path, item.import? = some path →
      ∃ q ∈ t.loaded, resolve fs (joinPath (baseOf p) path) = .ok q) :
    Sound fs (p :: pending) (t.add p item) := by
  refine h.extend fun c hc q hq => ?_
  obtain rfl := List.mem_singleton.1 hc
  obtain rfl := Option.some.inj hq
  exact ⟨List.mem_cons_self, ⟨rest, hworking⟩, hfollowed⟩

theorem insert (h : Sound fs pending t) (document : Document) :
    Sound fs pending (t.insert document) := by
  refine h.extend fun c hc q hq => ?_
  obtain ⟨item, -, rfl⟩ := List.mem_map.1 hc
  cases hq

/-- A file whose items have all been collected is no longer pending. -/
theorem finish (h : Sound fs (p :: pending) t) (hp : Complete fs t p) : Sound fs pending t where
  nodup := h.nodup
  pending_nodup := h.pending_nodup.of_cons
  pending_mem q hq := h.pending_mem q (List.mem_cons_of_mem p hq)
  abandoned_mem := by
    intro q hq
    exact ⟨(h.abandoned_mem q hq).1, mt (List.mem_cons_of_mem p) (h.abandoned_mem q hq).2⟩
  source_mem := h.source_mem
  followed := h.followed
  settled := by
    intro q hq hpending
    by_cases hqp : q = p
    · subst hqp
      exact ⟨fun _ habandoned => (h.abandoned_mem q habandoned).2 List.mem_cons_self, fun _ => hp⟩
    · exact h.settled q hq (by simp [hqp, hpending])
  ordered := h.ordered

/-- A file that is abandoned is no longer pending. -/
theorem abandon (h : Sound fs (p :: pending) t) (hp : ¬Complete fs t p) :
    Sound fs pending (t.abandon p) where
  nodup := h.nodup
  pending_nodup := h.pending_nodup.of_cons
  pending_mem q hq := h.pending_mem q (List.mem_cons_of_mem p hq)
  abandoned_mem := by
    intro q hq
    rcases List.mem_append.1 hq with hq | hq
    · exact ⟨(h.abandoned_mem q hq).1, mt (List.mem_cons_of_mem p) (h.abandoned_mem q hq).2⟩
    · obtain rfl := List.mem_singleton.1 hq
      exact ⟨h.pending_mem q List.mem_cons_self, (List.nodup_cons.1 h.pending_nodup).1⟩
  source_mem := h.source_mem
  followed := h.followed
  settled := by
    intro q hq hpending
    change Complete fs t q ↔ q ∉ t.abandoned ++ [p]
    by_cases hqp : q = p
    · subst hqp
      simp [hp]
    · rw [h.settled q hq (by simp [hqp, hpending])]
      simp [hqp]
  ordered := h.ordered

end Sound

namespace Working

variable {fs : FileSystem} {pending : List Path} {t t' : Progress} {p : Path} {item : Item}
  {rest : List Item}

theorem begin (h : Sound fs pending t) (hp : p ∉ t.loaded) (hitems : fileItems fs p = .ok rest) :
    Working fs p rest (t.begin p) where
  items_eq := by
    have hnone : ownItems t.collected p = [] :=
      ownItems_eq_nil fun c hc hsource => hp (h.source_mem c hc p hsource)
    rw [hitems]
    exact congrArg (fun own => Except.ok (own ++ rest)) hnone.symm
  later q hq := absurd hq (Before.not_last hp)

theorem add (h : Working fs p (item :: rest) t) : Working fs p rest (t.add p item) where
  items_eq := by
    rw [Progress.ownItems_add_self, List.append_assoc, h.items_eq]
    rfl
  later := by
    intro q hq
    have hcomplete := h.later q hq
    have hne : p ≠ q := fun hpq => h.not_complete (hpq ▸ hcomplete)
    rwa [Complete, Progress.ownItems_add_of_ne hne]

/-- A file is being loaded as before when an import of it has been followed. -/
theorem follow (hworking : Working fs p rest t) (h : Sound fs (p :: pending) t)
    (h' : Sound fs (p :: pending) t') {request : Request}
    (hrun : Runs fs (.load request) t t' (.ok ())) : Working fs p rest t' where
  items_eq := by
    rw [hrun.ownItems_eq (h.pending_mem p List.mem_cons_self) nofun, hworking.items_eq]
  later := by
    intro q hq
    obtain ⟨found, hfound⟩ := hrun.loaded_isPrefix
    by_cases hknown : q ∈ t.loaded
    · rw [← hfound, Before.append_iff hknown] at hq
      exact (hrun.complete hknown nofun).2 (hworking.later q hq)
    · -- A file that the import brought in is neither pending nor abandoned.
      refine (h'.settled q hq.1 (mt (h.pending_mem q) hknown)).2 ?_
      rw [hrun.abandoned_eq rfl]
      exact fun habandoned => hknown (h.abandoned_mem q habandoned).1

end Working

/-- What a job relies on, and a run of it keeps. -/
def Job.Ready (fs : FileSystem) (pending : List Path) (t : Progress) : Job → Prop
  | .items p rest => Sound fs (p :: pending) t ∧ Working fs p rest t
  | .load _ | .loads _ => Sound fs pending t

/-- **A run keeps the invariant**, whether it succeeds or not. -/
theorem Runs.sound {fs : FileSystem} {pending : List Path} {job : Job} {t t' : Progress}
    {r : Except LoadError Unit} (h : Runs fs job t t' r) (hready : job.Ready fs pending t) :
    Sound fs pending t' := by
  -- The pending files grow on the way down: below an import, the file that it stands in waits.
  induction h generalizing pending with
  | unresolved | known | unlisted | none => exact hready
  | unread _ hp hitems =>
    refine (Sound.begin hready hp).abandon ?_
    rw [Complete, hitems]
    exact nofun
  | opened _ hp hitems _ ih => exact ih ⟨Sound.begin hready hp, Working.begin hready hp hitems⟩
  | done =>
    obtain ⟨hsound, hworking⟩ := hready
    exact hsound.finish (by simpa [Complete] using hworking.items_eq)
  | plain hitem _ ih =>
    obtain ⟨hsound, hworking⟩ := hready
    exact ih ⟨hsound.add hworking (by simp [hitem]), hworking.add⟩
  | followed hitem hfile _ ihfile ih =>
    obtain ⟨hsound, hworking⟩ := hready
    have hsound₁ := ihfile hsound
    have hworking₁ := hworking.follow hsound hsound₁ hfile
    refine ih ⟨hsound₁.add hworking₁ fun path hpath => ?_, hworking₁.add⟩
    obtain rfl := Option.some.inj (hitem.symm.trans hpath)
    exact hfile.exists_mem_loaded
  | stopped _ hfile ih =>
    obtain ⟨hsound, hworking⟩ := hready
    have hmem := hsound.pending_mem _ List.mem_cons_self
    exact (ih hsound).abandon fun hp => hworking.not_complete ((hfile.complete hmem nofun).1 hp)
  | listed _ _ ih => exact ih hready
  | next _ _ ihfirst ih => exact ih (ihfirst hready)
  | halted _ ih => exact ih hready

/-! ### The files that are loaded -/

/-- **A request asks for a file**, by its path or by the directory it is in. -/
inductive Request.Asks (fs : FileSystem) : Request → Path → Prop
  | file {path p} (hpath : resolve fs path = .ok p) : Asks fs (.file path) p
  | directory {path names name p} (hnames : configurationFiles fs path = .ok names)
      (hname : name ∈ names) (hpath : resolve fs (joinPath path name) = .ok p) :
      Asks fs (.directory path) p

/-- The files that a job starts from. -/
def Job.Asks (fs : FileSystem) : Job → Path → Prop
  | .load request, q => request.Asks fs q
  | .items p _, q => p = q
  | .loads requests, q => ∃ request ∈ requests, request.Asks fs q

/-- The items that are left are the last ones of a file that has been opened. -/
def Job.Started (fs : FileSystem) (t : Progress) : Job → Prop
  | .items p rest => p ∈ t.loaded ∧ ∃ first, fileItems fs p = .ok (first ++ rest)
  | .load _ | .loads _ => True

theorem Job.Started.imports {fs : FileSystem} {t : Progress} {p q : Path} {item : Item}
    {rest : List Item} (h : (Job.items p (item :: rest)).Started fs t) (hq : Leads fs p item q) :
    Imports fs p q := by
  obtain ⟨-, first, hitems⟩ := h
  exact ⟨_, hitems, item, by simp, hq⟩

theorem Job.Started.tail {fs : FileSystem} {t t' : Progress} {p : Path} {item : Item}
    {rest : List Item} (h : (Job.items p (item :: rest)).Started fs t)
    (hloaded : t.loaded ⊆ t'.loaded) : (Job.items p rest).Started fs t' := by
  obtain ⟨hp, first, hitems⟩ := h
  exact ⟨hloaded hp, first ++ [item], by simpa using hitems⟩

namespace Runs

variable {fs : FileSystem} {job : Job} {t t' : Progress} {r : Except LoadError Unit}

/-- What is asked for with success is loaded. -/
theorem asked_mem (h : Runs fs job t t' r) (hr : r = .ok ()) (hstarted : job.Started fs t)
    {q : Path} (hq : job.Asks fs q) : q ∈ t'.loaded := by
  induction h with
  | unresolved | unread | stopped | unlisted | halted => cases hr
  | known hpath hp =>
    cases hq with
    | file hpath' => exact mem_loaded (.known hpath hp) hpath'
  | opened hpath hp hitems h =>
    cases hq with
    | file hpath' => exact mem_loaded (.opened hpath hp hitems h) hpath'
  | done => exact hq ▸ hstarted.1
  | plain _ _ ih => exact ih hr (hstarted.tail (fun _ hp => hp)) hq
  | followed _ hfile _ _ ih => exact ih hr (hstarted.tail hfile.loaded_isPrefix.subset) hq
  | listed hnames _ ih =>
    cases hq with
    | directory hnames' hname hpath =>
      obtain rfl := Except.ok.inj (hnames.symm.trans hnames')
      exact ih hr trivial ⟨_, List.mem_map_of_mem hname, .file hpath⟩
  | none => cases hq.choose_spec.1
  | next _ h ihfirst ih =>
    obtain ⟨request, hrequest, hq⟩ := hq
    rcases List.mem_cons.1 hrequest with rfl | hrequest
    · exact h.loaded_isPrefix.subset (ihfirst rfl trivial hq)
    · exact ih hr trivial ⟨request, hrequest, hq⟩

/-- What an import brings in was loaded for the file that it stands in. -/
theorem reached_import {path : String} {p q : Path} (h : Runs fs (.load (.file path)) t t' r)
    (hp : p ∈ t.loaded) (himports : ∀ p', resolve fs path = .ok p' → Imports fs p p')
    (hq : q ∈ t'.loaded) (hnew : q ∉ t.loaded)
    (hreached : ∃ p', (Job.load (.file path)).Asks fs p' ∧
      ReflTransGen (LoadedFor fs t'.loaded) p' q) :
    ReflTransGen (LoadedFor fs t'.loaded) p q := by
  obtain ⟨p', ⟨hpath⟩, hreached⟩ := hreached
  -- Had the file been loaded before, following the import would have brought in nothing.
  have hp' : p' ∉ t.loaded := by
    intro hp'
    obtain ⟨rfl, -⟩ := h.unique (.known hpath hp')
    exact hnew hq
  refine .head ⟨himports p' hpath, ?_⟩ hreached
  have hmem := h.mem_loaded hpath
  obtain ⟨found, hfound⟩ := h.loaded_isPrefix
  rw [← hfound] at hmem ⊢
  exact Before.of_notMem hp hp' ((List.mem_append.1 hmem).resolve_left hp')

/-- **What a run brings in was loaded for a file that it starts from.** -/
theorem reached (h : Runs fs job t t' r) (hstarted : job.Started fs t) {q : Path}
    (hq : q ∈ t'.loaded) (hnew : q ∉ t.loaded) :
    ∃ p, job.Asks fs p ∧ ReflTransGen (LoadedFor fs t'.loaded) p q := by
  induction h with
  | unresolved | known | done | unlisted | none => exact absurd hq hnew
  | unread hpath =>
    have hq := (List.mem_append.1 hq).resolve_left hnew
    obtain rfl := List.mem_singleton.1 hq
    exact ⟨_, .file hpath, .refl⟩
  | @opened _ p _ t _ _ hpath _ hitems _ ih =>
    by_cases hqp : q = p
    · exact ⟨p, .file hpath, hqp ▸ .refl⟩
    · have hnew' : q ∉ (t.begin p).loaded := by simp [Progress.begin, hnew, hqp]
      obtain ⟨_, rfl, hreached⟩ := ih ⟨List.mem_concat_self, [], hitems⟩ hq hnew'
      exact ⟨p, .file hpath, hreached⟩
  | plain _ _ ih => exact ih (hstarted.tail fun _ hp => hp) hq hnew
  | @followed p _ _ _ _ t₁ _ _ hitem hfile h ihfile ih =>
    -- It came in with this import, or with the items after it.
    by_cases hq₁ : q ∈ t₁.loaded
    · refine ⟨p, rfl, reflTransGen_loadedFor_mono h.loaded_isPrefix ?_⟩
      exact hfile.reached_import hstarted.1 (fun _ hpath => hstarted.imports ⟨_, hitem, hpath⟩)
        hq₁ hnew (ihfile trivial hq₁ hnew)
    · exact ih (hstarted.tail hfile.loaded_isPrefix.subset) hq hq₁
  | stopped hitem hfile ihfile =>
    exact ⟨_, rfl, hfile.reached_import hstarted.1
      (fun _ hpath => hstarted.imports ⟨_, hitem, hpath⟩) hq hnew (ihfile trivial hq hnew)⟩
  | listed hnames _ ih =>
    obtain ⟨p, ⟨request, hrequest, hp⟩, hreached⟩ := ih trivial hq hnew
    obtain ⟨name, hname, rfl⟩ := List.mem_map.1 hrequest
    obtain ⟨hpath⟩ := hp
    exact ⟨p, .directory hnames hname hpath, hreached⟩
  | @next request _ _ t₁ _ _ _ h ihfirst ih =>
    by_cases hq₁ : q ∈ t₁.loaded
    · obtain ⟨p, hp, hreached⟩ := ihfirst trivial hq₁ hnew
      exact ⟨p, ⟨request, List.mem_cons_self, hp⟩,
        reflTransGen_loadedFor_mono h.loaded_isPrefix hreached⟩
    · obtain ⟨p, ⟨request, hrequest, hp⟩, hreached⟩ := ih trivial hq hq₁
      exact ⟨p, ⟨request, List.mem_cons_of_mem _ hrequest, hp⟩, hreached⟩
  | @halted request _ _ _ _ _ ih =>
    obtain ⟨p, hp, hreached⟩ := ih trivial hq hnew
    exact ⟨p, ⟨request, List.mem_cons_self, hp⟩, hreached⟩

/-- A run collects items of files only. -/
theorem source_ne_none (h : Runs fs job t t' r) (ht : ∀ c ∈ t.collected, c.source ≠ Option.none) :
    ∀ c ∈ t'.collected, c.source ≠ Option.none := by
  have hadd : ∀ (t : Progress) p item, (∀ c ∈ t.collected, c.source ≠ Option.none) →
      ∀ c ∈ (t.add p item).collected, c.source ≠ Option.none := by
    intro t p item ht c hc
    rcases List.mem_append.1 hc with hc | hc
    · exact ht c hc
    · simp [List.mem_singleton.1 hc]
  induction h with
  | unresolved | known | unread | done | unlisted | none => exact ht
  | opened _ _ _ _ ih | stopped _ _ ih | listed _ _ ih | halted _ ih => exact ih ht
  | plain _ _ ih => exact ih (hadd _ _ _ ht)
  | followed _ _ _ ihfile ih => exact ih (hadd _ _ _ (ihfile ht))
  | next _ _ ihfirst ih => exact ih (ihfirst ht)

end Runs

/-! ### What a sequence of requests gathers -/

/-- A file can be reached from a file that was asked for. -/
def Reached (fs : FileSystem) (requests : List Request) (q : Path) : Prop :=
  ∃ p, (Job.loads requests).Asks fs p ∧ ReflTransGen (Imports fs) p q

/-- **Every file that is reached has been taken exactly once**, with the collected items told apart
by the files they stand in. -/
structure Gathered (fs : FileSystem) (requests : List Request) (s : Sources)
    (collected : List Collected) : Prop where
  nodup : s.loaded.Nodup
  mem_loaded_iff : ∀ q, q ∈ s.loaded ↔ Reached fs requests q
  count_eq : s.count = {q | Reached fs requests q}.ncard
  /-- The imports of a loaded file all lead to loaded files. -/
  closed : ∀ p ∈ s.loaded, ∃ items, fileItems fs p = .ok items ∧
    ∀ item ∈ items, ∀ path, item.import? = some path →
      ∃ q ∈ s.loaded, resolve fs (joinPath (baseOf p) path) = .ok q
  items_eq : s.items = collected.map Collected.item
  source_mem : ∀ c ∈ collected, ∃ p ∈ s.loaded, c.source = some p
  /-- The items of each loaded file, once and in their order. -/
  ownItems_eq : ∀ p ∈ s.loaded, fileItems fs p = .ok (ownItems collected p)
  /-- All items of a file that was loaded for an import stand before the import. -/
  ordered : ∀ before c after, collected = before ++ c :: after →
    ∀ p q, c.source = some p → Leads fs p c.item q → Before s.loaded p q →
      ∀ r, ReflTransGen (LoadedFor fs s.loaded) q r → fileItems fs r = .ok (ownItems before r)

theorem Sound.mem_of_reached {fs : FileSystem} {t : Progress} (h : Sound fs [] t)
    (habandoned : t.abandoned = []) {p q : Path} (hp : p ∈ t.loaded)
    (hq : ReflTransGen (Imports fs) p q) : q ∈ t.loaded := by
  induction hq with
  | refl => exact hp
  | tail _ hstep ih =>
    exact h.mem_of_imports ((h.settled _ ih (by simp)).2 (by simp [habandoned])) hstep

/-- **Loading terminates and takes every file exactly once**, for every graph of imports: each
request comes to an end, and after requests that all succeed, the files that are reached have been
gathered. -/
theorem Sources.load_gathers (fs : FileSystem) (requests : List Request) (s : Sources)
    (h : Loading.exec (requests.forM (Request.load fs)) {} = (.ok (), s)) :
    (∀ request t, Performs fs (request.load fs) (.load request) t) ∧
      ∃ collected, Gathered fs requests s collected := by
  refine ⟨performs_load, ?_⟩
  obtain ⟨t, hrun, rfl⟩ := (performs_loads requests {}).exec_iff.1 h
  have hsound : Sound fs [] t := hrun.sound Sound.empty
  have habandoned : t.abandoned = [] := hrun.abandoned_eq rfl
  have hcomplete : ∀ p ∈ t.loaded, Complete fs t p := by
    intro p hp
    exact (hsound.settled p hp (by simp)).2 (by simp [habandoned])
  have hmem : ∀ q, q ∈ t.loaded ↔ Reached fs requests q := by
    intro q
    constructor
    · intro hq
      obtain ⟨p, hp, hreached⟩ := hrun.reached trivial hq (by simp)
      exact ⟨p, hp, ReflTransGen.mono (fun _ _ hstep => hstep.1) _ _ hreached⟩
    · rintro ⟨p, hp, hreached⟩
      exact hsound.mem_of_reached habandoned (hrun.asked_mem rfl trivial hp) hreached
  refine ⟨t.collected, hsound.nodup, hmem, ?_, ?_, rfl, ?_, hcomplete, ?_⟩
  · have hset : {q | Reached fs requests q} = (t.loaded.toFinset : Set Path) := by
      ext q
      simp [hmem]
    rw [hset, Set.ncard_coe_finset, List.toFinset_card_of_nodup hsound.nodup]
    rfl
  · intro p hp
    refine ⟨_, hcomplete p hp, fun item hitem path hpath => ?_⟩
    obtain ⟨c, hc, hsource, rfl⟩ := mem_ownItems.1 hitem
    exact hsound.followed c hc p path hsource hpath
  · intro c hc
    obtain ⟨p, hp⟩ := Option.ne_none_iff_exists'.1 (hrun.source_ne_none nofun c hc)
    exact ⟨p, hsound.source_mem c hc p hp, hp⟩
  · intro before c after hsplit p q hsource hq hbefore r hr
    obtain ⟨hcomplete, hafter⟩ := hsound.ordered before c after hsplit p q hsource hq hbefore r hr
    have hne : p ≠ r := (hbefore.trans_loadedFor hr).ne
    have hnone : ownItems (c :: after) r = [] := by
      refine ownItems_eq_nil (List.forall_mem_cons.2 ⟨?_, hafter⟩)
      rw [hsource]
      exact mt Option.some.inj hne
    rw [hcomplete, hsplit, ownItems_append, hnone, List.append_nil]

/-- Three files in a circle, with two ways from the first to the last. -/
def circularFiles : FileSystem where
  nodes := [
    (["a.hcl"], .file (some "import \"b.hcl\" \x7b\x7d\nimport \"c.hcl\" \x7b\x7d\n")),
    (["b.hcl"], .file (some "import \"c.hcl\" \x7b\x7d\n")),
    (["c.hcl"], .file (some "import \"a.hcl\" \x7b\x7d\nx = 1\n"))]

/-- The first file, and then all of them. -/
def circularRequests : List Request := [.file "a.hcl", .directory "."]

/-- What is loaded then. -/
def circularSources : Sources :=
  (Loading.exec (circularRequests.forM (Request.load circularFiles)) {}).2

/-- The directory stands for the three files. -/
theorem forM_circularRequests :
    circularRequests.forM (Request.load circularFiles) = (do
      loadFile circularFiles "a.hcl"
      ["a.hcl", "b.hcl", "c.hcl"].forM fun name => loadFile circularFiles (joinPath "." name)) := by
  have hnames : configurationFiles circularFiles "." = .ok ["a.hcl", "b.hcl", "c.hcl"] :=
    configurationFiles_eq_ok_iff.2 ⟨["a.hcl", "b.hcl", "c.hcl"], by decide +kernel, by decide,
      by decide +kernel, .refl _⟩
  have hdirectory : loadDirectory circularFiles "." =
      ["a.hcl", "b.hcl", "c.hcl"].forM fun name => loadFile circularFiles (joinPath "." name) := by
    rw [loadDirectory, hnames]
    rfl
  simp [circularRequests, Request.load, hdirectory]

/-- Each of the three files is loaded once, and the items of the last one come first. -/
theorem Sources.load_gathers_circularFiles :
    Loading.exec (circularRequests.forM (Request.load circularFiles)) {} =
        (.ok (), circularSources) ∧
      circularSources.loaded = [["a.hcl"], ["b.hcl"], ["c.hcl"]] ∧
      circularSources.items.map Item.import? =
        [some "a.hcl", none, some "c.hcl", some "b.hcl", some "c.hcl"] ∧
      ∃ collected, Gathered circularFiles circularRequests circularSources collected := by
  have h : Loading.exec (circularRequests.forM (Request.load circularFiles)) {} =
      (.ok (), circularSources) := by
    have hok : (Loading.exec (circularRequests.forM (Request.load circularFiles)) {}).1 =
        .ok () := by
      rw [forM_circularRequests]
      decide +kernel
    rw [circularSources, ← hok]
  refine ⟨h, ?_, ?_, (load_gathers circularFiles circularRequests circularSources h).2⟩
  · rw [circularSources, forM_circularRequests]
    decide +kernel
  · rw [circularSources, forM_circularRequests]
    decide +kernel

end Balancer
