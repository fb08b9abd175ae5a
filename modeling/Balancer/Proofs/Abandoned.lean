import Mathlib
import Balancer.Proofs.Ends
import Balancer.Proofs.Gathering

/-!
# Loading after failures

An error stops a call and leaves what was collected before it. The files that were being loaded at
that moment stay behind half collected: they are **abandoned**. They still count as loaded, so they
are never read again, and a later call that asks for one of them succeeds and collects nothing
(`Skipped`).

This module says that nothing else is ever missing. Calls are made one after the other, whether
they succeed or fail, and documents are inserted in between (`Happens`). Whatever has happened, the
items of a loaded file are all there unless the file was abandoned (`Sources.loadFile_complete`).
A file is abandoned only if it cannot be loaded in the first place: it leads, by imports, to a file
that cannot be read or to a path that leads nowhere (`Loadable`). But the reverse does not hold, and
a file that cannot be loaded may be complete all the same, because what it imports was abandoned
before.
-/

namespace Balancer

open Relation Sources

/-! ### Calls -/

/-- **A call** on sources. -/
inductive Call where
  | load (request : Request)
  | insert (document : Document)

/-- What a call does. -/
def Call.run (fs : FileSystem) : Call → Loading Unit
  | load request => request.load fs
  | insert document => modify (·.insert document)

/-- The sources after calls that may fail. A call starts from what the one before has left. -/
def Sources.after (fs : FileSystem) (s : Sources) (calls : List Call) : Sources :=
  calls.foldl (fun s call => (Loading.exec (call.run fs) s).2) s

/-- **What happens** when calls are made one after the other. -/
inductive Happens (fs : FileSystem) : Progress → List Call → Progress → Prop
  | nil {t} : Happens fs t [] t
  | load {request calls t t₁ t' r} (hrun : Runs fs (.load request) t t₁ r)
      (h : Happens fs t₁ calls t') : Happens fs t (.load request :: calls) t'
  | insert {document calls t t'} (h : Happens fs (t.insert document) calls t') :
      Happens fs t (.insert document :: calls) t'

theorem exists_happens (fs : FileSystem) (calls : List Call) (t : Progress) :
    ∃ t', Happens fs t calls t' ∧ Sources.after fs t.sources calls = t'.sources := by
  induction calls generalizing t with
  | nil => exact ⟨t, .nil, rfl⟩
  | cons call calls ih =>
    rw [Sources.after, List.foldl_cons]
    cases call with
    | load request =>
      obtain ⟨t₁, r, hrun, hexec⟩ := performs_load request t
      obtain ⟨t', h, hafter⟩ := ih t₁
      refine ⟨t', .load hrun h, ?_⟩
      rw [Call.run, hexec]
      exact hafter
    | insert document =>
      obtain ⟨t', h, hafter⟩ := ih (t.insert document)
      refine ⟨t', .insert h, ?_⟩
      rw [Progress.sources_insert] at hafter
      exact hafter

theorem Sources.after_append (fs : FileSystem) (s : Sources) (calls later : List Call) :
    Sources.after fs s (calls ++ later) = Sources.after fs (Sources.after fs s calls) later :=
  List.foldl_append

/-- Calls keep the invariant. -/
theorem Happens.sound {fs : FileSystem} {calls : List Call} {t t' : Progress}
    (h : Happens fs t calls t') (ht : Sound fs [] t) : Sound fs [] t' := by
  induction h with
  | nil => exact ht
  | load hrun _ ih => exact ih (hrun.sound ht)
  | insert _ ih => exact ih (ht.insert _)

/-! ### Files that are skipped -/

/-- **A file is skipped**: it counts as loaded and its items are not all there, but a call that asks
for it succeeds and changes nothing. -/
structure Skipped (fs : FileSystem) (t : Progress) (p : Path) : Prop where
  counted : p ∈ t.sources.loaded
  incomplete : ¬Complete fs t p
  unread : ∀ path, resolve fs path = .ok p →
    Loading.exec (loadFile fs path) t.sources = (.ok (), t.sources)

/-- An abandoned file is skipped. -/
theorem Sound.skipped {fs : FileSystem} {t : Progress} (h : Sound fs [] t) {p : Path}
    (hp : p ∈ t.abandoned) : Skipped fs t p where
  counted := (h.abandoned_mem p hp).1
  incomplete hcomplete := (h.settled p (h.abandoned_mem p hp).1 (by simp)).1 hcomplete hp
  unread path hpath :=
    (performs_loadFile path t).exec_iff.2 ⟨t, .known hpath (h.abandoned_mem p hp).1, rfl⟩

/-- Files that were abandoned stay abandoned. -/
theorem Runs.abandoned_isPrefix {fs : FileSystem} {job : Job} {t t' : Progress}
    {r : Except LoadError Unit} (h : Runs fs job t t' r) : t.abandoned <+: t'.abandoned := by
  induction h with
  | unresolved | known | done | unlisted | none => exact List.prefix_rfl
  | unread => exact List.prefix_append _ _
  | opened _ _ _ _ ih | plain _ _ ih | listed _ _ ih | halted _ ih => exact ih
  | followed _ _ _ ihfile ih => exact ihfile.trans ih
  | stopped _ _ ihfile => exact ihfile.trans (List.prefix_append _ _)
  | next _ _ ihfirst ih => exact ihfirst.trans ih

theorem Happens.abandoned_isPrefix {fs : FileSystem} {calls : List Call} {t t' : Progress}
    (h : Happens fs t calls t') : t.abandoned <+: t'.abandoned := by
  induction h with
  | nil => exact List.prefix_rfl
  | load hrun _ ih => exact hrun.abandoned_isPrefix.trans ih
  | insert _ ih => exact ih

/-! ### Files that can be loaded -/

/-- **A file can be loaded**: whatever it leads to by imports can be read, and has no import that
leads nowhere. -/
def Loadable (fs : FileSystem) (p : Path) : Prop :=
  ∀ q, ReflTransGen (Imports fs) p q → ∃ items, fileItems fs q = .ok items ∧
    ∀ item ∈ items, ∀ path, item.import? = some path →
      ∃ r, resolve fs (joinPath (baseOf q) path) = .ok r

theorem Loadable.of_imports {fs : FileSystem} {p q : Path} (h : Loadable fs p)
    (hpq : Imports fs p q) : Loadable fs q :=
  fun r hr => h r (.head hpq hr)

/-- What a job that fails says about the file that it was about. -/
def Job.Fails (fs : FileSystem) : Job → Prop
  | .load (.file path) => ∀ p, resolve fs path = .ok p → ¬Loadable fs p
  | .items p _ => ¬Loadable fs p
  | .load (.directory _) | .loads _ => True

/-- A run that fails was about a file that cannot be loaded, and so was every file that it
abandons. -/
theorem Runs.not_loadable {fs : FileSystem} {job : Job} {t t' : Progress}
    {r : Except LoadError Unit} (h : Runs fs job t t' r) (hstarted : job.Started fs t)
    (ht : ∀ q ∈ t.abandoned, ¬Loadable fs q) :
    (∀ q ∈ t'.abandoned, ¬Loadable fs q) ∧ (r ≠ .ok () → job.Fails fs) := by
  have habandon : ∀ (t : Progress) p, (∀ q ∈ t.abandoned, ¬Loadable fs q) → ¬Loadable fs p →
      ∀ q ∈ (t.abandon p).abandoned, ¬Loadable fs q := by
    intro t p ht hp q hq
    rcases List.mem_append.1 hq with hq | hq
    · exact ht q hq
    · exact List.mem_singleton.1 hq ▸ hp
  induction h with
  | unresolved hpath => exact ⟨ht, fun _ p hp => by cases hpath.symm.trans hp⟩
  | known | done | none => exact ⟨ht, fun hr => absurd rfl hr⟩
  | unlisted => exact ⟨ht, fun _ => trivial⟩
  | @unread _ p _ _ hpath _ hitems =>
    have hp : ¬Loadable fs p := by
      intro hp
      obtain ⟨items, hitems', -⟩ := hp _ .refl
      cases hitems.symm.trans hitems'
    refine ⟨habandon _ _ ht hp, fun _ p' hpath' => ?_⟩
    obtain rfl := Except.ok.inj (hpath.symm.trans hpath')
    exact hp
  | opened hpath _ hitems _ ih =>
    obtain ⟨hall, hfails⟩ := ih ⟨List.mem_concat_self, [], hitems⟩ ht
    refine ⟨hall, fun hr p' hpath' => ?_⟩
    obtain rfl := Except.ok.inj (hpath.symm.trans hpath')
    exact hfails hr
  | plain _ _ ih => exact ih (hstarted.tail fun _ hp => hp) ht
  | followed _ hfile _ ihfile ih =>
    exact ih (hstarted.tail hfile.loaded_isPrefix.subset) (ihfile trivial ht).1
  | @stopped p _ _ _ _ _ _ hitem _ ih =>
    obtain ⟨hall, hfails⟩ := ih trivial ht
    have ⟨_, first, hitems⟩ := hstarted
    -- Could the file be loaded, the import would lead to a file that can be loaded as well.
    have hp : ¬Loadable fs p := by
      intro hp
      obtain ⟨items, hitems', hresolves⟩ := hp _ .refl
      obtain rfl := Except.ok.inj (hitems.symm.trans hitems')
      obtain ⟨q, hq⟩ := hresolves _ (by simp) _ hitem
      exact hfails nofun q hq (hp.of_imports (hstarted.imports ⟨_, hitem, hq⟩))
    exact ⟨habandon _ _ hall hp, fun _ => hp⟩
  | listed _ _ ih => exact ⟨(ih trivial ht).1, fun _ => trivial⟩
  | next _ _ ihfirst ih => exact ⟨(ih trivial (ihfirst trivial ht).1).1, fun _ => trivial⟩
  | halted _ ih => exact ⟨(ih trivial ht).1, fun _ => trivial⟩

theorem Happens.not_loadable {fs : FileSystem} {calls : List Call} {t t' : Progress}
    (h : Happens fs t calls t') (ht : ∀ q ∈ t.abandoned, ¬Loadable fs q) :
    ∀ q ∈ t'.abandoned, ¬Loadable fs q := by
  induction h with
  | nil => exact ht
  | load hrun _ ih => exact ih (hrun.not_loadable trivial ht).1
  | insert _ ih => exact ih ht

/-! ### What a successful call has loaded -/

/-- **A call that succeeds has loaded the file, unless the file was abandoned before.** After any
calls, a file that is asked for with success counts as loaded, and the items of every file that
counts as loaded and was not abandoned are in the document, in their order. An abandoned file cannot
be loaded, and it is skipped from then on, whatever is called later: it counts as loaded, its items
are not all there, and asking for it succeeds and changes nothing. -/
theorem Sources.loadFile_complete (fs : FileSystem) (calls : List Call) :
    ∃ t, Happens fs {} calls t ∧ Sources.after fs {} calls = t.sources ∧
      (∀ q ∈ t.abandoned, Skipped fs t q ∧ ¬Loadable fs q ∧
        ∀ later, ∃ t', Happens fs t later t' ∧
          Sources.after fs {} (calls ++ later) = t'.sources ∧ Skipped fs t' q) ∧
      ∀ path s, Loading.exec (loadFile fs path) (Sources.after fs {} calls) = (.ok (), s) →
        ∃ p ∈ s.loaded, resolve fs path = .ok p ∧
          (p ∈ t.abandoned → s = Sources.after fs {} calls) ∧
          ∀ q ∈ s.loaded, q ∉ t.abandoned →
            ∃ items, fileItems fs q = .ok items ∧ items.Sublist s.document.items := by
  obtain ⟨t, hhappens, hafter⟩ := exists_happens fs calls {}
  have hafter : Sources.after fs {} calls = t.sources := hafter
  have hsound : Sound fs [] t := hhappens.sound Sound.empty
  refine ⟨t, hhappens, hafter, fun q hq => ⟨hsound.skipped hq, ?_, fun later => ?_⟩,
    fun path s hexec => ?_⟩
  · exact hhappens.not_loadable nofun q hq
  · obtain ⟨t', hlater, hafter'⟩ := exists_happens fs later t
    refine ⟨t', hlater, ?_, (hlater.sound hsound).skipped (hlater.abandoned_isPrefix.subset hq)⟩
    rw [Sources.after_append, hafter, hafter']
  · rw [hafter] at hexec ⊢
    obtain ⟨t', hrun, rfl⟩ := (performs_loadFile path t).exec_iff.1 hexec
    have hsound' : Sound fs [] t' := hrun.sound hsound
    obtain ⟨p, hp, hpath⟩ := hrun.exists_mem_loaded
    refine ⟨p, hp, hpath, fun habandoned => ?_, fun q hq hkept => ?_⟩
    · have hskip := (hsound.skipped habandoned).unread path hpath
      exact (Prod.mk.inj (hexec.symm.trans hskip)).2
    · rw [← hrun.abandoned_eq rfl] at hkept
      exact ⟨_, (hsound'.settled q hq (by simp)).2 hkept, ownItems_sublist⟩

/-- A file with an import that leads nowhere, and a file that imports it. -/
def brokenFiles : FileSystem where
  nodes := [
    (["a.hcl"], .file (some "import \"missing.hcl\" \x7b\x7d\nx = 1\n")),
    (["b.hcl"], .file (some "import \"a.hcl\" \x7b\x7d\ny = 2\n"))]

/-- The sources after the file with the broken import has been asked for. -/
def brokenSources : Sources := Sources.after brokenFiles {} [.load (.file "a.hcl")]

/-- The file that imports the abandoned one is loaded, with both its items. The abandoned one is
still skipped. -/
theorem Sources.loadFile_complete_brokenFiles :
    ∃ s, Loading.exec (loadFile brokenFiles "b.hcl") brokenSources = (.ok (), s) ∧
      s.loaded = [["a.hcl"], ["b.hcl"]] ∧ s.items.map Item.import? = [some "a.hcl", none] ∧
      Loading.exec (loadFile brokenFiles "a.hcl") s = (.ok (), s) ∧
      ∃ t, Happens brokenFiles {} [.load (.file "a.hcl")] t ∧ ["a.hcl"] ∈ t.abandoned ∧
        ∀ q ∈ s.loaded, q ∉ t.abandoned →
          ∃ items, fileItems brokenFiles q = .ok items ∧ items.Sublist s.document.items := by
  have hends : (Loading.exec (loadFile brokenFiles "b.hcl") brokenSources).1 = .ok () ∧
      (Loading.exec (loadFile brokenFiles "b.hcl") brokenSources).2.loaded =
        [["a.hcl"], ["b.hcl"]] ∧
      (Loading.exec (loadFile brokenFiles "b.hcl") brokenSources).2.items.map Item.import? =
        [some "a.hcl", none] := by
    decide +kernel
  obtain ⟨t, hhappens, -, hskipped, hload⟩ :=
    loadFile_complete brokenFiles [.load (.file "a.hcl")]
  have hlater : Sources.after brokenFiles {} ([.load (.file "a.hcl")] ++ [.load (.file "b.hcl")]) =
      (Loading.exec (loadFile brokenFiles "b.hcl") brokenSources).2 := rfl
  generalize hexec : Loading.exec (loadFile brokenFiles "b.hcl") brokenSources = outcome
    at hends hlater
  obtain ⟨r, s⟩ := outcome
  obtain ⟨rfl, hloaded, himports⟩ := hends
  obtain ⟨p, -, -, -, hitems⟩ := hload "b.hcl" s hexec
  -- the items of the first file are not in the document, which only holds those of the second one
  have habandoned : ["a.hcl"] ∈ t.abandoned := by
    by_contra hkept
    obtain ⟨items, hfile, hsublist⟩ := hitems ["a.hcl"] (hloaded ▸ List.mem_cons_self) hkept
    have hown : List.map Item.import? <$> fileItems brokenFiles ["a.hcl"] =
        .ok [some "missing.hcl", none] := by decide +kernel
    have hmap := hsublist.map Item.import?
    rw [hfile] at hown
    rw [Except.ok.inj hown, show s.document.items.map Item.import? = _ from himports] at hmap
    exact absurd hmap (by decide)
  obtain ⟨-, -, hstays⟩ := hskipped _ habandoned
  obtain ⟨t', -, hafter, hskipped'⟩ := hstays [.load (.file "b.hcl")]
  have hagain := hskipped'.unread "a.hcl" (by decide +kernel)
  rw [← hafter, hlater] at hagain
  exact ⟨s, rfl, hloaded, himports, hagain, t, hhappens, habandoned, hitems⟩

/-- **A call may succeed without the file**: the first call fails, the second one succeeds and
counts the file, and neither of its two items is in the document. -/
theorem Sources.loadFile_skips_abandoned :
    ∃ s items, Loading.exec (loadFile brokenFiles "a.hcl") brokenSources = (.ok (), s) ∧
      resolve brokenFiles "a.hcl" = .ok ["a.hcl"] ∧ fileItems brokenFiles ["a.hcl"] = .ok items ∧
      items.length = 2 ∧ s.count = 1 ∧ s.document.items = [] := by
  have hends : (Loading.exec (loadFile brokenFiles "a.hcl") brokenSources).1 = .ok () ∧
      (Loading.exec (loadFile brokenFiles "a.hcl") brokenSources).2.count = 1 ∧
      (Loading.exec (loadFile brokenFiles "a.hcl") brokenSources).2.document.items.length = 0 := by
    decide +kernel
  have hitems : List.length <$> fileItems brokenFiles ["a.hcl"] = .ok 2 := by decide +kernel
  obtain ⟨items, hitems, hlength⟩ := map_eq_ok.1 hitems
  generalize Loading.exec (loadFile brokenFiles "a.hcl") brokenSources = outcome at hends ⊢
  obtain ⟨r, s⟩ := outcome
  obtain ⟨rfl, hcount, hnone⟩ := hends
  exact ⟨s, items, rfl, by decide +kernel, hitems, hlength, hcount,
    List.eq_nil_of_length_eq_zero hnone⟩

end Balancer
