import Mathlib
import Balancer.Sources

/-!
# How files are loaded

Loading follows imports, and the imports of a file may lead back to it. `Sources.loadWithin` stays
finite because it is handed a bound; what it is meant to do has none. `Runs` says the latter, as
rules: it relates a job and what was loaded before it to what is loaded after it and to how it
ends. A derivation is a finite tree, so a job that has one is a job that comes to an end.

Beside the sources, a run keeps what the sources forget (`Progress`): which file an item stands in,
and which files were **abandoned**, that is, were being loaded when an error stopped the call.

The main statement is `Sources.performs_load`: a request has a run from whatever was loaded before,
and the action ends and leaves the sources as this run does. The bound is never felt, since a file
that is opened was not loaded before, so that it goes down with the files that are left. There is no
other run (`Runs.unique`). Which files a directory stands for, and in which order, is
`Sources.configurationFiles_eq_ok_iff`.
-/

namespace Balancer

/-! ### Actions -/

namespace Loading

variable {α β : Type} {x : Loading α} {f : α → Loading β} {s s' : Sources}

/-- How an action ends, and the sources that it leaves. -/
def exec (x : Loading α) (s : Sources) : Except LoadError α × Sources := x.run s

@[simp]
theorem exec_pure (a : α) (s : Sources) : exec (pure a) s = (.ok a, s) := rfl

@[simp]
theorem exec_get (s : Sources) : exec get s = (.ok s, s) := rfl

@[simp]
theorem exec_modify (g : Sources → Sources) (s : Sources) : exec (modify g) s = (.ok (), g s) := rfl

@[simp]
theorem exec_lift (x : Except LoadError α) (s : Sources) : exec (liftM x) s = (x, s) := by
  cases x <;> rfl

theorem exec_bind (x : Loading α) (f : α → Loading β) (s : Sources) :
    exec (x >>= f) s = ExceptT.bindCont f (exec x s).1 (exec x s).2 := rfl

theorem exec_bind_ok {a : α} (h : exec x s = (.ok a, s')) : exec (x >>= f) s = exec (f a) s' := by
  rw [exec_bind, h]
  rfl

theorem exec_bind_error {e : LoadError} (h : exec x s = (.error e, s')) :
    exec (x >>= f) s = (.error e, s') := by
  rw [exec_bind, h]
  rfl

end Loading

/-! ### Jobs -/

/-- The path of the file that an item imports. -/
def Item.import? : Item → Option String
  | .importFile path _ => some path
  | _ => none

/-- **A collected item**, with the file it stands in. An item that was inserted stands in none. -/
structure Collected where
  source : Option Path
  item : Item

/-- **How far loading has come.** -/
structure Progress where
  loaded : List Path := []
  collected : List Collected := []
  /-- The files that were being loaded when an error stopped a call. -/
  abandoned : List Path := []

namespace Progress

/-- What is left of the progress in the sources. -/
def sources (t : Progress) : Sources := ⟨t.loaded, t.collected.map Collected.item⟩

/-- One more file counts as loaded. -/
def begin (t : Progress) (p : Path) : Progress := { t with loaded := t.loaded ++ [p] }

/-- One more item of a file is collected. -/
def add (t : Progress) (p : Path) (item : Item) : Progress :=
  { t with collected := t.collected ++ [⟨some p, item⟩] }

/-- An error stops the loading of a file. -/
def abandon (t : Progress) (p : Path) : Progress := { t with abandoned := t.abandoned ++ [p] }

/-- The items of a document are collected. -/
def insert (t : Progress) (document : Document) : Progress :=
  { t with collected := t.collected ++ document.items.map (Collected.mk none) }

theorem sources_add (t : Progress) (p : Path) (item : Item) :
    (t.add p item).sources = t.sources.addItem item := by
  simp [sources, add, Sources.addItem]

theorem sources_insert (t : Progress) (document : Document) :
    (t.insert document).sources = t.sources.insert document := by
  simp [sources, insert, Sources.insert, Function.comp_def]

end Progress

/-- **What sources are asked to load.** -/
inductive Request where
  | file (path : String)
  | directory (path : String)

/-- Loads what is asked for. -/
def Request.load (fs : FileSystem) : Request → Loading Unit
  | file path => Sources.loadFile fs path
  | directory path => Sources.loadDirectory fs path

/-- **A job** that comes up while files are loaded. -/
inductive Job where
  /-- Load what one request asks for. -/
  | load (request : Request)
  /-- Collect the items of a file that are left. -/
  | items (p : Path) (rest : List Item)
  /-- Load what the requests ask for, one after the other. -/
  | loads (requests : List Request)

open Sources in
/-- **A job runs** from one progress to another, and ends in success or in an error. -/
inductive Runs (fs : FileSystem) : Job → Progress → Progress → Except LoadError Unit → Prop
  /-- A path that leads nowhere. -/
  | unresolved {path e t} (hpath : resolve fs path = .error e) :
      Runs fs (.load (.file path)) t t (.error e)
  /-- A file that is loaded is not loaded again. -/
  | known {path p t} (hpath : resolve fs path = .ok p) (hp : p ∈ t.loaded) :
      Runs fs (.load (.file path)) t t (.ok ())
  /-- A file that cannot be read still counts as loaded. -/
  | unread {path p e t} (hpath : resolve fs path = .ok p) (hp : p ∉ t.loaded)
      (hitems : fileItems fs p = .error e) :
      Runs fs (.load (.file path)) t ((t.begin p).abandon p) (.error e)
  | opened {path p items t t' r} (hpath : resolve fs path = .ok p) (hp : p ∉ t.loaded)
      (hitems : fileItems fs p = .ok items) (h : Runs fs (.items p items) (t.begin p) t' r) :
      Runs fs (.load (.file path)) t t' r
  | done {p t} : Runs fs (.items p []) t t (.ok ())
  | plain {p item rest t t' r} (hitem : item.import? = none)
      (h : Runs fs (.items p rest) (t.add p item) t' r) : Runs fs (.items p (item :: rest)) t t' r
  /-- An import is followed before it is collected. -/
  | followed {p item path rest t t₁ t' r} (hitem : item.import? = some path)
      (hfile : Runs fs (.load (.file (joinPath (baseOf p) path))) t t₁ (.ok ()))
      (h : Runs fs (.items p rest) (t₁.add p item) t' r) : Runs fs (.items p (item :: rest)) t t' r
  /-- An import that fails stops the file that it stands in. -/
  | stopped {p item path rest t t₁ e} (hitem : item.import? = some path)
      (hfile : Runs fs (.load (.file (joinPath (baseOf p) path))) t t₁ (.error e)) :
      Runs fs (.items p (item :: rest)) t (t₁.abandon p) (.error e)
  /-- A directory without configuration files, or none at all. -/
  | unlisted {path e t} (hnames : configurationFiles fs path = .error e) :
      Runs fs (.load (.directory path)) t t (.error e)
  | listed {path names t t' r} (hnames : configurationFiles fs path = .ok names)
      (h : Runs fs (.loads (names.map fun name => .file (joinPath path name))) t t' r) :
      Runs fs (.load (.directory path)) t t' r
  | none {t} : Runs fs (.loads []) t t (.ok ())
  | next {request requests t t₁ t' r} (hfirst : Runs fs (.load request) t t₁ (.ok ()))
      (h : Runs fs (.loads requests) t₁ t' r) : Runs fs (.loads (request :: requests)) t t' r
  | halted {request requests t t' e} (hfirst : Runs fs (.load request) t t' (.error e)) :
      Runs fs (.loads (request :: requests)) t t' (.error e)

namespace Runs

variable {fs : FileSystem} {job : Job} {t t' : Progress} {r : Except LoadError Unit}

/-- There is one way that a job runs. -/
theorem unique (h : Runs fs job t t' r) {t'' : Progress} {r' : Except LoadError Unit}
    (h' : Runs fs job t t'' r') : t' = t'' ∧ r = r' := by
  -- The other run starts with the same rule, since any other rule for the job has a condition
  -- against it; the jobs inside run in one way by induction.
  induction h generalizing t'' r' with
  | unresolved hpath =>
    cases h' with
    | unresolved hpath' =>
      cases hpath.symm.trans hpath'
      exact ⟨rfl, rfl⟩
    | known hpath' | unread hpath' | opened hpath' => cases hpath.symm.trans hpath'
  | known hpath hp =>
    cases h' with
    | unresolved hpath' => cases hpath.symm.trans hpath'
    | known => exact ⟨rfl, rfl⟩
    | unread hpath' hp' | opened hpath' hp' =>
      cases hpath.symm.trans hpath'
      exact absurd hp hp'
  | unread hpath hp hitems =>
    cases h' with
    | unresolved hpath' => cases hpath.symm.trans hpath'
    | known hpath' hp' =>
      cases hpath.symm.trans hpath'
      exact absurd hp' hp
    | unread hpath' _ hitems' =>
      cases hpath.symm.trans hpath'
      cases hitems.symm.trans hitems'
      exact ⟨rfl, rfl⟩
    | opened hpath' _ hitems' =>
      cases hpath.symm.trans hpath'
      cases hitems.symm.trans hitems'
  | opened hpath hp hitems _ ih =>
    cases h' with
    | unresolved hpath' => cases hpath.symm.trans hpath'
    | known hpath' hp' =>
      cases hpath.symm.trans hpath'
      exact absurd hp' hp
    | unread hpath' _ hitems' =>
      cases hpath.symm.trans hpath'
      cases hitems.symm.trans hitems'
    | opened hpath' _ hitems' h' =>
      cases hpath.symm.trans hpath'
      cases hitems.symm.trans hitems'
      exact ih h'
  | done =>
    cases h'
    exact ⟨rfl, rfl⟩
  | plain hitem _ ih =>
    cases h' with
    | plain _ h' => exact ih h'
    | followed hitem' | stopped hitem' => cases hitem.symm.trans hitem'
  | followed hitem _ _ ihfile ih =>
    cases h' with
    | plain hitem' => cases hitem.symm.trans hitem'
    | followed hitem' hfile' h' =>
      cases hitem.symm.trans hitem'
      obtain ⟨rfl, -⟩ := ihfile hfile'
      exact ih h'
    | stopped hitem' hfile' =>
      cases hitem.symm.trans hitem'
      exact nomatch (ihfile hfile').2
  | stopped hitem _ ihfile =>
    cases h' with
    | plain hitem' => cases hitem.symm.trans hitem'
    | followed hitem' hfile' =>
      cases hitem.symm.trans hitem'
      exact nomatch (ihfile hfile').2
    | stopped hitem' hfile' =>
      cases hitem.symm.trans hitem'
      obtain ⟨rfl, herror⟩ := ihfile hfile'
      exact ⟨rfl, herror⟩
  | unlisted hnames =>
    cases h' with
    | unlisted hnames' =>
      cases hnames.symm.trans hnames'
      exact ⟨rfl, rfl⟩
    | listed hnames' => cases hnames.symm.trans hnames'
  | listed hnames _ ih =>
    cases h' with
    | unlisted hnames' => cases hnames.symm.trans hnames'
    | listed hnames' h' =>
      cases hnames.symm.trans hnames'
      exact ih h'
  | none =>
    cases h'
    exact ⟨rfl, rfl⟩
  | next _ _ ihfirst ih =>
    cases h' with
    | next hfirst' h' =>
      obtain ⟨rfl, -⟩ := ihfirst hfirst'
      exact ih h'
    | halted hfirst' => exact nomatch (ihfirst hfirst').2
  | halted _ ihfirst =>
    cases h' with
    | next hfirst' => exact nomatch (ihfirst hfirst').2
    | halted hfirst' => exact ihfirst hfirst'

/-- Files that are loaded stay loaded. -/
theorem loaded_isPrefix (h : Runs fs job t t' r) : t.loaded <+: t'.loaded := by
  induction h with
  | unresolved | known | done | unlisted | none => exact List.prefix_rfl
  | unread => exact List.prefix_append _ _
  | opened _ _ _ _ ih => exact (List.prefix_append _ _).trans ih
  | plain _ _ ih | stopped _ _ ih | listed _ _ ih | halted _ ih => exact ih
  | followed _ _ _ ihfile ih => exact ihfile.trans ih
  | next _ _ ihfirst ih => exact ihfirst.trans ih

end Runs

/-! ### The files of a directory -/

namespace Sources

open Text

variable {fs : FileSystem} {directory : String}

/-- **The configuration files of a directory** are the names in it that end in `.hcl`, of which
there is at least one, in order. -/
theorem configurationFiles_eq_ok_iff {names : List String} :
    configurationFiles fs directory = .ok names ↔
      ∃ listed, fs.list directory = .ok listed ∧ names ≠ [] ∧ names.Pairwise (· ≤ ·) ∧
        names.Perm (listed.filter (endsWith · ".hcl")) := by
  rw [configurationFiles]
  cases fs.list directory with
  | error fault => simp
  | ok listed =>
    simp only [Except.ok.injEq, exists_eq_left']
    cases listed.filter (endsWith · ".hcl") with
    | nil =>
      simp only [reduceCtorEq, List.perm_nil, false_iff]
      exact fun ⟨hne, _, hnil⟩ => hne hnil
    | cons first rest =>
      have hsorted : (first :: rest).mergeSort.Pairwise (· ≤ ·) := List.pairwise_mergeSort' _ _
      have hperm := List.mergeSort_perm (first :: rest) fun a b => decide (a ≤ b)
      constructor
      · rintro ⟨rfl⟩
        exact ⟨List.ne_nil_of_length_pos (hperm.length_eq ▸ Nat.succ_pos _), hsorted, hperm⟩
      · rintro ⟨-, hnames, hperm'⟩
        exact congrArg Except.ok ((hperm.trans hperm'.symm).eq_of_pairwise' hsorted hnames)

/-- **A directory that cannot be listed, or has no configuration files.** -/
theorem configurationFiles_eq_error_iff {e : LoadError} :
    configurationFiles fs directory = .error e ↔
      (∃ fault, fs.list directory = .error fault ∧ e = .unreadable directory fault) ∨
        ∃ listed, fs.list directory = .ok listed ∧
          (∀ name ∈ listed, ¬endsWith name ".hcl") ∧ e = .noFiles directory := by
  rw [configurationFiles]
  cases fs.list directory with
  | error fault =>
    constructor
    · rintro ⟨rfl⟩
      exact .inl ⟨fault, rfl, rfl⟩
    · rintro (⟨_, ⟨rfl⟩, rfl⟩ | ⟨_, h, -⟩)
      · rfl
      · cases h
  | ok listed =>
    dsimp only
    cases hfound : listed.filter (endsWith · ".hcl") with
    | nil =>
      constructor
      · rintro ⟨rfl⟩
        exact .inr ⟨listed, rfl, List.filter_eq_nil_iff.1 hfound, rfl⟩
      · rintro (⟨_, h, -⟩ | ⟨_, -, -, rfl⟩)
        · cases h
        · rfl
    | cons first rest =>
      constructor
      · exact nofun
      · rintro (⟨_, h, -⟩ | ⟨_, ⟨rfl⟩, hnone, -⟩)
        · cases h
        · rw [List.filter_eq_nil_iff.2 hnone] at hfound
          cases hfound

end Sources

/-! ### What the actions do -/

namespace Sources

open Loading

variable {fs : FileSystem} {path : String} {p : Path} {s s' : Sources} {e : LoadError}

theorem exec_openFile?_unresolved (hpath : resolve fs path = .error e) :
    exec (openFile? fs path) s = (.error e, s) := by
  rw [openFile?, exec_bind_error (by rw [exec_lift, hpath])]

theorem exec_openFile?_known (hpath : resolve fs path = .ok p) (hp : p ∈ s.loaded) :
    exec (openFile? fs path) s = (.ok none, s) := by
  rw [openFile?, exec_bind_ok (by rw [exec_lift, hpath]), exec_bind_ok (exec_get s),
    if_pos (List.contains_iff_mem.2 hp), exec_pure]

theorem exec_openFile?_new (hpath : resolve fs path = .ok p) (hp : p ∉ s.loaded) :
    exec (openFile? fs path) s =
      ((fileItems fs p).map fun items => some (p, items), s.markLoaded p) := by
  rw [openFile?, exec_bind_ok (by rw [exec_lift, hpath]), exec_bind_ok (exec_get s),
    if_neg (mt List.contains_iff_mem.1 hp), exec_bind_ok (exec_modify _ s)]
  cases hitems : fileItems fs p with
  | error e => exact exec_bind_error (exec_lift _ _)
  | ok items => exact exec_bind_ok (exec_lift _ _)

section Items

variable {follow : String → Loading Unit} {base : String} {item : Item} {items : List Item}

theorem exec_addItems_plain (hitem : item.import? = none) :
    exec (addItems follow base (item :: items)) s =
      exec (addItems follow base items) (s.addItem item) := by
  cases item with
  | importFile => cases hitem
  | definition | template | block => rfl

theorem exec_addItems_followed (hitem : item.import? = some path)
    (hfollow : exec (follow (joinPath base path)) s = (.ok (), s')) :
    exec (addItems follow base (item :: items)) s =
      exec (addItems follow base items) (s'.addItem item) := by
  cases item with
  | importFile =>
    cases hitem
    rw [addItems, exec_bind_ok hfollow, exec_bind_ok (exec_modify _ s')]
  | definition | template | block => cases hitem

theorem exec_addItems_stopped (hitem : item.import? = some path)
    (hfollow : exec (follow (joinPath base path)) s = (.error e, s')) :
    exec (addItems follow base (item :: items)) s = (.error e, s') := by
  cases item with
  | importFile =>
    cases hitem
    rw [addItems, exec_bind_error hfollow]
  | definition | template | block => cases hitem

end Items

/-! ### The bound -/

/-- A file that can be read is among the nodes. -/
theorem mem_nodes_of_fileItems {items : List Item} (h : fileItems fs p = .ok items) :
    p ∈ fs.nodes.map Prod.fst := by
  have hnode : ∃ text, fs.node? p = some (.file (some text)) := by
    unfold fileItems FileSystem.read at h
    split at h <;> grind
  obtain ⟨text, hnode⟩ := hnode
  cases p with
  | nil => cases hnode
  | cons name names =>
    rw [FileSystem.node?, List.lookup_eq_some_iff] at hnode
    obtain ⟨before, after, hnodes, -⟩ := hnode
    · simp [hnodes]
    · simp

theorem unloaded_anti (h : s.loaded ⊆ s'.loaded) : unloaded fs s' ≤ unloaded fs s := by
  refine (List.monotone_filter_right _ fun p hp => ?_).length_le
  simp only [Bool.not_eq_true', List.contains_eq_mem, decide_eq_false_iff_not] at hp ⊢
  exact fun hs => hp (h hs)

/-- Opening a file that can be read leaves fewer files to load. -/
theorem unloaded_markLoaded_lt {items : List Item} (hitems : fileItems fs p = .ok items)
    (hp : p ∉ s.loaded) : unloaded fs (s.markLoaded p) < unloaded fs s := by
  -- What is left afterwards is what was left before without the file, which was among it.
  have hcut : unloaded fs (s.markLoaded p) =
      (((fs.nodes.map Prod.fst).filter fun q => !s.loaded.contains q).filter (· ≠ p)).length := by
    rw [List.filter_filter, unloaded]
    congr 2
    funext q
    by_cases hq : q = p <;> simp [markLoaded, hq]
  rw [hcut, unloaded, List.length_filter_lt_length_iff_exists]
  refine ⟨p, List.mem_filter.2 ⟨mem_nodes_of_fileItems hitems, ?_⟩, by simp⟩
  simpa using hp

/-! ### Every job comes to an end -/

/-- **An action performs a job**: the job runs, and the action ends as the run does and leaves the
same sources. -/
def Performs (fs : FileSystem) (x : Loading Unit) (job : Job) (t : Progress) : Prop :=
  ∃ t' r, Runs fs job t t' r ∧ exec x t.sources = (r, t'.sources)

variable {t : Progress}

/-- As a job runs in one way, an action that performs it ends as a run does exactly if there is
such a run. -/
theorem Performs.exec_iff {x : Loading Unit} {job : Job} (h : Performs fs x job t)
    {r : Except LoadError Unit} :
    exec x t.sources = (r, s) ↔ ∃ t', Runs fs job t t' r ∧ t'.sources = s := by
  obtain ⟨t', r', hrun, hexec⟩ := h
  rw [hexec, Prod.mk.injEq]
  constructor
  · rintro ⟨rfl, rfl⟩
    exact ⟨t', hrun, rfl⟩
  · rintro ⟨t'', hrun', rfl⟩
    obtain ⟨rfl, rfl⟩ := hrun.unique hrun'
    exact ⟨rfl, rfl⟩

theorem performs_file {proceed : Option (Path × List Item) → Loading Unit}
    (hnone : proceed none = pure ())
    (hsome : ∀ p items, p ∉ t.loaded → fileItems fs p = .ok items →
      Performs fs (proceed (some (p, items))) (.items p items) (t.begin p)) :
    Performs fs (openFile? fs path >>= proceed) (.load (.file path)) t := by
  cases hpath : resolve fs path with
  | error e => exact ⟨t, _, .unresolved hpath, exec_bind_error (exec_openFile?_unresolved hpath)⟩
  | ok p =>
    by_cases hp : p ∈ t.loaded
    · refine ⟨t, _, .known hpath hp, ?_⟩
      rw [exec_bind_ok (exec_openFile?_known hpath hp), hnone, exec_pure]
    · have hopen := exec_openFile?_new hpath (s := t.sources) hp
      cases hitems : fileItems fs p with
      | error e =>
        rw [hitems] at hopen
        exact ⟨_, _, .unread hpath hp hitems, exec_bind_error hopen⟩
      | ok items =>
        rw [hitems] at hopen
        obtain ⟨t', r, hrun, hexec⟩ := hsome p items hp hitems
        exact ⟨t', r, .opened hpath hp hitems hrun, (exec_bind_ok hopen).trans hexec⟩

theorem performs_addItems {follow : String → Loading Unit} {left : Nat}
    (hfollow : ∀ path t, unloaded fs t.sources ≤ left →
      Performs fs (follow path) (.load (.file path)) t)
    (items : List Item) (h : unloaded fs t.sources ≤ left) :
    Performs fs (addItems follow (baseOf p) items) (.items p items) t := by
  induction items generalizing t with
  | nil => exact ⟨t, _, .done, rfl⟩
  | cons item items ih =>
    cases hitem : item.import? with
    | none =>
      obtain ⟨t', r, hrun, hexec⟩ := ih (t := t.add p item) h
      refine ⟨t', r, .plain hitem hrun, ?_⟩
      rw [exec_addItems_plain hitem, ← Progress.sources_add t p, hexec]
    | some path =>
      obtain ⟨t₁, r₁, hfile, hexec₁⟩ := hfollow (joinPath (baseOf p) path) t h
      cases r₁ with
      | error e =>
        exact ⟨_, _, .stopped hitem hfile, exec_addItems_stopped hitem hexec₁⟩
      | ok =>
        -- Following the import can only have loaded more, so the bound holds for what is left.
        have hleft : unloaded fs (t₁.add p item).sources ≤ left :=
          (unloaded_anti hfile.loaded_isPrefix.subset).trans h
        obtain ⟨t', r, hrun, hexec⟩ := ih hleft
        refine ⟨t', r, .followed hitem hfile hrun, ?_⟩
        rw [exec_addItems_followed hitem hexec₁, ← Progress.sources_add t₁ p, hexec]

theorem performs_loadWithin (left : Nat) (path : String) (t : Progress)
    (h : unloaded fs t.sources ≤ left) :
    Performs fs (loadWithin fs left path) (.load (.file path)) t := by
  induction left generalizing path t with
  | zero =>
    -- A file that is opened is one of those left, and none is.
    refine performs_file rfl fun p items hp hitems => ?_
    have hlt : unloaded fs (t.begin p).sources < unloaded fs t.sources :=
      unloaded_markLoaded_lt (s := t.sources) hitems hp
    omega
  | succ left ih =>
    refine performs_file rfl fun p items hp hitems => ?_
    have hlt : unloaded fs (t.begin p).sources < unloaded fs t.sources :=
      unloaded_markLoaded_lt (s := t.sources) hitems hp
    exact performs_addItems ih items (by omega)

theorem performs_loadFile (path : String) (t : Progress) :
    Performs fs (loadFile fs path) (.load (.file path)) t := by
  obtain ⟨t', r, hrun, hexec⟩ := performs_loadWithin (unloaded fs t.sources) path t le_rfl
  exact ⟨t', r, hrun, (exec_bind_ok (exec_get t.sources)).trans hexec⟩

theorem performs_forM {requests : List Request}
    (h : ∀ request ∈ requests, ∀ t, Performs fs (request.load fs) (.load request) t)
    (t : Progress) : Performs fs (requests.forM (Request.load fs)) (.loads requests) t := by
  induction requests generalizing t with
  | nil => exact ⟨t, _, .none, rfl⟩
  | cons request requests ih =>
    rw [List.forall_mem_cons] at h
    change Performs fs (request.load fs >>= fun _ => requests.forM (Request.load fs)) _ t
    obtain ⟨t₁, r₁, hfirst, hexec₁⟩ := h.1 t
    cases r₁ with
    | error e => exact ⟨t₁, _, .halted hfirst, exec_bind_error hexec₁⟩
    | ok =>
      obtain ⟨t', r, hrun, hexec⟩ := ih h.2 t₁
      exact ⟨t', r, .next hfirst hrun, (exec_bind_ok hexec₁).trans hexec⟩

/-- **Every request comes to an end**, from whatever was loaded before. -/
theorem performs_load (request : Request) (t : Progress) :
    Performs fs (request.load fs) (.load request) t := by
  cases request with
  | file path => exact performs_loadFile path t
  | directory path =>
    rw [Request.load, loadDirectory]
    cases hnames : configurationFiles fs path with
    | error e => exact ⟨t, _, .unlisted hnames, exec_bind_error (exec_lift _ _)⟩
    | ok names =>
      have hfiles : ∀ request ∈ names.map fun name => Request.file (joinPath path name),
          ∀ t, Performs fs (request.load fs) (.load request) t := by
        rw [List.forall_mem_map]
        exact fun name _ => performs_loadFile (joinPath path name)
      obtain ⟨t', r, hrun, hexec⟩ := performs_forM hfiles t
      refine ⟨t', r, .listed hnames hrun, ?_⟩
      rw [exec_bind_ok (exec_lift _ _), ← hexec]
      simp [Request.load]

/-- **A sequence of requests comes to an end.** -/
theorem performs_loads (requests : List Request) (t : Progress) :
    Performs fs (requests.forM (Request.load fs)) (.loads requests) t :=
  performs_forM (fun request _ => performs_load request) t

end Sources

end Balancer
