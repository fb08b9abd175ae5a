import Balancer.Assembly.Sections
import Balancer.Proofs.Reading

/-!
# What a section is filled with

A section is filled entry by entry, and each entry goes to one of its parts. A part that is a list
gets the entries of one kind, in their order and no others: taking in a directive adds to the list
what the directive holds of that kind (`Collects`), and so a whole run collects what all entries
hold (`Collects.foldlM`).

The lists followed here are the conditions of a body, the addresses of the accepting side, and the
servers and loops of a pool.
-/

namespace Balancer

variable {σ α β : Type}

/-! ### Collecting -/

/-- **A list that collects the entries of one kind**: one step of filling a section adds to it what
the directive holds. -/
def Collects (absorb? : σ → Directive → Except Refusal (Option σ)) (part : σ → List α)
    (select : Directive → Option α) : Prop :=
  ∀ state directive result, absorb? state directive = .ok (some result) →
    part result = part state ++ (select directive).toList

section Filling

variable {absorb? : σ → Directive → Except Refusal (Option σ)} {part : σ → List α}
  {select : Directive → Option α} {node : SectionNode} {environment : Environment}
  {elsewhere : String → Bool} {start state result : σ}

theorem SectionNode.take_eq_ok_iff {entry : Entry} :
    node.take absorb? elsewhere state entry = .ok result ↔
      absorb? state entry.directive = .ok (some result) := by
  rw [SectionNode.take]
  cases absorb? state entry.directive with
  | error refusal => simp
  | ok found => cases found <;> simp

theorem SectionNode.fill_eq_ok_iff :
    node.fill environment absorb? elsewhere start = .ok result ↔
      ∃ entries, readChildren environment node.children = .ok entries ∧
        entries.foldlM (node.take absorb? elsewhere) start = .ok result :=
  bind_eq_ok

/-- **A run collects what all entries hold.** -/
theorem Collects.foldlM (h : Collects absorb? part select) {entries : List Entry}
    (hfold : entries.foldlM (node.take absorb? elsewhere) start = .ok result) :
    part result = part start ++ selected select entries := by
  induction entries generalizing start with
  | nil =>
    cases hfold
    exact (List.append_nil _).symm
  | cons entry entries ih =>
    rw [List.foldlM_cons] at hfold
    obtain ⟨next, hnext, hfold⟩ := bind_eq_ok.1 hfold
    rw [ih hfold, h _ _ _ (SectionNode.take_eq_ok_iff.1 hnext), selected_cons, List.append_assoc]

/-- What every step leaves alone is there at the end as it was at the start. -/
theorem SectionNode.foldlM_take_keeps {part : σ → β}
    (h : ∀ state directive result, absorb? state directive = .ok (some result) →
      part result = part state) {entries : List Entry}
    (hfold : entries.foldlM (node.take absorb? elsewhere) start = .ok result) :
    part result = part start := by
  induction entries generalizing start with
  | nil =>
    cases hfold
    rfl
  | cons entry entries ih =>
    rw [List.foldlM_cons] at hfold
    obtain ⟨next, hnext, hfold⟩ := bind_eq_ok.1 hfold
    rw [ih hfold, h _ _ _ (SectionNode.take_eq_ok_iff.1 hnext)]

/-- A list of a part is collected by the section, if each step is taken by the part or does not
concern it. -/
theorem Collects.lift (h : Collects absorb? part select) {τ : Type}
    {outer : τ → Directive → Except Refusal (Option τ)} {get : τ → σ}
    (houter : ∀ state directive result, outer state directive = .ok (some result) →
      absorb? (get state) directive = .ok (some (get result)) ∨
        get result = get state ∧ select directive = none) :
    Collects outer (fun state => part (get state)) select := by
  intro state directive result hstep
  rcases houter state directive result hstep with htaken | ⟨hsame, hnone⟩
  · exact h _ _ _ htaken
  · simp only [hsame, hnone, Option.toList_none, List.append_nil]

end Filling

/-! ### Settings -/

/-- A setting that leaves a part of the section alone. -/
def Setting.Keeps (part : σ → β) (setting : Setting σ) : Prop :=
  ∀ value state result, setting.assign value state = .ok result → part result = part state

theorem Setting.keeps_ofConversion {part : σ → β}
    {conversion : String → Value → Except FieldError α}
    {key : String} {put : α → σ → σ} (h : ∀ a state, part (put a state) = part state) :
    (Setting.ofConversion conversion key put).Keeps part := by
  intro value state result hassign
  rw [Setting.ofConversion] at hassign
  dsimp only at hassign
  split at hassign
  · cases hassign
    exact h _ _
  · exact nomatch hassign

theorem Setting.Keeps.update? {part : σ → β} {table : List (Setting σ)}
    (h : ∀ setting ∈ table, setting.Keeps part) {key : String} {value : Value} {state result : σ}
    (hupdate : Setting.update? table key value state = .ok (some result)) :
    part result = part state := by
  rw [Setting.update?] at hupdate
  split at hupdate
  · exact nomatch hupdate
  · rename_i setting hfind
    obtain ⟨after, hassign, hafter⟩ := map_eq_ok.1 hupdate
    cases hafter
    exact h setting (List.mem_of_find?_eq_some hfind) _ _ _ hassign

theorem ProxyBody.modeSetting_keeps_acls : modeSetting.Keeps ProxyBody.acls := by
  intro value body result hassign
  rw [modeSetting] at hassign
  dsimp only at hassign
  split at hassign
  · exact nomatch hassign
  · split at hassign
    · cases hassign
      rfl
    · exact nomatch hassign

theorem ProxyBody.settings_keep_acls : ∀ setting ∈ settings, setting.Keeps ProxyBody.acls := by
  intro setting hmem
  simp only [settings, List.mem_cons, List.not_mem_nil, or_false] at hmem
  obtain rfl | hmem := hmem
  · exact modeSetting_keeps_acls
  · rcases hmem with rfl | rfl | rfl | rfl | rfl | rfl | rfl <;>
      exact Setting.keeps_ofConversion fun _ _ => rfl

theorem Intake.settings_keep_binds : ∀ setting ∈ settings, setting.Keeps Intake.binds := by
  intro setting hmem
  simp only [settings, List.mem_cons, List.not_mem_nil, or_false] at hmem
  rcases hmem with rfl | rfl <;> exact Setting.keeps_ofConversion fun _ _ => rfl

theorem Pool.settings_keep_servers :
    ∀ setting ∈ settings, setting.Keeps fun pool => (pool.servers, pool.loops) := by
  intro setting hmem
  simp only [settings, List.mem_cons, List.not_mem_nil, or_false] at hmem
  rcases hmem with rfl | rfl | rfl | rfl | rfl <;> exact Setting.keeps_ofConversion fun _ _ => rfl

/-! ### Parts -/

theorem ProxyBody.collects_acls : Collects ProxyBody.absorb? ProxyBody.acls Directive.acl? := by
  intro body directive result h
  cases directive with
  | pair key value =>
    rw [Setting.Keeps.update? settings_keep_acls h]
    exact (List.append_nil _).symm
  | stickTable table =>
    rw [ProxyBody.absorb?] at h
    split at h
    · exact nomatch h
    · cases h
      exact (List.append_nil _).symm
  | _ => cases h <;> first | rfl | exact (List.append_nil _).symm

theorem Intake.collects_binds : Collects Intake.absorb? Intake.binds Directive.bind? := by
  intro intake directive result h
  cases directive with
  | pair key value =>
    rw [Setting.Keeps.update? settings_keep_binds h]
    exact (List.append_nil _).symm
  | _ => cases h <;> first | rfl | exact (List.append_nil _).symm

theorem Pool.collects_servers : Collects Pool.absorb? Pool.servers Directive.server? := by
  intro pool directive result h
  cases directive with
  | pair key value =>
    rw [(Prod.mk.inj (Setting.Keeps.update? settings_keep_servers h)).1]
    exact (List.append_nil _).symm
  | _ => cases h <;> first | rfl | exact (List.append_nil _).symm

theorem Pool.collects_loops : Collects Pool.absorb? Pool.loops Directive.loop? := by
  intro pool directive result h
  cases directive with
  | pair key value =>
    rw [(Prod.mk.inj (Setting.Keeps.update? settings_keep_servers h)).2]
    exact (List.append_nil _).symm
  | _ => cases h <;> first | rfl | exact (List.append_nil _).symm

/-- A body takes conditions in. -/
theorem ProxyBody.acl?_of_absorb?_none {body : ProxyBody} {directive : Directive}
    (h : body.absorb? directive = .ok none) : directive.acl? = none := by
  cases directive <;> first | rfl | exact nomatch h

/-- A body takes in nothing that belongs to the other parts. -/
theorem ProxyBody.other_of_absorb?_some {body result : ProxyBody} {directive : Directive}
    (h : body.absorb? directive = .ok (some result)) :
    directive.bind? = none ∧ directive.server? = none ∧ directive.loop? = none := by
  cases directive <;> first | exact ⟨rfl, rfl, rfl⟩ | exact nomatch h

/-- The accepting side takes its addresses in. -/
theorem Intake.bind?_of_absorb?_none {intake : Intake} {directive : Directive}
    (h : intake.absorb? directive = .ok none) : directive.bind? = none := by
  cases directive <;> first | rfl | exact nomatch h

theorem Intake.other_of_absorb?_some {intake result : Intake} {directive : Directive}
    (h : intake.absorb? directive = .ok (some result)) :
    directive.server? = none ∧ directive.loop? = none := by
  cases directive <;> first | exact ⟨rfl, rfl⟩ | exact nomatch h

/-! ### Whole sections -/

theorem Frontend.absorb?_eq_ok_some_iff {frontend result : Frontend} {directive : Directive} :
    frontend.absorb? directive = .ok (some result) ↔
      (∃ body, frontend.body.absorb? directive = .ok (some body) ∧
        { frontend with body } = result) ∨
      frontend.body.absorb? directive = .ok none ∧
        ∃ intake, frontend.intake.absorb? directive = .ok (some intake) ∧
          { frontend with intake } = result := by
  rw [Frontend.absorb?]
  cases frontend.body.absorb? directive with
  | error e => simp
  | ok found =>
    cases found with
    | some body => simp
    | none =>
      cases frontend.intake.absorb? directive with
      | error e => simp
      | ok found => cases found <;> simp

theorem Backend.absorb?_eq_ok_some_iff {backend result : Backend} {directive : Directive} :
    backend.absorb? directive = .ok (some result) ↔
      (∃ body, backend.body.absorb? directive = .ok (some body) ∧
        { backend with body } = result) ∨
      backend.body.absorb? directive = .ok none ∧
        ∃ pool, backend.pool.absorb? directive = .ok (some pool) ∧
          { backend with pool } = result := by
  rw [Backend.absorb?]
  cases backend.body.absorb? directive with
  | error e => simp
  | ok found =>
    cases found with
    | some body => simp
    | none =>
      cases backend.pool.absorb? directive with
      | error e => simp
      | ok found => cases found <;> simp

theorem Listen.absorb?_eq_ok_some_iff {listen result : Listen} {directive : Directive} :
    listen.absorb? directive = .ok (some result) ↔
      (∃ body, listen.body.absorb? directive = .ok (some body) ∧
        { listen with body } = result) ∨
      listen.body.absorb? directive = .ok none ∧
        ((∃ intake, listen.intake.absorb? directive = .ok (some intake) ∧
          { listen with intake } = result) ∨
        listen.intake.absorb? directive = .ok none ∧
          ∃ pool, listen.pool.absorb? directive = .ok (some pool) ∧
            { listen with pool } = result) := by
  rw [Listen.absorb?]
  cases listen.body.absorb? directive with
  | error e => simp
  | ok found =>
    cases found with
    | some body => simp
    | none =>
      cases listen.intake.absorb? directive with
      | error e => simp
      | ok found =>
        cases found with
        | some intake => simp
        | none =>
          cases listen.pool.absorb? directive with
          | error e => simp
          | ok found => cases found <;> simp

theorem Frontend.body_of_absorb? {frontend result : Frontend} {directive : Directive}
    (h : frontend.absorb? directive = .ok (some result)) :
    frontend.body.absorb? directive = .ok (some result.body) ∨
      result.body = frontend.body ∧ directive.acl? = none := by
  rcases Frontend.absorb?_eq_ok_some_iff.1 h with ⟨body, hbody, rfl⟩ | ⟨hnone, intake, -, rfl⟩
  · exact .inl hbody
  · exact .inr ⟨rfl, ProxyBody.acl?_of_absorb?_none hnone⟩

theorem Frontend.intake_of_absorb? {frontend result : Frontend} {directive : Directive}
    (h : frontend.absorb? directive = .ok (some result)) :
    frontend.intake.absorb? directive = .ok (some result.intake) ∨
      result.intake = frontend.intake ∧ directive.bind? = none := by
  rcases Frontend.absorb?_eq_ok_some_iff.1 h with ⟨body, hbody, rfl⟩ | ⟨-, intake, hintake, rfl⟩
  · exact .inr ⟨rfl, (ProxyBody.other_of_absorb?_some hbody).1⟩
  · exact .inl hintake

theorem Backend.body_of_absorb? {backend result : Backend} {directive : Directive}
    (h : backend.absorb? directive = .ok (some result)) :
    backend.body.absorb? directive = .ok (some result.body) ∨
      result.body = backend.body ∧ directive.acl? = none := by
  rcases Backend.absorb?_eq_ok_some_iff.1 h with ⟨body, hbody, rfl⟩ | ⟨hnone, pool, -, rfl⟩
  · exact .inl hbody
  · exact .inr ⟨rfl, ProxyBody.acl?_of_absorb?_none hnone⟩

theorem Backend.pool_of_absorb? {backend result : Backend} {directive : Directive}
    (h : backend.absorb? directive = .ok (some result)) :
    backend.pool.absorb? directive = .ok (some result.pool) ∨
      result.pool = backend.pool ∧ directive.server? = none ∧ directive.loop? = none := by
  rcases Backend.absorb?_eq_ok_some_iff.1 h with ⟨body, hbody, rfl⟩ | ⟨-, pool, hpool, rfl⟩
  · exact .inr ⟨rfl, (ProxyBody.other_of_absorb?_some hbody).2⟩
  · exact .inl hpool

theorem Listen.body_of_absorb? {listen result : Listen} {directive : Directive}
    (h : listen.absorb? directive = .ok (some result)) :
    listen.body.absorb? directive = .ok (some result.body) ∨
      result.body = listen.body ∧ directive.acl? = none := by
  rcases Listen.absorb?_eq_ok_some_iff.1 h with
    ⟨body, hbody, rfl⟩ | ⟨hnone, ⟨intake, -, rfl⟩ | ⟨-, pool, -, rfl⟩⟩
  · exact .inl hbody
  · exact .inr ⟨rfl, ProxyBody.acl?_of_absorb?_none hnone⟩
  · exact .inr ⟨rfl, ProxyBody.acl?_of_absorb?_none hnone⟩

theorem Listen.intake_of_absorb? {listen result : Listen} {directive : Directive}
    (h : listen.absorb? directive = .ok (some result)) :
    listen.intake.absorb? directive = .ok (some result.intake) ∨
      result.intake = listen.intake ∧ directive.bind? = none := by
  rcases Listen.absorb?_eq_ok_some_iff.1 h with
    ⟨body, hbody, rfl⟩ | ⟨-, ⟨intake, hintake, rfl⟩ | ⟨hnone, pool, -, rfl⟩⟩
  · exact .inr ⟨rfl, (ProxyBody.other_of_absorb?_some hbody).1⟩
  · exact .inl hintake
  · exact .inr ⟨rfl, Intake.bind?_of_absorb?_none hnone⟩

theorem Listen.pool_of_absorb? {listen result : Listen} {directive : Directive}
    (h : listen.absorb? directive = .ok (some result)) :
    listen.pool.absorb? directive = .ok (some result.pool) ∨
      result.pool = listen.pool ∧ directive.server? = none ∧ directive.loop? = none := by
  rcases Listen.absorb?_eq_ok_some_iff.1 h with
    ⟨body, hbody, rfl⟩ | ⟨-, ⟨intake, hintake, rfl⟩ | ⟨-, pool, hpool, rfl⟩⟩
  · exact .inr ⟨rfl, (ProxyBody.other_of_absorb?_some hbody).2⟩
  · exact .inr ⟨rfl, Intake.other_of_absorb?_some hintake⟩
  · exact .inl hpool

/-- The inherited settings take conditions in like any other section. -/
theorem Defaults.body_of_absorb? {defaults result : Defaults} {directive : Directive}
    (h : defaults.absorb? directive = .ok (some result)) :
    defaults.body.absorb? directive = .ok (some result.body) ∨
      result.body = defaults.body ∧ directive.acl? = none := by
  unfold Defaults.absorb? at h
  split at h
  case h_4 =>
    cases hbody : defaults.body.absorb? directive with
    | error e => simp [hbody] at h
    | ok found =>
      cases found with
      | some body =>
        simp only [hbody, ok_bind, pure_eq_ok_iff, Option.some.injEq] at h
        exact .inl (h ▸ rfl)
      | none =>
        refine .inr ⟨?_, ProxyBody.acl?_of_absorb?_none hbody⟩
        cases hpool : defaults.pool.absorb? directive with
        | error e => simp [hbody, hpool] at h
        | ok found =>
          cases found with
          | none => simp [hbody, hpool] at h
          | some pool =>
            simp only [hbody, hpool, ok_bind, pure_eq_ok_iff, Option.some.injEq] at h
            exact h ▸ rfl
  all_goals cases h

/-! ### What whole sections collect -/

theorem Defaults.collects_acls :
    Collects Defaults.absorb? (fun defaults => defaults.body.acls) Directive.acl? :=
  ProxyBody.collects_acls.lift fun _ _ _ => Defaults.body_of_absorb?

theorem Frontend.collects_acls :
    Collects Frontend.absorb? (fun frontend => frontend.body.acls) Directive.acl? :=
  ProxyBody.collects_acls.lift fun _ _ _ => Frontend.body_of_absorb?

theorem Frontend.collects_binds :
    Collects Frontend.absorb? (fun frontend => frontend.intake.binds) Directive.bind? :=
  Intake.collects_binds.lift fun _ _ _ => Frontend.intake_of_absorb?

theorem Backend.collects_acls :
    Collects Backend.absorb? (fun backend => backend.body.acls) Directive.acl? :=
  ProxyBody.collects_acls.lift fun _ _ _ => Backend.body_of_absorb?

theorem Backend.collects_servers :
    Collects Backend.absorb? (fun backend => backend.pool.servers) Directive.server? :=
  Pool.collects_servers.lift fun _ _ _ h =>
    (Backend.pool_of_absorb? h).imp_right (And.imp_right And.left)

theorem Backend.collects_loops :
    Collects Backend.absorb? (fun backend => backend.pool.loops) Directive.loop? :=
  Pool.collects_loops.lift fun _ _ _ h =>
    (Backend.pool_of_absorb? h).imp_right (And.imp_right And.right)

theorem Listen.collects_acls :
    Collects Listen.absorb? (fun listen => listen.body.acls) Directive.acl? :=
  ProxyBody.collects_acls.lift fun _ _ _ => Listen.body_of_absorb?

theorem Listen.collects_binds :
    Collects Listen.absorb? (fun listen => listen.intake.binds) Directive.bind? :=
  Intake.collects_binds.lift fun _ _ _ => Listen.intake_of_absorb?

theorem Listen.collects_servers :
    Collects Listen.absorb? (fun listen => listen.pool.servers) Directive.server? :=
  Pool.collects_servers.lift fun _ _ _ h =>
    (Listen.pool_of_absorb? h).imp_right (And.imp_right And.left)

theorem Listen.collects_loops :
    Collects Listen.absorb? (fun listen => listen.pool.loops) Directive.loop? :=
  Pool.collects_loops.lift fun _ _ _ h =>
    (Listen.pool_of_absorb? h).imp_right (And.imp_right And.right)

/-! ### Sections as they are read -/

section Nodes

variable (environment : Environment)

/-- The condition that an object describes. -/
def readAcl : ObjectNode → Except BuildError Acl :=
  readAs environment fun fields _ => Acl.ofFields fields

/-- The address to listen on that an object describes. -/
def readBind : ObjectNode → Except BuildError Bind :=
  readAs environment fun fields _ => Bind.ofFields fields

variable {environment} {node : SectionNode}

theorem SectionNode.requiredName_eq_ok_iff {name : String} :
    node.requiredName = .ok name ↔ node.name = some name := by
  rw [SectionNode.requiredName]
  cases node.name <;> simp

/-- **The inherited settings as their section gives them.** -/
theorem Defaults.ofNode_eq_ok {defaults : Defaults}
    (h : Defaults.ofNode environment node = .ok defaults) :
    (objectsOf "acl" node.children).mapM (readAcl environment) = .ok defaults.body.acls := by
  obtain ⟨entries, hentries, hfold⟩ := SectionNode.fill_eq_ok_iff.1 h
  have hacls := Defaults.collects_acls.foldlM hfold
  rw [readAcl, selects_acl.of_readChildren hentries]
  exact congrArg Except.ok hacls.symm

/-- **A frontend as its section gives it.** -/
theorem Frontend.ofNode_eq_ok {frontend : Frontend}
    (h : Frontend.ofNode environment node = .ok frontend) :
    node.name = some frontend.name ∧
      (objectsOf "acl" node.children).mapM (readAcl environment) = .ok frontend.body.acls ∧
      (objectsOf "bind" node.children).mapM (readBind environment) = .ok frontend.intake.binds := by
  obtain ⟨name, hname, h⟩ := bind_eq_ok.1 h
  obtain ⟨filled, hfill, h⟩ := bind_eq_ok.1 h
  cases h
  obtain ⟨entries, hentries, hfold⟩ := SectionNode.fill_eq_ok_iff.1 hfill
  have hfilled : filled.name = name := by
    refine SectionNode.foldlM_take_keeps (fun state directive result hstep => ?_) hfold
    rcases Frontend.absorb?_eq_ok_some_iff.1 hstep with ⟨_, -, rfl⟩ | ⟨-, _, -, rfl⟩ <;> rfl
  have hacls := Frontend.collects_acls.foldlM hfold
  have hbinds := Frontend.collects_binds.foldlM hfold
  refine ⟨?_, ?_, ?_⟩
  · rw [hfilled, SectionNode.requiredName_eq_ok_iff.1 hname]
  · rw [readAcl, selects_acl.of_readChildren hentries]
    exact congrArg Except.ok hacls.symm
  · rw [readBind, selects_bind.of_readChildren hentries]
    exact congrArg Except.ok hbinds.symm

/-- **A backend as its section gives it.** -/
theorem Backend.ofNode_eq_ok {backend : Backend}
    (h : Backend.ofNode environment node = .ok backend) :
    node.name = some backend.name ∧
      (objectsOf "acl" node.children).mapM (readAcl environment) = .ok backend.body.acls ∧
      (objectsOf "server" node.children).mapM (readServer environment) = .ok backend.pool.servers ∧
      (loopsOf node.children).mapM (readLoop environment) = .ok backend.pool.loops := by
  obtain ⟨name, hname, h⟩ := bind_eq_ok.1 h
  obtain ⟨filled, hfill, h⟩ := bind_eq_ok.1 h
  cases h
  obtain ⟨entries, hentries, hfold⟩ := SectionNode.fill_eq_ok_iff.1 hfill
  have hfilled : filled.name = name := by
    refine SectionNode.foldlM_take_keeps (fun state directive result hstep => ?_) hfold
    rcases Backend.absorb?_eq_ok_some_iff.1 hstep with ⟨_, -, rfl⟩ | ⟨-, _, -, rfl⟩ <;> rfl
  have hacls := Backend.collects_acls.foldlM hfold
  have hservers := Backend.collects_servers.foldlM hfold
  have hloops := Backend.collects_loops.foldlM hfold
  refine ⟨?_, ?_, ?_, ?_⟩
  · rw [hfilled, SectionNode.requiredName_eq_ok_iff.1 hname]
  · rw [readAcl, selects_acl.of_readChildren hentries]
    exact congrArg Except.ok hacls.symm
  · rw [readServer, selects_server.of_readChildren hentries]
    exact congrArg Except.ok hservers.symm
  · rw [loops_of_readChildren hentries]
    exact congrArg Except.ok hloops.symm

/-- **A `listen` section as its section gives it.** -/
theorem Listen.ofNode_eq_ok {listen : Listen} (h : Listen.ofNode environment node = .ok listen) :
    node.name = some listen.name ∧
      (objectsOf "acl" node.children).mapM (readAcl environment) = .ok listen.body.acls ∧
      (objectsOf "bind" node.children).mapM (readBind environment) = .ok listen.intake.binds ∧
      (objectsOf "server" node.children).mapM (readServer environment) = .ok listen.pool.servers ∧
      (loopsOf node.children).mapM (readLoop environment) = .ok listen.pool.loops := by
  obtain ⟨name, hname, h⟩ := bind_eq_ok.1 h
  obtain ⟨filled, hfill, h⟩ := bind_eq_ok.1 h
  cases h
  obtain ⟨entries, hentries, hfold⟩ := SectionNode.fill_eq_ok_iff.1 hfill
  have hfilled : filled.name = name := by
    refine SectionNode.foldlM_take_keeps (fun state directive result hstep => ?_) hfold
    rcases Listen.absorb?_eq_ok_some_iff.1 hstep with
      ⟨_, -, rfl⟩ | ⟨-, ⟨_, -, rfl⟩ | ⟨-, _, -, rfl⟩⟩ <;> rfl
  have hacls := Listen.collects_acls.foldlM hfold
  have hbinds := Listen.collects_binds.foldlM hfold
  have hservers := Listen.collects_servers.foldlM hfold
  have hloops := Listen.collects_loops.foldlM hfold
  refine ⟨?_, ?_, ?_, ?_, ?_⟩
  · rw [hfilled, SectionNode.requiredName_eq_ok_iff.1 hname]
  · rw [readAcl, selects_acl.of_readChildren hentries]
    exact congrArg Except.ok hacls.symm
  · rw [readBind, selects_bind.of_readChildren hentries]
    exact congrArg Except.ok hbinds.symm
  · rw [readServer, selects_server.of_readChildren hentries]
    exact congrArg Except.ok hservers.symm
  · rw [loops_of_readChildren hentries]
    exact congrArg Except.ok hloops.symm

theorem Peers.name_of_ofNode {peers : Peers} (h : Peers.ofNode environment node = .ok peers) :
    node.name = some peers.name := by
  obtain ⟨name, hname, h⟩ := bind_eq_ok.1 h
  obtain ⟨entries, -, hfold⟩ := SectionNode.fill_eq_ok_iff.1 h
  have hfilled : peers.name = name := by
    refine SectionNode.foldlM_take_keeps (fun state directive result hstep => ?_) hfold
    cases directive <;> cases hstep
    rfl
  rw [hfilled, SectionNode.requiredName_eq_ok_iff.1 hname]

theorem Resolvers.settings_keep_name : ∀ setting ∈ settings, setting.Keeps Resolvers.name := by
  intro setting hmem
  simp only [settings, List.mem_cons, List.not_mem_nil, or_false] at hmem
  rcases hmem with rfl | rfl | rfl | rfl | rfl <;> exact Setting.keeps_ofConversion fun _ _ => rfl

theorem Resolvers.name_of_ofNode {resolvers : Resolvers}
    (h : Resolvers.ofNode environment node = .ok resolvers) : node.name = some resolvers.name := by
  obtain ⟨name, hname, h⟩ := bind_eq_ok.1 h
  obtain ⟨entries, -, hfold⟩ := SectionNode.fill_eq_ok_iff.1 h
  have hfilled : resolvers.name = name := by
    refine SectionNode.foldlM_take_keeps (fun state directive result hstep => ?_) hfold
    cases directive with
    | pair key value => exact Setting.Keeps.update? settings_keep_name hstep
    | _ => cases hstep <;> rfl
  rw [hfilled, SectionNode.requiredName_eq_ok_iff.1 hname]

theorem Mailers.settings_keep_name : ∀ setting ∈ settings, setting.Keeps Mailers.name := by
  intro setting hmem
  rw [settings, List.mem_singleton] at hmem
  subst hmem
  exact Setting.keeps_ofConversion fun _ _ => rfl

theorem Mailers.name_of_ofNode {mailers : Mailers}
    (h : Mailers.ofNode environment node = .ok mailers) : node.name = some mailers.name := by
  obtain ⟨name, hname, h⟩ := bind_eq_ok.1 h
  obtain ⟨entries, -, hfold⟩ := SectionNode.fill_eq_ok_iff.1 h
  have hfilled : mailers.name = name := by
    refine SectionNode.foldlM_take_keeps (fun state directive result hstep => ?_) hfold
    cases directive with
    | pair key value => exact Setting.Keeps.update? settings_keep_name hstep
    | _ => cases hstep <;> rfl
  rw [hfilled, SectionNode.requiredName_eq_ok_iff.1 hname]

end Nodes

end Balancer
