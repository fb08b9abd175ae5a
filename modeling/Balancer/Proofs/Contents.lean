import Balancer.Proofs.Sections
import Balancer.Proofs.Substitution

/-!
# What a section holds

A frontend, a backend or a `listen` section is made of two or three parts, and each entry of the
section is offered to them in turn. This file says what the parts hold in the end, in terms of the
entries alone:

* a list holds the entries of its kind, in their order (`selected`);
* a place for one thing holds the last entry of its kind (`latest`), and so does a setting, whose
  value is read from the last pair of its key (`Reads`);
* blocks of timeouts and of options are merged one after the other.

One structure for each part says all of this together (`ProxyBody.FilledWith`, `Intake.FilledWith`,
`Pool.FilledWith`). It is a relation between the entries, the part before them and the part after
them, so that a step, a run and the finished section are instances of the same statement: the
entries are one, several or all. A run is put together from its steps because the relation composes
(`Composes`).

That a directive of one part says nothing about the others is a fact about the tables of directives
that the parts admit (`ProxyBody.admits` and the like): no two of them overlap.
-/

namespace Balancer

variable {σ α : Type}

/-! ### Directives by kind -/

namespace Directive

/-- The rule of a family that a directive is. -/
def rule? (kind : RuleKind) : Directive → Option Rule
  | rule content => if content.kind = kind then some content else none
  | _ => none

/-- The choice of a backend that a directive is. -/
def useBackend? : Directive → Option UseBackend
  | useBackend content => some content
  | _ => none

/-- The choice of a server that a directive is. -/
def useServer? : Directive → Option UseServer
  | useServer content => some content
  | _ => none

/-- The redirect that a directive is. -/
def redirect? : Directive → Option Redirect
  | redirect content => some content
  | _ => none

/-- The stick table that a directive is. -/
def stickTable? : Directive → Option StickTable
  | stickTable content => some content
  | _ => none

/-- The stick rule that a directive is. -/
def stickRule? : Directive → Option StickRule
  | stickRule content => some content
  | _ => none

/-- The compression that a directive is. -/
def compression? : Directive → Option Compression
  | compression content => some content
  | _ => none

/-- The error page that a directive is. -/
def errorPage? : Directive → Option ErrorPage
  | errorPage content => some content
  | _ => none

/-- The statistics page that a directive is. -/
def stats? : Directive → Option Stats
  | stats content => some content
  | _ => none

/-- The log target that a directive is. -/
def log? : Directive → Option LogTarget
  | log content => some content
  | _ => none

/-- The block of timeouts that a directive is. -/
def timeouts? : Directive → Option Timeouts
  | timeouts content => some content
  | _ => none

/-- The block of options that a directive is. -/
def options? : Directive → Option ProxyOptions
  | options content => some content
  | _ => none

/-- The cookie that a directive is. -/
def cookie? : Directive → Option Cookie
  | cookie content => some content
  | _ => none

/-- The health check that a directive is. -/
def healthCheck? : Directive → Option HealthCheck
  | healthCheck content => some content
  | _ => none

/-- The options of all servers that a directive is. -/
def defaultServer? : Directive → Option ServerOptions
  | defaultServer content => some content
  | _ => none

/-- The server template that a directive is. -/
def serverTemplate? : Directive → Option ServerTemplate
  | serverTemplate content => some content
  | _ => none

/-- The value that a directive gives a key. -/
def pair? (key : String) : Directive → Option Value
  | pair name value => if name = key then some value else none
  | _ => none

end Directive

/-! ### The last entry of a kind -/

/-- **The last content that `select` picks out** of the entries. -/
def latest (select : Directive → Option α) (entries : List Entry) : Option α :=
  (selected select entries).getLast?

theorem latest_singleton (select : Directive → Option α) (entry : Entry) :
    latest select [entry] = select entry.directive := by
  rw [latest, selected_cons]
  cases select entry.directive <;> rfl

theorem latest_append (select : Directive → Option α) (entries entries' : List Entry) :
    latest select (entries ++ entries') = (latest select entries').or (latest select entries) := by
  rw [latest, selected_append, List.getLast?_append]
  rfl

section Composition

variable {select : Directive → Option α} {entries entries' : List Entry}

/-- Lists that grow by what is selected grow by what is selected of both runs. -/
theorem eq_append_selected_append {first second third : List α}
    (h : second = first ++ selected select entries)
    (h' : third = second ++ selected select entries') :
    third = first ++ selected select (entries ++ entries') := by
  rw [h', h, selected_append, List.append_assoc]

/-- A place that is overwritten holds what the later run put there, if it put anything. -/
theorem eq_latest_append_or {first second third : Option α}
    (h : second = (latest select entries).or first)
    (h' : third = (latest select entries').or second) :
    third = (latest select (entries ++ entries')).or first := by
  rw [h', h, latest_append, Option.or_assoc]

/-- Blocks that are merged in one run after the other are merged in one run. -/
theorem eq_foldl_selected_append {merge : α → α → α} {first second third : α}
    (h : second = (selected select entries).foldl merge first)
    (h' : third = (selected select entries').foldl merge second) :
    third = (selected select (entries ++ entries')).foldl merge first := by
  rw [h', h, selected_append, List.foldl_append]

end Composition

/-! ### Settings -/

/-- **A setting read from the last pair of its key**: `means` says which values stand for what under
which key. Without such a pair the setting stays as it was before. -/
inductive Reads (key : String) (means : String → Value → α → Prop) (entries : List Entry)
    (before : Option α) : Option α → Prop
  | unset (h : latest (Directive.pair? key) entries = none) : Reads key means entries before before
  | set {value : Value} {a : α} (h : latest (Directive.pair? key) entries = some value)
    (hmeans : means key value a) : Reads key means entries before (some a)

/-- The value stands for a text. -/
def Value.IsText (key : String) (value : Value) (s : String) : Prop := value.toText key = .ok s

/-- The value stands for a switch. -/
def Value.IsFlag (key : String) (value : Value) (b : Bool) : Prop := value.toFlag key = .ok b

/-- The value stands for a natural number of 32 bits. -/
def Value.IsCount (key : String) (value : Value) (n : Nat) : Prop := value.toCount key = .ok n

/-- The value stands for a mode. -/
def Value.IsMode (key : String) (value : Value) (mode : Mode) : Prop :=
  ∃ word, value.IsText key word ∧ Mode.ofKeyword? word = some mode

/-- The value stands for a balancing algorithm. -/
def Value.IsBalance (key : String) (value : Value) (balance : Balance) : Prop :=
  ∃ text, value.IsText key text ∧ Balance.ofText text = balance

namespace Reads

variable {key : String} {means : String → Value → α → Prop} {entries entries' : List Entry}
  {before middle after : Option α} {position : Option Position}

theorem nil : Reads key means [] before before := .unset rfl

theorem append (h : Reads key means entries before middle)
    (h' : Reads key means entries' middle after) :
    Reads key means (entries ++ entries') before after := by
  cases h' with
  | set hvalue hmeans => exact .set (by rw [latest_append, hvalue, Option.some_or]) hmeans
  | unset hnone =>
    cases h with
    | set hvalue hmeans => exact .set (by rw [latest_append, hnone, Option.none_or, hvalue]) hmeans
    | unset hnone' => exact .unset (by rw [latest_append, hnone, Option.none_or, hnone'])

/-- A directive that is not a pair of the key leaves the setting alone. -/
theorem skip {directive : Directive} (h : directive.pair? key = none) :
    Reads key means [⟨directive, position⟩] before before :=
  .unset (by rw [latest_singleton, h])

/-- So does a pair of another key. -/
theorem other {name : String} {value : Value} (h : name ≠ key) :
    Reads key means [⟨.pair name value, position⟩] before before :=
  .skip (if_neg h)

theorem pair {value : Value} {a : α} (h : means key value a) :
    Reads key means [⟨.pair key value, position⟩] before (some a) :=
  .set (by rw [latest_singleton]; exact if_pos rfl) h

/-- A setting that is decided at the end could have been decided at the start. -/
theorem decided (h : Reads key means entries none after) (default : α) :
    Reads key means entries (some default) (after.or (some default)) := by
  cases h with
  | unset hnone => exact .unset hnone
  | set hvalue hmeans => exact .set hvalue hmeans

end Reads

namespace Setting

variable {table : List (Setting σ)} {key : String} {value : Value} {state result : σ}

theorem update?_eq_ok_some (h : update? table key value state = .ok (some result)) :
    ∃ setting ∈ table, setting.key = key ∧ setting.assign value state = .ok result := by
  rw [update?] at h
  cases hfind : table.find? fun setting => setting.key == key with
  | none =>
    rw [hfind] at h
    cases h
  | some setting =>
    rw [hfind] at h
    obtain ⟨after, hassign, hafter⟩ := map_eq_ok.1 h
    cases hafter
    exact ⟨setting, List.mem_of_find?_eq_some hfind, by simpa using List.find?_some hfind, hassign⟩

theorem notMem_of_update?_eq_ok_none (h : update? table key value state = .ok none) :
    key ∉ table.map Setting.key := by
  rw [update?] at h
  cases hfind : table.find? fun setting => setting.key == key with
  | none =>
    rw [List.find?_eq_none] at hfind
    intro hmem
    obtain ⟨setting, hsetting, hkey⟩ := List.mem_map.1 hmem
    exact hfind setting hsetting (by simpa using hkey)
  | some setting =>
    rw [hfind] at h
    obtain ⟨after, -, hafter⟩ := map_eq_ok.1 h
    cases hafter

theorem ofConversion_assign_eq_ok {conversion : String → Value → Except FieldError α}
    {put : α → σ → σ} (h : (ofConversion conversion key put).assign value state = .ok result) :
    ∃ a, conversion key value = .ok a ∧ put a state = result := by
  rw [ofConversion] at h
  dsimp only at h
  cases ha : conversion key value with
  | error e =>
    rw [ha] at h
    cases h
  | ok a =>
    rw [ha] at h
    exact ⟨a, rfl, Except.ok.inj h⟩

end Setting

theorem ProxyBody.modeSetting_assign_eq_ok {value : Value} {body result : ProxyBody}
    (h : modeSetting.assign value body = .ok result) :
    ∃ mode, value.IsMode "mode" mode ∧ { body with mode := some mode } = result := by
  rw [modeSetting] at h
  dsimp only at h
  cases hword : value.toText "mode" with
  | error e =>
    rw [hword] at h
    cases h
  | ok word =>
    rw [hword] at h
    dsimp only at h
    cases hmode : Mode.ofKeyword? word with
    | none =>
      rw [hmode] at h
      cases h
    | some mode =>
      rw [hmode] at h
      exact ⟨mode, ⟨word, hword, hmode⟩, Except.ok.inj h⟩

/-! ### The directives that a part admits -/

/-- The keys that every proxy section understands. -/
def ProxyBody.keys : List String :=
  ["mode", "description", "disabled", "maxconn", "log_global", "log_format", "unique_id_format",
   "unique_id_header"]

/-- The keys that the accepting side understands. -/
def Intake.keys : List String := ["default_backend", "monitor_uri"]

/-- The keys that the serving side understands. -/
def Pool.keys : List String := ["balance", "hash_type", "retries", "http_reuse", "fullconn"]

/-- **What the body of every proxy section admits.** -/
def ProxyBody.admits : Directive → Bool
  | .log _ | .timeouts _ | .options _ | .acl _ | .rule _ | .stickTable _ | .stickRule _ => true
  | .redirect _ | .stats _ | .compression _ | .errorPage _ => true
  | .pair key _ => keys.contains key
  | _ => false

/-- **What the accepting side admits.** -/
def Intake.admits : Directive → Bool
  | .bind _ | .useBackend _ => true
  | .pair key _ => keys.contains key
  | _ => false

/-- **What the serving side admits.** -/
def Pool.admits : Directive → Bool
  | .server _ | .loop _ | .serverTemplate _ | .defaultServer _ | .useServer _ => true
  | .cookie _ | .healthCheck _ => true
  | .pair key _ => keys.contains key
  | _ => false

section Admission

variable {directive : Directive}

theorem ProxyBody.admits_of_absorb?_some {body result : ProxyBody}
    (h : body.absorb? directive = .ok (some result)) : admits directive = true := by
  cases directive with
  | pair key value =>
    obtain ⟨setting, hmem, rfl, -⟩ := Setting.update?_eq_ok_some h
    exact List.contains_iff_mem.2 (List.mem_map_of_mem hmem : setting.key ∈ settings.map _)
  | _ => first | rfl | cases h

theorem ProxyBody.admits_of_absorb?_none {body : ProxyBody}
    (h : body.absorb? directive = .ok none) : admits directive = false := by
  cases directive with
  | pair key value =>
    have hkey : key ∉ settings.map Setting.key := Setting.notMem_of_update?_eq_ok_none h
    exact Bool.eq_false_iff.2 fun hmem => hkey (List.contains_iff_mem.1 hmem)
  | stickTable table =>
    rw [ProxyBody.absorb?] at h
    split at h <;> cases h
  | _ => first | rfl | cases h

theorem Intake.admits_of_absorb?_some {intake result : Intake}
    (h : intake.absorb? directive = .ok (some result)) : admits directive = true := by
  cases directive with
  | pair key value =>
    obtain ⟨setting, hmem, rfl, -⟩ := Setting.update?_eq_ok_some h
    exact List.contains_iff_mem.2 (List.mem_map_of_mem hmem : setting.key ∈ settings.map _)
  | _ => first | rfl | cases h

theorem Intake.admits_of_absorb?_none {intake : Intake}
    (h : intake.absorb? directive = .ok none) : admits directive = false := by
  cases directive with
  | pair key value =>
    have hkey : key ∉ settings.map Setting.key := Setting.notMem_of_update?_eq_ok_none h
    exact Bool.eq_false_iff.2 fun hmem => hkey (List.contains_iff_mem.1 hmem)
  | _ => first | rfl | cases h

theorem Pool.admits_of_absorb?_some {pool result : Pool}
    (h : pool.absorb? directive = .ok (some result)) : admits directive = true := by
  cases directive with
  | pair key value =>
    obtain ⟨setting, hmem, rfl, -⟩ := Setting.update?_eq_ok_some h
    exact List.contains_iff_mem.2 (List.mem_map_of_mem hmem : setting.key ∈ settings.map _)
  | _ => first | rfl | cases h

/-- **No two parts admit the same directive.** -/
theorem ProxyBody.other_of_admits (h : admits directive = true) :
    Intake.admits directive = false ∧ Pool.admits directive = false := by
  cases directive with
  | pair key value =>
    have hkey : key ∈ keys := List.contains_iff_mem.1 h
    simp only [keys, List.mem_cons, List.not_mem_nil, or_false] at hkey
    rcases hkey with rfl | rfl | rfl | rfl | rfl | rfl | rfl | rfl <;> exact ⟨rfl, rfl⟩
  | _ => first | exact ⟨rfl, rfl⟩ | cases h

theorem Intake.other_of_admits (h : admits directive = true) : Pool.admits directive = false := by
  cases directive with
  | pair key value =>
    have hkey : key ∈ keys := List.contains_iff_mem.1 h
    simp only [keys, List.mem_cons, List.not_mem_nil, or_false] at hkey
    rcases hkey with rfl | rfl <;> rfl
  | _ => first | rfl | cases h

end Admission

/-! ### Parts and their entries -/

/-- **The body of a proxy section after some entries.** -/
structure ProxyBody.FilledWith (entries : List Entry) (start result : ProxyBody) : Prop where
  logs : result.logs = start.logs ++ selected Directive.log? entries
  acls : result.acls = start.acls ++ selected Directive.acl? entries
  rules : ∀ kind,
    result.rules.get kind = start.rules.get kind ++ selected (Directive.rule? kind) entries
  stickRules : result.stickRules = start.stickRules ++ selected Directive.stickRule? entries
  redirects : result.redirects = start.redirects ++ selected Directive.redirect? entries
  errorPages : result.errorPages = start.errorPages ++ selected Directive.errorPage? entries
  stickTable : result.stickTable = (latest Directive.stickTable? entries).or start.stickTable
  /-- There is never a second stick table: the last one is the only one. -/
  stickTables : result.stickTable.toList =
    start.stickTable.toList ++ selected Directive.stickTable? entries
  stats : result.stats = (latest Directive.stats? entries).or start.stats
  compression : result.compression = (latest Directive.compression? entries).or start.compression
  timeouts : result.timeouts =
    (selected Directive.timeouts? entries).foldl Timeouts.merge start.timeouts
  options : result.options =
    (selected Directive.options? entries).foldl ProxyOptions.merge start.options
  mode : Reads "mode" Value.IsMode entries start.mode result.mode
  description : Reads "description" Value.IsText entries start.description result.description
  disabled : Reads "disabled" Value.IsFlag entries (some start.disabled) (some result.disabled)
  maxconn : Reads "maxconn" Value.IsCount entries start.maxconn result.maxconn
  logGlobal : Reads "log_global" Value.IsFlag entries (some start.logGlobal) (some result.logGlobal)
  logFormat : Reads "log_format" Value.IsText entries start.logFormat result.logFormat
  uniqueIdFormat :
    Reads "unique_id_format" Value.IsText entries start.uniqueIdFormat result.uniqueIdFormat
  uniqueIdHeader :
    Reads "unique_id_header" Value.IsText entries start.uniqueIdHeader result.uniqueIdHeader

/-- **The accepting side after some entries.** -/
structure Intake.FilledWith (entries : List Entry) (start result : Intake) : Prop where
  binds : result.binds = start.binds ++ selected Directive.bind? entries
  useBackends : result.useBackends = start.useBackends ++ selected Directive.useBackend? entries
  defaultBackend :
    Reads "default_backend" Value.IsText entries start.defaultBackend result.defaultBackend
  monitorUri : Reads "monitor_uri" Value.IsText entries start.monitorUri result.monitorUri

/-- **The serving side after some entries.** -/
structure Pool.FilledWith (entries : List Entry) (start result : Pool) : Prop where
  servers : result.servers = start.servers ++ selected Directive.server? entries
  loops : result.loops = start.loops ++ selected Directive.loop? entries
  serverTemplates :
    result.serverTemplates = start.serverTemplates ++ selected Directive.serverTemplate? entries
  useServers : result.useServers = start.useServers ++ selected Directive.useServer? entries
  cookie : result.cookie = (latest Directive.cookie? entries).or start.cookie
  healthCheck : result.healthCheck = (latest Directive.healthCheck? entries).or start.healthCheck
  defaultServer :
    result.defaultServer = (latest Directive.defaultServer? entries).or start.defaultServer
  balance : Reads "balance" Value.IsBalance entries start.balance result.balance
  hashType : Reads "hash_type" Value.IsText entries start.hashType result.hashType
  retries : Reads "retries" Value.IsCount entries start.retries result.retries
  httpReuse : Reads "http_reuse" Value.IsText entries start.httpReuse result.httpReuse
  fullconn : Reads "fullconn" Value.IsCount entries start.fullconn result.fullconn

/-- **A relation along entries that composes**: it holds for no entries, and for the entries of two
runs after one another. -/
structure Composes (R : List Entry → σ → σ → Prop) : Prop where
  nil : ∀ state, R [] state state
  append : ∀ {entries entries' first second third}, R entries first second →
    R entries' second third → R (entries ++ entries') first third

/-- What holds of every step and composes holds of a run. -/
theorem Composes.foldlM {R : List Entry → σ → σ → Prop} (hR : Composes R) {node : SectionNode}
    {absorb? : σ → Directive → Except Refusal (Option σ)} {elsewhere : String → Bool}
    (hstep : ∀ state entry result, absorb? state entry.directive = .ok (some result) →
      R [entry] state result) {entries : List Entry} {start result : σ}
    (hfold : entries.foldlM (node.take absorb? elsewhere) start = .ok result) :
    R entries start result := by
  induction entries generalizing start with
  | nil =>
    cases hfold
    exact hR.nil _
  | cons entry entries ih =>
    rw [List.foldlM_cons] at hfold
    obtain ⟨next, hnext, hfold⟩ := bind_eq_ok.1 hfold
    exact hR.append (hstep _ _ _ (SectionNode.take_eq_ok_iff.1 hnext)) (ih hfold)

theorem RuleSet.get_push (rules : RuleSet) (rule : Rule) (kind : RuleKind) :
    (rules.push rule).get kind =
      rules.get kind ++ selected (Directive.rule? kind) [⟨.rule rule, none⟩] := by
  obtain ⟨family, action, params, condition⟩ := rule
  cases family <;> cases kind <;>
    first | rfl | exact (List.append_nil _).symm

namespace ProxyBody.FilledWith

theorem composes : Composes FilledWith where
  nil body := by
    constructor <;> first
      | rfl
      | exact (List.append_nil _).symm
      | exact fun _ => (List.append_nil _).symm
      | exact .nil
  append h h' :=
    { logs := eq_append_selected_append h.logs h'.logs
      acls := eq_append_selected_append h.acls h'.acls
      rules := fun kind => eq_append_selected_append (h.rules kind) (h'.rules kind)
      stickRules := eq_append_selected_append h.stickRules h'.stickRules
      redirects := eq_append_selected_append h.redirects h'.redirects
      errorPages := eq_append_selected_append h.errorPages h'.errorPages
      stickTable := eq_latest_append_or h.stickTable h'.stickTable
      stickTables := eq_append_selected_append h.stickTables h'.stickTables
      stats := eq_latest_append_or h.stats h'.stats
      compression := eq_latest_append_or h.compression h'.compression
      timeouts := eq_foldl_selected_append h.timeouts h'.timeouts
      options := eq_foldl_selected_append h.options h'.options
      mode := h.mode.append h'.mode
      description := h.description.append h'.description
      disabled := h.disabled.append h'.disabled
      maxconn := h.maxconn.append h'.maxconn
      logGlobal := h.logGlobal.append h'.logGlobal
      logFormat := h.logFormat.append h'.logFormat
      uniqueIdFormat := h.uniqueIdFormat.append h'.uniqueIdFormat
      uniqueIdHeader := h.uniqueIdHeader.append h'.uniqueIdHeader }

/-- A directive that the body does not admit says nothing about it. -/
theorem skip {body : ProxyBody} {entry : Entry} (h : admits entry.directive = false) :
    FilledWith [entry] body body := by
  obtain ⟨directive, position⟩ := entry
  cases directive with
  | pair key value =>
    have hkey : ∀ name ∈ keys, key ≠ name := by
      rintro name hname rfl
      exact Bool.eq_false_iff.1 h (List.contains_iff_mem.2 hname)
    constructor <;> first
      | rfl
      | exact (List.append_nil _).symm
      | exact fun _ => (List.append_nil _).symm
      | exact .other (hkey _ (by decide))
  | log | timeouts | options | acl | rule | stickTable | stickRule | redirect | stats | compression
  | errorPage => cases h
  | _ =>
    constructor <;> first
      | rfl
      | exact (List.append_nil _).symm
      | exact fun _ => (List.append_nil _).symm
      | exact .skip rfl

/-- A setting of the body changes its own field and no other. -/
theorem of_update? {body result : ProxyBody} {key : String} {value : Value}
    {position : Option Position}
    (h : Setting.update? settings key value body = .ok (some result)) :
    FilledWith [⟨.pair key value, position⟩] body result := by
  obtain ⟨setting, hmem, rfl, hassign⟩ := Setting.update?_eq_ok_some h
  simp only [settings, List.mem_cons, List.not_mem_nil, or_false] at hmem
  -- the mode is the one setting that is more than a conversion of its value
  obtain rfl | hmem := hmem
  · obtain ⟨mode, hmode, rfl⟩ := modeSetting_assign_eq_ok hassign
    constructor <;> first
      | rfl
      | exact (List.append_nil _).symm
      | exact fun _ => (List.append_nil _).symm
      | exact .pair hmode
      | exact .other (by decide)
  · rcases hmem with rfl | rfl | rfl | rfl | rfl | rfl | rfl <;>
      · obtain ⟨a, ha, rfl⟩ := Setting.ofConversion_assign_eq_ok hassign
        constructor <;> first
          | rfl
          | exact (List.append_nil _).symm
          | exact fun _ => (List.append_nil _).symm
          | exact .pair ha
          | exact .other (by decide)

/-- **One step of filling a body.** -/
theorem of_absorb? {body result : ProxyBody} {entry : Entry}
    (h : body.absorb? entry.directive = .ok (some result)) : FilledWith [entry] body result := by
  obtain ⟨directive, position⟩ := entry
  cases directive with
  | pair key value => exact of_update? h
  | stickTable table =>
    rw [ProxyBody.absorb?] at h
    cases htable : body.stickTable with
    | some other =>
      rw [htable] at h
      cases h
    | none =>
      rw [htable] at h
      cases h
      constructor <;> first
        | rfl
        | exact (List.append_nil _).symm
        | exact fun _ => (List.append_nil _).symm
        | exact .skip rfl
        -- there is no stick table yet, so this is the first
        | simp [htable, selected, Directive.stickTable?]
  | _ =>
    cases h <;> constructor <;> first
      | rfl
      | exact (List.append_nil _).symm
      | exact fun _ => (List.append_nil _).symm
      | exact .skip rfl
      | exact RuleSet.get_push _ _

end ProxyBody.FilledWith

namespace Intake.FilledWith

theorem composes : Composes FilledWith where
  nil intake := by
    constructor <;> first
      | exact (List.append_nil _).symm
      | exact .nil
  append h h' :=
    { binds := eq_append_selected_append h.binds h'.binds
      useBackends := eq_append_selected_append h.useBackends h'.useBackends
      defaultBackend := h.defaultBackend.append h'.defaultBackend
      monitorUri := h.monitorUri.append h'.monitorUri }

theorem skip {intake : Intake} {entry : Entry} (h : admits entry.directive = false) :
    FilledWith [entry] intake intake := by
  obtain ⟨directive, position⟩ := entry
  cases directive with
  | pair key value =>
    have hkey : ∀ name ∈ keys, key ≠ name := by
      rintro name hname rfl
      exact Bool.eq_false_iff.1 h (List.contains_iff_mem.2 hname)
    constructor <;> first
      | exact (List.append_nil _).symm
      | exact .other (hkey _ (by decide))
  | bind | useBackend => cases h
  | _ =>
    constructor <;> first
      | exact (List.append_nil _).symm
      | exact .skip rfl

theorem of_update? {intake result : Intake} {key : String} {value : Value}
    {position : Option Position}
    (h : Setting.update? settings key value intake = .ok (some result)) :
    FilledWith [⟨.pair key value, position⟩] intake result := by
  obtain ⟨setting, hmem, rfl, hassign⟩ := Setting.update?_eq_ok_some h
  simp only [settings, List.mem_cons, List.not_mem_nil, or_false] at hmem
  rcases hmem with rfl | rfl <;>
    · obtain ⟨a, ha, rfl⟩ := Setting.ofConversion_assign_eq_ok hassign
      constructor <;> first
        | exact (List.append_nil _).symm
        | exact .pair ha
        | exact .other (by decide)

/-- **One step of filling the accepting side.** -/
theorem of_absorb? {intake result : Intake} {entry : Entry}
    (h : intake.absorb? entry.directive = .ok (some result)) :
    FilledWith [entry] intake result := by
  obtain ⟨directive, position⟩ := entry
  cases directive with
  | pair key value => exact of_update? h
  | _ =>
    cases h <;> constructor <;> first
      | rfl
      | exact (List.append_nil _).symm
      | exact .skip rfl

end Intake.FilledWith

namespace Pool.FilledWith

theorem composes : Composes FilledWith where
  nil pool := by
    constructor <;> first
      | rfl
      | exact (List.append_nil _).symm
      | exact .nil
  append h h' :=
    { servers := eq_append_selected_append h.servers h'.servers
      loops := eq_append_selected_append h.loops h'.loops
      serverTemplates := eq_append_selected_append h.serverTemplates h'.serverTemplates
      useServers := eq_append_selected_append h.useServers h'.useServers
      cookie := eq_latest_append_or h.cookie h'.cookie
      healthCheck := eq_latest_append_or h.healthCheck h'.healthCheck
      defaultServer := eq_latest_append_or h.defaultServer h'.defaultServer
      balance := h.balance.append h'.balance
      hashType := h.hashType.append h'.hashType
      retries := h.retries.append h'.retries
      httpReuse := h.httpReuse.append h'.httpReuse
      fullconn := h.fullconn.append h'.fullconn }

theorem skip {pool : Pool} {entry : Entry} (h : admits entry.directive = false) :
    FilledWith [entry] pool pool := by
  obtain ⟨directive, position⟩ := entry
  cases directive with
  | pair key value =>
    have hkey : ∀ name ∈ keys, key ≠ name := by
      rintro name hname rfl
      exact Bool.eq_false_iff.1 h (List.contains_iff_mem.2 hname)
    constructor <;> first
      | rfl
      | exact (List.append_nil _).symm
      | exact .other (hkey _ (by decide))
  | server | loop | serverTemplate | defaultServer | useServer | cookie | healthCheck => cases h
  | _ =>
    constructor <;> first
      | rfl
      | exact (List.append_nil _).symm
      | exact .skip rfl

theorem of_update? {pool result : Pool} {key : String} {value : Value}
    {position : Option Position}
    (h : Setting.update? settings key value pool = .ok (some result)) :
    FilledWith [⟨.pair key value, position⟩] pool result := by
  obtain ⟨setting, hmem, rfl, hassign⟩ := Setting.update?_eq_ok_some h
  simp only [settings, List.mem_cons, List.not_mem_nil, or_false] at hmem
  rcases hmem with rfl | rfl | rfl | rfl | rfl <;>
    · obtain ⟨a, ha, rfl⟩ := Setting.ofConversion_assign_eq_ok hassign
      constructor <;> first
        | rfl
        | exact (List.append_nil _).symm
        | exact .pair ha
        | exact .pair ⟨a, ha, rfl⟩
        | exact .other (by decide)

/-- **One step of filling the serving side.** -/
theorem of_absorb? {pool result : Pool} {entry : Entry}
    (h : pool.absorb? entry.directive = .ok (some result)) : FilledWith [entry] pool result := by
  obtain ⟨directive, position⟩ := entry
  cases directive with
  | pair key value => exact of_update? h
  | _ =>
    cases h <;> constructor <;> first
      | rfl
      | exact (List.append_nil _).symm
      | exact .skip rfl

end Pool.FilledWith

/-! ### Sections and their entries -/

/-- **A frontend after some entries**, each of which one of its parts admits. -/
structure Frontend.FilledWith (entries : List Entry) (start result : Frontend) : Prop where
  name : result.name = start.name
  body : ProxyBody.FilledWith entries start.body result.body
  intake : Intake.FilledWith entries start.intake result.intake
  admitted : ∀ entry ∈ entries,
    ProxyBody.admits entry.directive = true ∨ Intake.admits entry.directive = true

/-- **A backend after some entries**, each of which one of its parts admits. -/
structure Backend.FilledWith (entries : List Entry) (start result : Backend) : Prop where
  name : result.name = start.name
  body : ProxyBody.FilledWith entries start.body result.body
  pool : Pool.FilledWith entries start.pool result.pool
  admitted : ∀ entry ∈ entries,
    ProxyBody.admits entry.directive = true ∨ Pool.admits entry.directive = true

/-- **A `listen` section after some entries**, each of which one of its parts admits. -/
structure Listen.FilledWith (entries : List Entry) (start result : Listen) : Prop where
  name : result.name = start.name
  body : ProxyBody.FilledWith entries start.body result.body
  intake : Intake.FilledWith entries start.intake result.intake
  pool : Pool.FilledWith entries start.pool result.pool
  admitted : ∀ entry ∈ entries, ProxyBody.admits entry.directive = true ∨
    Intake.admits entry.directive = true ∨ Pool.admits entry.directive = true

theorem Frontend.FilledWith.composes : Composes Frontend.FilledWith where
  nil _ :=
    ⟨rfl, ProxyBody.FilledWith.composes.nil _, Intake.FilledWith.composes.nil _,
      List.forall_mem_nil _⟩
  append h h' :=
    ⟨h'.name.trans h.name, ProxyBody.FilledWith.composes.append h.body h'.body,
      Intake.FilledWith.composes.append h.intake h'.intake,
      List.forall_mem_append.2 ⟨h.admitted, h'.admitted⟩⟩

theorem Backend.FilledWith.composes : Composes Backend.FilledWith where
  nil _ :=
    ⟨rfl, ProxyBody.FilledWith.composes.nil _, Pool.FilledWith.composes.nil _,
      List.forall_mem_nil _⟩
  append h h' :=
    ⟨h'.name.trans h.name, ProxyBody.FilledWith.composes.append h.body h'.body,
      Pool.FilledWith.composes.append h.pool h'.pool,
      List.forall_mem_append.2 ⟨h.admitted, h'.admitted⟩⟩

theorem Listen.FilledWith.composes : Composes Listen.FilledWith where
  nil _ :=
    ⟨rfl, ProxyBody.FilledWith.composes.nil _, Intake.FilledWith.composes.nil _,
      Pool.FilledWith.composes.nil _, List.forall_mem_nil _⟩
  append h h' :=
    ⟨h'.name.trans h.name, ProxyBody.FilledWith.composes.append h.body h'.body,
      Intake.FilledWith.composes.append h.intake h'.intake,
      Pool.FilledWith.composes.append h.pool h'.pool,
      List.forall_mem_append.2 ⟨h.admitted, h'.admitted⟩⟩

section Steps

variable {entry : Entry}

/-- **One step of filling a frontend.** The part that takes the entry in changes by it, the other
one does not admit it. -/
theorem Frontend.FilledWith.of_absorb? {frontend result : Frontend}
    (h : frontend.absorb? entry.directive = .ok (some result)) :
    FilledWith [entry] frontend result := by
  rcases Frontend.absorb?_eq_ok_some_iff.1 h with ⟨body, hbody, rfl⟩ | ⟨hnone, intake, hintake, rfl⟩
  · have hadmits := ProxyBody.admits_of_absorb?_some hbody
    exact ⟨rfl, .of_absorb? hbody, .skip (ProxyBody.other_of_admits hadmits).1,
      List.forall_mem_singleton.2 (.inl hadmits)⟩
  · have hadmits := Intake.admits_of_absorb?_some hintake
    exact ⟨rfl, .skip (ProxyBody.admits_of_absorb?_none hnone), .of_absorb? hintake,
      List.forall_mem_singleton.2 (.inr hadmits)⟩

/-- **One step of filling a backend.** -/
theorem Backend.FilledWith.of_absorb? {backend result : Backend}
    (h : backend.absorb? entry.directive = .ok (some result)) :
    FilledWith [entry] backend result := by
  rcases Backend.absorb?_eq_ok_some_iff.1 h with ⟨body, hbody, rfl⟩ | ⟨hnone, pool, hpool, rfl⟩
  · have hadmits := ProxyBody.admits_of_absorb?_some hbody
    exact ⟨rfl, .of_absorb? hbody, .skip (ProxyBody.other_of_admits hadmits).2,
      List.forall_mem_singleton.2 (.inl hadmits)⟩
  · have hadmits := Pool.admits_of_absorb?_some hpool
    exact ⟨rfl, .skip (ProxyBody.admits_of_absorb?_none hnone), .of_absorb? hpool,
      List.forall_mem_singleton.2 (.inr hadmits)⟩

/-- **One step of filling a `listen` section.** -/
theorem Listen.FilledWith.of_absorb? {listen result : Listen}
    (h : listen.absorb? entry.directive = .ok (some result)) :
    FilledWith [entry] listen result := by
  rcases Listen.absorb?_eq_ok_some_iff.1 h with
    ⟨body, hbody, rfl⟩ | ⟨hnone, ⟨intake, hintake, rfl⟩ | ⟨hnone', pool, hpool, rfl⟩⟩
  · have hadmits := ProxyBody.admits_of_absorb?_some hbody
    obtain ⟨hintake, hpool⟩ := ProxyBody.other_of_admits hadmits
    exact ⟨rfl, .of_absorb? hbody, .skip hintake, .skip hpool,
      List.forall_mem_singleton.2 (.inl hadmits)⟩
  · have hadmits := Intake.admits_of_absorb?_some hintake
    exact ⟨rfl, .skip (ProxyBody.admits_of_absorb?_none hnone), .of_absorb? hintake,
      .skip (Intake.other_of_admits hadmits), List.forall_mem_singleton.2 (.inr (.inl hadmits))⟩
  · have hadmits := Pool.admits_of_absorb?_some hpool
    exact ⟨rfl, .skip (ProxyBody.admits_of_absorb?_none hnone),
      .skip (Intake.admits_of_absorb?_none hnone'), .of_absorb? hpool,
      List.forall_mem_singleton.2 (.inr (.inr hadmits))⟩

end Steps

/-! ### Finished sections -/

/-- A mode that is decided at the end could have been decided at the start. -/
theorem ProxyBody.FilledWith.settled {entries : List Entry} {body : ProxyBody}
    (h : FilledWith entries {} body) : FilledWith entries { mode := some .http } body.settled :=
  { h with mode := h.mode.decided .http }

/-- So could an algorithm. -/
theorem Pool.FilledWith.settled {entries : List Entry} {pool : Pool}
    (h : FilledWith entries {} pool) :
    FilledWith entries { balance := some .roundRobin } pool.settled :=
  { h with balance := h.balance.decided .roundRobin }

section Nodes

variable {environment : Environment} {node : SectionNode}

theorem Frontend.filledWith_of_ofNode {frontend : Frontend}
    (h : Frontend.ofNode environment node = .ok frontend) :
    ∃ name entries, node.name = some name ∧
      readChildren environment node.children = .ok entries ∧
      Frontend.FilledWith entries { name, body := { mode := some .http } } frontend := by
  obtain ⟨name, hname, h⟩ := bind_eq_ok.1 h
  obtain ⟨filled, hfill, h⟩ := bind_eq_ok.1 h
  cases h
  obtain ⟨entries, hentries, hfold⟩ := SectionNode.fill_eq_ok_iff.1 hfill
  have hfilled := FilledWith.composes.foldlM (fun _ _ _ => FilledWith.of_absorb?) hfold
  exact ⟨name, entries, SectionNode.requiredName_eq_ok_iff.1 hname, hentries,
    { hfilled with body := hfilled.body.settled }⟩

theorem Backend.filledWith_of_ofNode {backend : Backend}
    (h : Backend.ofNode environment node = .ok backend) :
    ∃ name entries, node.name = some name ∧
      readChildren environment node.children = .ok entries ∧
      Backend.FilledWith entries
        { name, body := { mode := some .http }, pool := { balance := some .roundRobin } }
        backend := by
  obtain ⟨name, hname, h⟩ := bind_eq_ok.1 h
  obtain ⟨filled, hfill, h⟩ := bind_eq_ok.1 h
  cases h
  obtain ⟨entries, hentries, hfold⟩ := SectionNode.fill_eq_ok_iff.1 hfill
  have hfilled := FilledWith.composes.foldlM (fun _ _ _ => FilledWith.of_absorb?) hfold
  exact ⟨name, entries, SectionNode.requiredName_eq_ok_iff.1 hname, hentries,
    { hfilled with body := hfilled.body.settled, pool := hfilled.pool.settled }⟩

theorem Listen.filledWith_of_ofNode {listen : Listen}
    (h : Listen.ofNode environment node = .ok listen) :
    ∃ name entries, node.name = some name ∧
      readChildren environment node.children = .ok entries ∧
      Listen.FilledWith entries
        { name, body := { mode := some .http }, pool := { balance := some .roundRobin } }
        listen := by
  obtain ⟨name, hname, h⟩ := bind_eq_ok.1 h
  obtain ⟨filled, hfill, h⟩ := bind_eq_ok.1 h
  cases h
  obtain ⟨entries, hentries, hfold⟩ := SectionNode.fill_eq_ok_iff.1 hfill
  have hfilled := FilledWith.composes.foldlM (fun _ _ _ => FilledWith.of_absorb?) hfold
  exact ⟨name, entries, SectionNode.requiredName_eq_ok_iff.1 hname, hentries,
    { hfilled with body := hfilled.body.settled, pool := hfilled.pool.settled }⟩

end Nodes

/-- **A section holds exactly what its entries say.** The lists of a finished frontend, backend or
`listen` section are the entries of their kinds in the order of the source, the places for one thing
hold the last entry of their kind or the default, and an entry that none of the parts admits is an
error. -/
theorem SectionNode.filledWith_entries (environment : Environment) (node : SectionNode) :
    (∀ frontend, Frontend.ofNode environment node = .ok frontend →
      ∃ name entries, node.name = some name ∧
        readChildren environment node.children = .ok entries ∧
        Frontend.FilledWith entries { name, body := { mode := some .http } } frontend) ∧
    (∀ backend, Backend.ofNode environment node = .ok backend →
      ∃ name entries, node.name = some name ∧
        readChildren environment node.children = .ok entries ∧
        Backend.FilledWith entries
          { name, body := { mode := some .http }, pool := { balance := some .roundRobin } }
          backend) ∧
    (∀ listen, Listen.ofNode environment node = .ok listen →
      ∃ name entries, node.name = some name ∧
        readChildren environment node.children = .ok entries ∧
        Listen.FilledWith entries
          { name, body := { mode := some .http }, pool := { balance := some .roundRobin } }
          listen) ∧
    ∀ entries, readChildren environment node.children = .ok entries →
      ∀ entry ∈ entries, ProxyBody.admits entry.directive = false →
        (Intake.admits entry.directive = false →
          ∃ error, Frontend.ofNode environment node = .error error) ∧
        (Pool.admits entry.directive = false →
          ∃ error, Backend.ofNode environment node = .error error) ∧
        (Intake.admits entry.directive = false → Pool.admits entry.directive = false →
          ∃ error, Listen.ofNode environment node = .error error) := by
  refine ⟨fun _ => Frontend.filledWith_of_ofNode, fun _ => Backend.filledWith_of_ofNode,
    fun _ => Listen.filledWith_of_ofNode, ?_⟩
  intro entries hentries entry hentry hbody
  refine ⟨fun hintake => ?_, fun hpool => ?_, fun hintake hpool => ?_⟩
  · cases hnode : Frontend.ofNode environment node with
    | error error => exact ⟨error, rfl⟩
    | ok frontend =>
      obtain ⟨_, _, -, hread, hfilled⟩ := Frontend.filledWith_of_ofNode hnode
      cases hentries.symm.trans hread
      simpa [hbody, hintake] using hfilled.admitted entry hentry
  · cases hnode : Backend.ofNode environment node with
    | error error => exact ⟨error, rfl⟩
    | ok backend =>
      obtain ⟨_, _, -, hread, hfilled⟩ := Backend.filledWith_of_ofNode hnode
      cases hentries.symm.trans hread
      simpa [hbody, hpool] using hfilled.admitted entry hentry
  · cases hnode : Listen.ofNode environment node with
    | error error => exact ⟨error, rfl⟩
    | ok listen =>
      obtain ⟨_, _, -, hread, hfilled⟩ := Listen.filledWith_of_ofNode hnode
      cases hentries.symm.trans hread
      simpa [hbody, hintake, hpool] using hfilled.admitted entry hentry

/-- A `listen` section whose conditions, rules, servers and settings stand in no order. -/
def mixedListen : SectionNode where
  kind := "listen"
  name := some "web"
  children :=
    [.object ⟨"server", ["a"], [.pair "address" (.literal (.text "10.0.0.1")) none], [], none⟩,
     .pair "description" (.literal (.text "old")) none,
     .object ⟨"http_request", ["deny"], [], [], none⟩,
     .object ⟨"acl", ["one"], [.pair "criterion" (.literal (.text "src")) none], [], none⟩,
     .object ⟨"tcp_request", ["accept"], [], [], none⟩,
     .object ⟨"server", ["b"], [.pair "address" (.literal (.text "10.0.0.2")) none], [], none⟩,
     .pair "description" (.literal (.text "new")) none,
     .object ⟨"http_request", ["allow"], [], [], none⟩,
     .object ⟨"acl", ["two"], [.pair "criterion" (.literal (.text "dst")) none], [], none⟩]
  position := none

/-- What it becomes. -/
def mixedListenSection : Listen where
  name := "web"
  body :=
    { mode := some .http
      description := some "new"
      acls := [⟨"one", "src", [], []⟩, ⟨"two", "dst", [], []⟩]
      rules :=
        { httpRequest :=
            [⟨.httpRequest, "deny", .ofList [], none⟩, ⟨.httpRequest, "allow", .ofList [], none⟩]
          tcpRequest := [⟨.tcpRequest, "accept", .ofList [], none⟩] } }
  pool :=
    { balance := some .roundRobin
      servers :=
        [{ name := "a", address := "10.0.0.1" }, { name := "b", address := "10.0.0.2" }] }

theorem SectionNode.filledWith_entries_mixedListen :
    Listen.ofNode {} mixedListen = .ok mixedListenSection ∧
      (∃ name entries, mixedListen.name = some name ∧
        readChildren {} mixedListen.children = .ok entries ∧
        Listen.FilledWith entries
          { name, body := { mode := some .http }, pool := { balance := some .roundRobin } }
          mixedListenSection) ∧
      ∃ error, Frontend.ofNode {} mixedListen = .error error := by
  have hlisten : Listen.ofNode {} mixedListen = .ok mixedListenSection := by cbv
  have hread : (readChildren {} mixedListen.children).map List.head? =
      .ok (some ⟨.server { name := "a", address := "10.0.0.1" }, none⟩) := by cbv
  obtain ⟨-, -, hfilled, hrefused⟩ := SectionNode.filledWith_entries {} mixedListen
  obtain ⟨entries, hentries, hhead⟩ := map_eq_ok.1 hread
  have hmem := List.mem_of_mem_head? (Option.mem_def.2 hhead)
  exact ⟨hlisten, hfilled _ hlisten, (hrefused entries hentries _ hmem rfl).1 rfl⟩

end Balancer
