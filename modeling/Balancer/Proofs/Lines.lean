import Balancer.Layout
import Balancer.Proofs.References
import Mathlib

/-!
# Words without line feeds

The written configuration is made of lines, and nothing is escaped to keep it on its line: a line
feed in one of the author's texts comes out as a line feed. This file shows that there is no other
source of them. Whatever is written into a line is a keyword, a number, or one of the author's
texts, perhaps trimmed, quoted or with some of its characters replaced.

`Worded.strings` lists the strings of a part of a configuration, the keys of maps included. What is
never written, such as the source of a script or the loops and spreads of a pool, is not among them.
A part is *unbroken* if none of its strings has a line feed. Lines are lists of words and blocks are
made of lines, so that the same notion applies to what is written, and there is one statement for
each part: if it is unbroken, then so are its lines. The last one is
`Balancer.Configuration.unbroken_blocks`.
-/

namespace Balancer

open Layout Text

/-! ### Strings of a value -/

/-- **Types with strings in them.** -/
class Worded (α : Type) where
  /-- The strings of a value, the keys of its maps included. -/
  strings : α → List String

export Worded (strings)

section Containers

variable {α β : Type}

instance : Worded String := ⟨fun s => [s]⟩

instance : Worded Nat := ⟨fun _ => []⟩

instance : Worded Bool := ⟨fun _ => []⟩

variable [Worded α] [Worded β]

instance : Worded (Option α) := ⟨fun a => a.toList.flatMap strings⟩

instance : Worded (List α) := ⟨fun as => as.flatMap strings⟩

instance : Worded (α × β) := ⟨fun a => strings a.1 ++ strings a.2⟩

/-- A record has the strings of its fields. -/
@[reducible]
def Worded.of (fields : β → α) : Worded β := ⟨fun b => strings (fields b)⟩

instance : Worded (OrderedMap α) := .of OrderedMap.entries

end Containers

/-- **Unbroken values**: none of their strings has a line feed. -/
def Unbroken {α : Type} [Worded α] (a : α) : Prop := ∀ s ∈ strings a, '\n' ∉ s.toList

instance {α : Type} [Worded α] (a : α) : Decidable (Unbroken a) :=
  inferInstanceAs (Decidable (∀ _ ∈ _, _))

section Containers

variable {α β : Type}

theorem unbroken_text {s : String} : Unbroken s ↔ '\n' ∉ s.toList := List.forall_mem_singleton

@[simp]
theorem unbroken_number (n : Nat) : Unbroken n := List.forall_mem_nil _

variable [Worded α] [Worded β] {a : α} {as bs : List α}

@[simp]
theorem unbroken_none : Unbroken (none : Option α) := List.forall_mem_nil _

@[simp]
theorem unbroken_some : Unbroken (some a) ↔ Unbroken a := by
  simp [Unbroken, strings]

@[simp]
theorem unbroken_pair {b : β} : Unbroken (a, b) ↔ Unbroken a ∧ Unbroken b :=
  List.forall_mem_append

theorem unbroken_list : Unbroken as ↔ ∀ a ∈ as, Unbroken a := List.forall_mem_flatMap

theorem unbroken_option {a : Option α} : Unbroken a ↔ ∀ x ∈ a, Unbroken x := by
  cases a <;> simp

@[simp]
theorem unbroken_nil : Unbroken ([] : List α) := List.forall_mem_nil _

@[simp]
theorem unbroken_cons : Unbroken (a :: as) ↔ Unbroken a ∧ Unbroken as := by
  simp [unbroken_list]

@[simp]
theorem unbroken_append : Unbroken (as ++ bs) ↔ Unbroken as ∧ Unbroken bs := by
  simp [unbroken_list, or_imp, forall_and]

@[simp]
theorem unbroken_toList {a : Option α} : Unbroken a.toList ↔ Unbroken a := by
  cases a <;> simp

omit [Worded β] in
theorem unbroken_of {fields : β → α} {b : β} :
    @Unbroken β (.of fields) b ↔ Unbroken (fields b) := Iff.rfl

/-- What is made of the elements of an unbroken list, one by one. -/
theorem unbroken_map {f : α → β} (hf : ∀ a, Unbroken a → Unbroken (f a)) (h : Unbroken as) :
    Unbroken (as.map f) := by
  rw [unbroken_list, List.forall_mem_map]
  exact fun a ha => hf a (unbroken_list.1 h a ha)

theorem unbroken_flatMap {f : α → List β} (hf : ∀ a, Unbroken a → Unbroken (f a))
    (h : Unbroken as) : Unbroken (as.flatMap f) := by
  rw [unbroken_list, List.forall_mem_flatMap]
  exact fun a ha => unbroken_list.1 (hf a (unbroken_list.1 h a ha))

theorem unbroken_optionMap {f : α → β} (hf : ∀ a, Unbroken a → Unbroken (f a)) {a : Option α}
    (h : Unbroken a) : Unbroken (a.map f) := by
  cases a with
  | none => exact unbroken_none
  | some a => exact unbroken_some.2 (hf a (unbroken_some.1 h))

theorem unbroken_or {a b : Option α} (ha : Unbroken a) (hb : Unbroken b) : Unbroken (a.or b) := by
  cases a with
  | none => exact hb
  | some a => exact ha

theorem unbroken_getD {a : Option α} {fallback : α} (h : Unbroken a)
    (hfallback : Unbroken fallback) : Unbroken (a.getD fallback) := by
  cases a with
  | none => exact hfallback
  | some a => exact unbroken_some.1 h

/-- What is made of an optional part that may be missing. -/
theorem unbroken_mapGetD {f : α → List β} (hf : ∀ a, Unbroken a → Unbroken (f a)) {a : Option α}
    (h : Unbroken a) : Unbroken ((a.map f).getD []) :=
  unbroken_getD (unbroken_optionMap hf h) unbroken_nil

end Containers

/-! ### Words -/

section Words

variable {s t : String}

theorem unbroken_literal (h : '\n' ∉ s.toList) : Unbroken s := unbroken_text.2 h

@[simp]
theorem unbroken_concat : Unbroken (s ++ t) ↔ Unbroken s ∧ Unbroken t := by
  rw [unbroken_text, unbroken_text, unbroken_text, String.toList_append, List.mem_append, not_or]

/-- A character that is in no text and not in the separator is not in the texts joined. -/
theorem notMem_join {c : Char} {sep : String} {texts : List String} (hsep : c ∉ sep.toList)
    (h : ∀ text ∈ texts, c ∉ text.toList) : c ∉ (join sep texts).toList := by
  induction texts with
  | nil => exact List.not_mem_nil
  | cons text texts ih =>
    obtain ⟨htext, htexts⟩ := List.forall_mem_cons.1 h
    cases texts with
    | nil => exact htext
    | cons text' texts =>
      rw [join, String.toList_append, String.toList_append, List.mem_append, List.mem_append,
        not_or, not_or]
      exact ⟨⟨htext, hsep⟩, ih htexts⟩

/-- Only digits are in the text of a number. -/
theorem notMem_natText {c : Char} (h : c.isDigit = false) (n : Nat) : c ∉ (natText n).toList := by
  rw [natText, String.toList_ofList]
  intro hmem
  have hdigit := Nat.isDigit_of_mem_toDigits (by decide) (by decide) hmem
  exact absurd hdigit (by simp [h])

theorem unbroken_join {sep : String} {words : List String} (hsep : Unbroken sep)
    (h : Unbroken words) : Unbroken (join sep words) :=
  unbroken_text.2 (notMem_join (unbroken_text.1 hsep) fun w hw =>
    unbroken_text.1 (unbroken_list.1 h w hw))

@[simp]
theorem unbroken_natText (n : Nat) : Unbroken (natText n) :=
  unbroken_text.2 (notMem_natText (by decide) n)

theorem unbroken_replaceChar {old : Char} {new : List Char} (hnew : '\n' ∉ new)
    (h : Unbroken s) : Unbroken (replaceChar old new s) := by
  rw [unbroken_text, replaceChar, String.toList_ofList, List.mem_flatMap]
  rintro ⟨c, hc, hmem⟩
  split at hmem
  · exact hnew hmem
  · exact unbroken_text.1 h (List.mem_singleton.1 hmem ▸ hc)

theorem unbroken_trim (h : Unbroken s) : Unbroken (trim s) := by
  rw [unbroken_text, trim, String.toList_ofList, trimChars, List.mem_reverse]
  intro hmem
  have hfront := (List.dropWhile_sublist _).subset hmem
  exact unbroken_text.1 h ((List.dropWhile_sublist _).subset (List.mem_reverse.1 hfront))

theorem unbroken_conditionText (s : String) (h : Unbroken s) : Unbroken (conditionText s) := by
  rw [conditionText]
  split
  · exact unbroken_trim h
  · exact unbroken_concat.2 ⟨unbroken_literal (by decide), unbroken_trim h⟩

theorem unbroken_quote (s : String) (h : Unbroken s) : Unbroken (quote s) := by
  rw [quote]
  split
  · exact h
  · have hinner : Unbroken (replaceChar '"' ['\\', '"'] s) := unbroken_replaceChar (by decide) h
    simp [hinner, unbroken_literal]

@[simp]
theorem unbroken_address {port : Option Nat} (h : Unbroken s) : Unbroken (address s port) := by
  cases port <;> simp [address, h, unbroken_literal]

theorem unbroken_dashed (h : Unbroken s) : Unbroken (dashed s) :=
  unbroken_replaceChar (by decide) h

end Words

/-! ### Parts of a line -/

section Parts

variable {keyword : String}

@[simp]
theorem unbroken_optionWords {value : Option String} (hkeyword : Unbroken keyword) :
    Unbroken (Layout.option keyword value) ↔ Unbroken value := by
  cases value <;> simp [Layout.option, hkeyword]

@[simp]
theorem unbroken_flag {on : Bool} (hkeyword : Unbroken keyword) : Unbroken (flag keyword on) := by
  cases on <;> simp [flag, hkeyword]

@[simp]
theorem unbroken_count {value : Option Nat} (hkeyword : Unbroken keyword) :
    Unbroken (count keyword value) := by
  cases value <;> simp [count, Layout.option, hkeyword]

@[simp]
theorem unbroken_condition {value : Option String} (h : Unbroken value) :
    Unbroken (Layout.condition value) :=
  unbroken_toList.2 (unbroken_optionMap unbroken_conditionText h)

@[simp]
theorem unbroken_commaList {items : List String} (h : Unbroken items) :
    Unbroken (commaList items) := by
  rw [commaList]
  split
  · exact unbroken_none
  · exact unbroken_some.2 (unbroken_join (unbroken_literal (by decide)) h)

/-- A keyword in front of each text, on one line. -/
@[simp]
theorem unbroken_keyed {values : List String} (hkeyword : Unbroken keyword) (h : Unbroken values) :
    Unbroken (values.flatMap fun value => [keyword, value]) :=
  unbroken_flatMap (fun value hvalue => by simp [hkeyword, hvalue]) h

@[simp]
theorem unbroken_optionLine {value : Option String} (hkeyword : Unbroken keyword) :
    Unbroken (optionLine keyword value) ↔ Unbroken value := by
  cases value <;> simp [optionLine, hkeyword]

@[simp]
theorem unbroken_countLine {value : Option Nat} (hkeyword : Unbroken keyword) :
    Unbroken (countLine keyword value) := by
  cases value <;> simp [countLine, hkeyword]

@[simp]
theorem unbroken_flagLine {on : Bool} (hkeyword : Unbroken keyword) :
    Unbroken (flagLine keyword on) := by
  cases on <;> simp [flagLine, hkeyword]

@[simp]
theorem unbroken_switchLine {on : Option Bool} (hkeyword : Unbroken keyword) :
    Unbroken (switchLine keyword on) := by
  rcases on with _ | _ | _ <;> simp [switchLine, hkeyword, unbroken_literal]

@[simp]
theorem unbroken_listLine {values : List String} (hkeyword : Unbroken keyword)
    (h : Unbroken values) : Unbroken (listLine keyword values) := by
  rw [listLine]
  split <;> simp [hkeyword, h]

/-- A keyword in front of each text, on lines of their own. -/
@[simp]
theorem unbroken_keywordLines {values : List String} (hkeyword : Unbroken keyword)
    (h : Unbroken values) : Unbroken (values.map fun value => [keyword, value]) :=
  unbroken_map (fun value hvalue => by simp [hkeyword, hvalue]) h

end Parts

/-! ### Directives -/

instance : Worded LogTarget := .of fun a => (a.address, a.facility, a.level, a.minLevel, a.format)

theorem LogTarget.unbroken_line (log : LogTarget) (h : Unbroken log) : Unbroken log.line := by
  simp only [unbroken_of, unbroken_pair] at h
  unfold LogTarget.line
  simp [h, unbroken_literal]

instance : Worded StatsSocket := .of fun a => (a.path, a.mode, a.level, a.user, a.group)

theorem StatsSocket.unbroken_line (socket : StatsSocket) (h : Unbroken socket) :
    Unbroken socket.line := by
  simp only [unbroken_of, unbroken_pair] at h
  unfold StatsSocket.line
  simp [h, unbroken_literal]

instance : Worded Bind := .of fun a =>
  (a.address, a.crt, a.crtList, a.caFile, a.verify, a.alpn, a.ciphers, a.ciphersuites, a.sslMinVer,
    a.sslMaxVer, a.interface, a.name, a.mode, a.user, a.group, a.level)

theorem Bind.unbroken_line (bind : Bind) (h : Unbroken bind) : Unbroken bind.line := by
  simp only [unbroken_of, unbroken_pair] at h
  unfold Bind.line
  simp [h, unbroken_literal]

instance : Worded Acl := .of fun a => (a.name, a.criterion, a.flags, a.values)

theorem Acl.unbroken_line (acl : Acl) (h : Unbroken acl) : Unbroken acl.line := by
  simp only [unbroken_of, unbroken_pair] at h
  unfold Acl.line
  simp [h, unbroken_literal]

instance : Worded UseBackend := .of fun a => (a.backend, a.condition)

theorem UseBackend.unbroken_line (choice : UseBackend) (h : Unbroken choice) :
    Unbroken choice.line := by
  simp only [unbroken_of, unbroken_pair] at h
  unfold UseBackend.line
  simp [h, unbroken_literal]

instance : Worded UseServer := .of fun a => (a.server, a.condition)

theorem UseServer.unbroken_line (choice : UseServer) (h : Unbroken choice) :
    Unbroken choice.line := by
  simp only [unbroken_of, unbroken_pair] at h
  unfold UseServer.line
  simp [h, unbroken_literal]

instance : Worded Redirect := .of fun a => (a.target, a.setCookie, a.condition)

theorem RedirectKind.unbroken_keyword (kind : RedirectKind) : Unbroken kind.keyword := by
  cases kind <;> decide

theorem Redirect.unbroken_line (redirect : Redirect) (h : Unbroken redirect) :
    Unbroken redirect.line := by
  simp only [unbroken_of, unbroken_pair] at h
  unfold Redirect.line
  simp [h, unbroken_literal, RedirectKind.unbroken_keyword]

instance : Worded StickTable := .of fun a => (a.kind, a.size, a.expire, a.peers, a.store)

theorem StickTable.unbroken_line (table : StickTable) (h : Unbroken table) :
    Unbroken table.line := by
  simp only [unbroken_of, unbroken_pair] at h
  unfold StickTable.line
  simp [h, unbroken_literal]

instance : Worded StickRule := .of fun a => (a.pattern, a.table, a.condition)

theorem StickRuleKind.unbroken_keyword (kind : StickRuleKind) : Unbroken kind.keyword := by
  cases kind <;> decide

theorem StickRule.unbroken_line (rule : StickRule) (h : Unbroken rule) : Unbroken rule.line := by
  simp only [unbroken_of, unbroken_pair] at h
  unfold StickRule.line
  simp [h, unbroken_literal, StickRuleKind.unbroken_keyword]

instance : Worded ErrorPage := .of fun a => a.target

theorem ErrorPageKind.unbroken_keyword (kind : ErrorPageKind) : Unbroken kind.keyword := by
  cases kind <;> decide

theorem ErrorPage.unbroken_line (page : ErrorPage) (h : Unbroken page) : Unbroken page.line := by
  rw [unbroken_of] at h
  simp [ErrorPage.line, h, ErrorPageKind.unbroken_keyword]

instance : Worded Cookie := .of fun a => (a.name, a.mode, a.domain, a.maxidle, a.maxlife)

theorem Cookie.unbroken_line (cookie : Cookie) (h : Unbroken cookie) : Unbroken cookie.line := by
  simp only [unbroken_of, unbroken_pair] at h
  unfold Cookie.line
  simp [h, unbroken_literal]

instance : Worded Endpoint := .of fun a => (a.name, a.address)

theorem Endpoint.unbroken_line {keyword : String} (hkeyword : Unbroken keyword)
    (endpoint : Endpoint) (h : Unbroken endpoint) : Unbroken (endpoint.line keyword) := by
  simp only [unbroken_of, unbroken_pair] at h
  simp [Endpoint.line, hkeyword, h]

/-! ### Rules -/

theorem unbroken_tcpAction {action : String} (h : Unbroken action) :
    Unbroken (tcpAction action) := by
  have hsplit : Unbroken (tcpRulesets.findSome? fun ruleset =>
      (afterRuleset? action ruleset).map fun rest => ruleset ++ " " ++ dashed rest) := by
    refine unbroken_option.2 fun text htext => ?_
    obtain ⟨ruleset, hruleset, hrest⟩ := List.exists_of_findSome?_eq_some htext
    obtain ⟨rest, hafter, rfl⟩ := Option.map_eq_some_iff.1 hrest
    obtain ⟨cs, hcs, rfl⟩ := Option.map_eq_some_iff.1 hafter
    have hrulesets : Unbroken tcpRulesets := by decide
    -- what follows the name of the rule set is a part of the action
    have hchars : action.toList = (ruleset.toList ++ ['_']) ++ cs := eq_append_of_stripFront hcs
    have hcs' : '\n' ∉ cs := fun hmem =>
      unbroken_text.1 h (hchars ▸ List.mem_append_right _ hmem)
    have hrest' : Unbroken (dashed (String.ofList cs)) :=
      unbroken_dashed (unbroken_text.2 (by rwa [String.toList_ofList]))
    simp [unbroken_list.1 hrulesets ruleset hruleset, hrest', unbroken_literal]
  rw [tcpAction]
  cases hsome : tcpRulesets.findSome? fun ruleset =>
      (afterRuleset? action ruleset).map fun rest => ruleset ++ " " ++ dashed rest with
  | none => exact unbroken_dashed h
  | some text => exact unbroken_option.1 hsplit text hsome

theorem RuleKind.unbroken_action {action : String} (kind : RuleKind) (h : Unbroken action) :
    Unbroken (kind.action action) := by
  cases kind with
  | httpRequest | httpResponse | httpAfterResponse => exact unbroken_dashed h
  | tcpRequest | tcpResponse => exact unbroken_tcpAction h
  | httpCheck | tcpCheck => exact h

theorem RuleKind.unbroken_keyword (kind : RuleKind) : Unbroken kind.keyword := by
  cases kind <;> decide

theorem unbroken_paramWords (param : String × String) (h : Unbroken param) :
    Unbroken (paramWords param) := by
  obtain ⟨key, value⟩ := param
  obtain ⟨hkey, hvalue⟩ := unbroken_pair.1 h
  rw [paramWords]
  split <;> simp [hkey, unbroken_quote value hvalue]

instance : Worded Rule := .of fun a => (a.action, a.params, a.condition)

theorem Rule.unbroken_line (rule : Rule) (h : Unbroken rule) : Unbroken rule.line := by
  simp only [unbroken_of, unbroken_pair] at h
  obtain ⟨haction, hparams, hcondition⟩ := h
  have hwords := unbroken_flatMap unbroken_paramWords hparams
  simp [Rule.line, rule.kind.unbroken_action haction, hwords, hcondition, RuleKind.unbroken_keyword]

instance : Worded RuleSet := .of fun a =>
  (a.httpRequest, a.httpResponse, a.httpAfterResponse, a.tcpRequest, a.tcpResponse, a.httpCheck,
    a.tcpCheck)

theorem RuleSet.unbroken_written {rules : RuleSet} (h : Unbroken rules) :
    Unbroken rules.written := by
  simp only [unbroken_of, unbroken_pair] at h
  simp [RuleSet.written, RuleKind.writtenOrder, RuleSet.get, h]

/-! ### Servers -/

instance (type : SlotType) : Worded type.Carrier :=
  match type with
  | .flag => inferInstanceAs (Worded Bool)
  | .port => inferInstanceAs (Worded Nat)
  | .count => inferInstanceAs (Worded Nat)
  | .text => inferInstanceAs (Worded String)
  | .texts => inferInstanceAs (Worded (List String))

instance : Worded ServerOptions := ⟨fun a => ServerSlot.all.flatMap fun slot => strings (a.get slot)⟩

theorem ServerSlot.mem_all (slot : ServerSlot) : slot ∈ ServerSlot.all := by
  cases slot <;> decide

theorem ServerOptions.unbroken_iff {options : ServerOptions} :
    Unbroken options ↔ ∀ slot, Unbroken (options.get slot) := by
  simp only [Unbroken, strings, List.forall_mem_flatMap]
  exact ⟨fun h slot => h slot slot.mem_all, fun h slot _ => h slot⟩

theorem SlotType.unbroken_words {keyword : String} (hkeyword : Unbroken keyword) (type : SlotType)
    (value : type.Carrier) (h : Unbroken value) : Unbroken (type.words keyword value) := by
  cases type with
  | flag => exact unbroken_flag hkeyword
  | port => simp [SlotType.words, hkeyword]
  | count => simp [SlotType.words, hkeyword]
  | text => simpa [SlotType.words, hkeyword] using h
  | texts =>
    have hjoined : Unbroken (join "," value) := unbroken_join (unbroken_literal (by decide)) h
    simp [SlotType.words, hkeyword, hjoined]

theorem ServerSlot.unbroken_keyword (slot : ServerSlot) : Unbroken slot.keyword := by
  cases slot <;> decide

theorem ServerOptions.unbroken_words {options : ServerOptions} (h : Unbroken options) :
    Unbroken options.words := by
  rw [ServerOptions.words, unbroken_list, List.forall_mem_flatMap]
  intro slot _
  have hslot := ServerOptions.unbroken_iff.1 h slot
  rw [← unbroken_list]
  generalize options.get slot = value at hslot ⊢
  cases value with
  | none => exact unbroken_nil
  | some value =>
    exact slot.type.unbroken_words slot.unbroken_keyword value (unbroken_some.1 hslot)

instance : Worded Server := .of fun a => (a.name, a.address, a.options)

theorem Server.unbroken_line (server : Server) (h : Unbroken server) : Unbroken server.line := by
  simp only [unbroken_of, unbroken_pair] at h
  simp [Server.line, h, unbroken_literal, ServerOptions.unbroken_words]

instance : Worded ServerTemplate := .of fun a => (a.stem, a.count, a.fqdn, a.options)

theorem ServerTemplate.unbroken_line (family : ServerTemplate) (h : Unbroken family) :
    Unbroken family.line := by
  simp only [unbroken_of, unbroken_pair] at h
  simp [ServerTemplate.line, h, unbroken_literal, ServerOptions.unbroken_words]

theorem ServerOptions.unbroken_defaultLine (options : ServerOptions) (h : Unbroken options) :
    Unbroken options.defaultLine := by
  simp [ServerOptions.defaultLine, unbroken_literal, ServerOptions.unbroken_words h]

/-! ### Checks and timing -/

instance : Worded HealthCheck := .of fun a =>
  (a.method, a.uri, a.version, a.host, a.expect, a.user, a.inter)

theorem HealthCheck.unbroken_requestLine {check : HealthCheck} (h : Unbroken check) :
    Unbroken check.requestLine := by
  simp only [unbroken_of, unbroken_pair] at h
  rw [HealthCheck.requestLine]
  split <;> simp [h, unbroken_getD, unbroken_literal]

theorem HealthCheck.unbroken_lines (check : HealthCheck) (h : Unbroken check) :
    Unbroken check.lines := by
  have hrequest := HealthCheck.unbroken_requestLine h
  simp only [unbroken_of, unbroken_pair] at h
  rw [HealthCheck.lines]
  split <;> simp [h, hrequest, unbroken_literal]

/-- The options that every server of a pool starts from have their strings from the author's options
and from the health check. -/
theorem unbroken_effectiveDefaults {defaults : Option ServerOptions} {check : Option HealthCheck}
    (hdefaults : Unbroken defaults) (hcheck : Unbroken check) :
    Unbroken (effectiveDefaults defaults check) := by
  cases check with
  | none => exact hdefaults
  | some check =>
    have hown : Unbroken (defaults.getD {}) := unbroken_getD hdefaults (by decide)
    have hinter : Unbroken check.inter := by
      simp only [unbroken_some, unbroken_of, unbroken_pair] at hcheck
      exact hcheck.2.2.2.2.2.2
    rw [effectiveDefaults]
    split
    · exact hdefaults
    · refine unbroken_some.2 (ServerOptions.unbroken_iff.2 fun slot => ?_)
      have hslot := ServerOptions.unbroken_iff.1 hown slot
      cases slot with
      | inter => exact unbroken_or hslot hinter
      | rise => exact unbroken_option.2 fun n _ => unbroken_number n
      | fall => exact unbroken_option.2 fun n _ => unbroken_number n
      | _ => exact hslot

/-! ### Groups of lines -/

instance : Worded Stats := .of fun a => (a.uri, a.realm, a.auth, a.refresh, a.admin, a.scope)

theorem Stats.unbroken_lines (stats : Stats) (h : Unbroken stats) : Unbroken stats.lines := by
  simp only [unbroken_of, unbroken_pair] at h
  obtain ⟨huri, hrealm, hauth, hrefresh, hadmin, hscope⟩ := h
  have hescaped : Unbroken (stats.realm.map (replaceChar ' ' ['\\', ' '])) :=
    unbroken_optionMap (fun _ => unbroken_replaceChar (by decide)) hrealm
  have hcondition : Unbroken (stats.admin.map fun admin =>
      "stats admin" :: Layout.condition (some admin)) :=
    unbroken_optionMap (fun admin hadmin => by simp [hadmin, unbroken_literal]) hadmin
  unfold Stats.lines
  simp [huri, hescaped, hauth, hrefresh, hcondition, hscope, unbroken_literal]

instance : Worded Compression := .of fun a => (a.algo, a.types)

theorem Compression.unbroken_lines (compression : Compression) (h : Unbroken compression) :
    Unbroken compression.lines := by
  simp only [unbroken_of, unbroken_pair] at h
  simp [Compression.lines, h, unbroken_literal]

instance : Worded Timeouts := ⟨fun a => TimeoutSlot.all.flatMap fun slot => strings (a.get slot)⟩

theorem TimeoutSlot.unbroken_wire (slot : TimeoutSlot) : Unbroken slot.wire :=
  unbroken_replaceChar (by decide) (by cases slot <;> decide)

theorem Timeouts.unbroken_lines {timeouts : Timeouts} (h : Unbroken timeouts) :
    Unbroken timeouts.lines := by
  simp only [Unbroken, strings, List.forall_mem_flatMap] at h
  rw [Timeouts.lines, Timeouts.written, unbroken_list, List.forall_mem_map]
  rintro ⟨name, value⟩ hmem
  obtain ⟨slot, hslot, hset⟩ := List.mem_filterMap.1 hmem
  obtain ⟨_, hvalue, ⟨⟩⟩ := Option.map_eq_some_iff.1 hset
  have hunbroken : Unbroken value := h slot hslot value (Option.mem_toList.2 hvalue)
  simp [hunbroken, slot.unbroken_wire, unbroken_literal]

instance : Worded ProxyOptions := .of fun a => a.forwardforExcept

theorem ProxyFlag.unbroken_wire (flag : ProxyFlag) : Unbroken flag.wire :=
  unbroken_replaceChar (by decide) (by cases flag <;> decide)

theorem ProxyFlag.unbroken_line {except : Option String} (h : Unbroken except) (flag : ProxyFlag) :
    Unbroken (flag.line except) := by
  unfold ProxyFlag.line
  split <;> simp_all [ProxyFlag.unbroken_wire, unbroken_literal]

theorem ProxyOptions.unbroken_lines {options : ProxyOptions} (h : Unbroken options) :
    Unbroken options.lines := by
  rw [ProxyOptions.lines, unbroken_list, List.forall_mem_map]
  exact fun flag _ => flag.unbroken_line h

/-! ### Sections -/

instance : Worded ProxyBody := .of fun a =>
  (a.description, a.logs, a.logFormat, a.uniqueIdFormat, a.uniqueIdHeader, a.timeouts, a.options,
    a.acls, a.rules, a.stickTable, a.stickRules, a.redirects, a.stats, a.compression, a.errorPages)

instance : Worded Intake := .of fun a => (a.binds, a.monitorUri, a.useBackends, a.defaultBackend)

instance : Worded Balance := .of Balance.text

instance : Worded Pool := .of fun a =>
  (a.balance, a.hashType, a.cookie, a.httpReuse, a.healthCheck, a.useServers, a.defaultServer,
    a.serverTemplates, a.servers)

theorem ProxyBody.unbroken_serviceLines {body : ProxyBody} (h : Unbroken body) :
    Unbroken body.serviceLines := by
  rw [unbroken_of] at h
  simp only [unbroken_pair] at h
  obtain ⟨-, hlogs, hlogFormat, hidFormat, hidHeader, htimeouts, hoptions, -⟩ := h
  have hlogLines := unbroken_map LogTarget.unbroken_line hlogs
  have hlogFormat' := unbroken_optionMap unbroken_quote hlogFormat
  have hidFormat' := unbroken_optionMap unbroken_quote hidFormat
  unfold ProxyBody.serviceLines
  simp [hlogLines, hlogFormat', hidFormat', hidHeader, Timeouts.unbroken_lines htimeouts,
    ProxyOptions.unbroken_lines hoptions, unbroken_literal]

theorem ProxyBody.unbroken_trafficLines {body : ProxyBody} (h : Unbroken body) :
    Unbroken body.trafficLines := by
  rw [unbroken_of] at h
  simp only [unbroken_pair] at h
  obtain ⟨-, -, -, -, -, -, -, hacls, hrules, htable, hsticks, hredirects, hstats, hcompression,
    hpages⟩ := h
  have haclLines := unbroken_map Acl.unbroken_line hacls
  have htableLine := unbroken_optionMap StickTable.unbroken_line htable
  have hruleLines := unbroken_map Rule.unbroken_line (RuleSet.unbroken_written hrules)
  have hstickLines := unbroken_map StickRule.unbroken_line hsticks
  have hredirectLines := unbroken_map Redirect.unbroken_line hredirects
  have hstatsLines := unbroken_mapGetD Stats.unbroken_lines hstats
  have hcompressionLines := unbroken_mapGetD Compression.unbroken_lines hcompression
  have hpageLines := unbroken_map ErrorPage.unbroken_line hpages
  unfold ProxyBody.trafficLines
  simp [haclLines, htableLine, hruleLines, hstickLines, hredirectLines, hstatsLines,
    hcompressionLines, hpageLines]

theorem Intake.unbroken_routeLines (intake : Intake) (h : Unbroken intake) :
    Unbroken intake.routeLines := by
  rw [unbroken_of] at h
  simp only [unbroken_pair] at h
  obtain ⟨-, -, hchoices, hbackend⟩ := h
  have hchoiceLines := unbroken_map UseBackend.unbroken_line hchoices
  simp [Intake.routeLines, hchoiceLines, hbackend, unbroken_literal]

theorem Pool.unbroken_choiceLines (pool : Pool) (h : Unbroken pool) :
    Unbroken pool.choiceLines := by
  rw [unbroken_of] at h
  simp only [unbroken_pair] at h
  obtain ⟨hbalance, hhash, hcookie, hreuse, hcheck, -⟩ := h
  have hbalanceText : Unbroken (pool.balance.map Balance.text) :=
    unbroken_optionMap (f := Balance.text) (fun _ h => h) hbalance
  have hcookieLine := unbroken_optionMap Cookie.unbroken_line hcookie
  have hcheckLines := unbroken_mapGetD HealthCheck.unbroken_lines hcheck
  unfold Pool.choiceLines
  simp [hbalanceText, hhash, hcookieLine, hreuse, hcheckLines, unbroken_literal]

theorem Pool.unbroken_serverLines (pool : Pool) (h : Unbroken pool) :
    Unbroken pool.serverLines := by
  rw [unbroken_of] at h
  simp only [unbroken_pair] at h
  obtain ⟨-, -, -, -, hcheck, hchoices, hdefault, hfamilies, hservers⟩ := h
  have hchoiceLines := unbroken_map UseServer.unbroken_line hchoices
  have hdefaultLine := unbroken_optionMap ServerOptions.unbroken_defaultLine
    (unbroken_effectiveDefaults hdefault hcheck)
  have hfamilyLines := unbroken_map ServerTemplate.unbroken_line hfamilies
  have hserverLines := unbroken_map Server.unbroken_line hservers
  unfold Pool.serverLines
  simp [hchoiceLines, hdefaultLine, hfamilyLines, hserverLines]

/-- **The lines of a proxy section** have their strings from its parts. -/
theorem unbroken_proxyLines {body : ProxyBody} {intake : Option Intake} {pool : Option Pool}
    (hbody : Unbroken body) (hintake : Unbroken intake) (hpool : Unbroken pool) :
    Unbroken (proxyLines body intake pool) := by
  have hdescription : Unbroken body.description := by
    rw [unbroken_of] at hbody
    exact (unbroken_pair.1 hbody).1
  have hmode : Unbroken (body.mode.map Mode.keyword) := by
    rcases body.mode with _ | _ | _ <;> decide
  have hbinds : Unbroken ((intake.map fun intake => intake.binds.map Bind.line).getD []) := by
    refine unbroken_mapGetD (fun intake h => ?_) hintake
    rw [unbroken_of] at h
    exact unbroken_map Bind.unbroken_line (unbroken_pair.1 h).1
  have hmonitor : Unbroken
      ((intake.map fun intake => optionLine "monitor-uri" intake.monitorUri).getD []) := by
    refine unbroken_mapGetD (fun intake h => ?_) hintake
    rw [unbroken_of] at h
    simp only [unbroken_pair] at h
    simp [h, unbroken_literal]
  unfold proxyLines
  simp [hdescription, hmode, hbinds, hmonitor, ProxyBody.unbroken_serviceLines hbody,
    ProxyBody.unbroken_trafficLines hbody, unbroken_mapGetD Intake.unbroken_routeLines hintake,
    unbroken_mapGetD Pool.unbroken_choiceLines hpool, unbroken_mapGetD Pool.unbroken_serverLines hpool,
    unbroken_literal]

/-! ### Process-wide settings -/

instance : Worded Global := .of fun a =>
  ((a.user, a.group, a.chroot, a.pidfile, a.cpuMap, a.description, a.hardStopAfter),
    (a.caBase, a.crtBase, a.sslDefaultBindCiphers, a.sslDefaultBindCiphersuites,
      a.sslDefaultBindOptions, a.sslDefaultServerCiphers, a.sslDefaultServerCiphersuites,
      a.sslDefaultServerOptions, a.sslDhParamFile, a.sslServerVerify),
    (a.logs, a.logTag, a.logSendHostname, a.statsSockets, a.statsTimeout, a.tune, a.setenv),
    a.luaLoad)

/-- The source of a script is not written. -/
instance : Worded Script := .of fun a => (a.name, a.path)

theorem Script.unbroken_loadPath {script : Script} (h : Unbroken script) :
    Unbroken script.loadPath := by
  obtain ⟨hname, hpath⟩ := unbroken_pair.1 (unbroken_of.1 h)
  rw [Script.loadPath]
  cases hset : script.path with
  | none => simp [toString, Script.defaultDirectory, hname, unbroken_literal]
  | some path => exact unbroken_option.1 hpath path hset

section Global

variable {global : Global}

theorem Global.unbroken_processLines (h : Unbroken global) : Unbroken global.processLines := by
  rw [unbroken_of] at h
  simp only [unbroken_pair] at h
  unfold Global.processLines
  simp [h, unbroken_literal]

theorem Global.unbroken_limitLines (global : Global) : Unbroken global.limitLines := by
  unfold Global.limitLines
  simp [unbroken_literal]

theorem Global.unbroken_tlsLines (h : Unbroken global) : Unbroken global.tlsLines := by
  rw [unbroken_of] at h
  simp only [unbroken_pair] at h
  unfold Global.tlsLines
  simp [h, unbroken_literal]

theorem Global.unbroken_serviceLines (h : Unbroken global) : Unbroken global.serviceLines := by
  rw [unbroken_of] at h
  simp only [unbroken_pair] at h
  obtain ⟨-, -, ⟨hlogs, htag, hhostname, hsockets, htimeout, htune, hsetenv⟩, -⟩ := h
  have hlogLines := unbroken_map LogTarget.unbroken_line hlogs
  have hsocketLines := unbroken_map StatsSocket.unbroken_line hsockets
  simp only [Global.serviceLines, unbroken_append, and_assoc]
  -- the keys of the two maps are written too
  refine ⟨hlogLines, ?_, ?_, hsocketLines, ?_, unbroken_map (fun entry hentry => ?_) htune, ?_, ?_,
    ?_, unbroken_map (fun entry hentry => ?_) hsetenv⟩
  · simp [htag, unbroken_literal]
  · simp [hhostname, unbroken_literal]
  · simp [htimeout, unbroken_literal]
  · obtain ⟨hkey, hvalue⟩ := unbroken_pair.1 hentry
    simp [hkey, hvalue, unbroken_literal]
  · simp [unbroken_literal]
  · simp [unbroken_literal]
  · simp [unbroken_literal]
  · obtain ⟨hname, hvalue⟩ := unbroken_pair.1 hentry
    simp [hname, unbroken_quote _ hvalue, unbroken_literal]

end Global

/-! ### Blocks -/

instance : Worded Block := .of fun block => (block.header, block.lines)

theorem unbroken_block {header : Line} {lines : List Line} :
    Unbroken (Block.mk header lines) ↔ Unbroken header ∧ Unbroken lines := unbroken_pair

theorem Global.unbroken_block {global : Global} {scripts : List Script} (h : Unbroken global)
    (hscripts : Unbroken scripts) : Unbroken (global.block scripts) := by
  have hload : Unbroken global.luaLoad := by
    rw [unbroken_of] at h
    simp only [unbroken_pair] at h
    exact h.2.2.2
  have hscriptLines : Unbroken (scripts.map fun script => ["lua-load", script.loadPath]) :=
    unbroken_map (fun script hscript => by
      simp [Script.unbroken_loadPath hscript, unbroken_literal]) hscripts
  refine Balancer.unbroken_block.2 ⟨by decide, ?_⟩
  simp [Global.unbroken_processLines h, Global.unbroken_limitLines, Global.unbroken_tlsLines h,
    Global.unbroken_serviceLines h, hload, hscriptLines, unbroken_literal]

instance : Worded Defaults := .of fun a => (a.name, a.body, a.pool)

theorem Defaults.unbroken_block (defaults : Defaults) (h : Unbroken defaults) :
    Unbroken defaults.block := by
  rw [unbroken_of] at h
  simp only [unbroken_pair] at h
  obtain ⟨hname, hbody, hpool⟩ := h
  refine Balancer.unbroken_block.2 ⟨?_, ?_⟩
  · simp [hname, unbroken_literal]
  · exact unbroken_proxyLines hbody unbroken_none (unbroken_some.2 hpool)

instance : Worded Frontend := .of fun a => (a.name, a.body, a.intake)

theorem Frontend.unbroken_block (frontend : Frontend) (h : Unbroken frontend) :
    Unbroken frontend.block := by
  rw [unbroken_of] at h
  simp only [unbroken_pair] at h
  obtain ⟨hname, hbody, hintake⟩ := h
  refine Balancer.unbroken_block.2 ⟨?_, ?_⟩
  · simp [hname, unbroken_literal]
  · exact unbroken_proxyLines hbody (unbroken_some.2 hintake) unbroken_none

instance : Worded Backend := .of fun a => (a.name, a.body, a.pool)

theorem Backend.unbroken_block (backend : Backend) (h : Unbroken backend) :
    Unbroken backend.block := by
  rw [unbroken_of] at h
  simp only [unbroken_pair] at h
  obtain ⟨hname, hbody, hpool⟩ := h
  refine Balancer.unbroken_block.2 ⟨?_, ?_⟩
  · simp [hname, unbroken_literal]
  · exact unbroken_proxyLines hbody unbroken_none (unbroken_some.2 hpool)

instance : Worded Listen := .of fun a => (a.name, a.body, a.intake, a.pool)

theorem Listen.unbroken_block (listen : Listen) (h : Unbroken listen) : Unbroken listen.block := by
  rw [unbroken_of] at h
  simp only [unbroken_pair] at h
  obtain ⟨hname, hbody, hintake, hpool⟩ := h
  refine Balancer.unbroken_block.2 ⟨?_, ?_⟩
  · simp [hname, unbroken_literal]
  · exact unbroken_proxyLines hbody (unbroken_some.2 hintake) (unbroken_some.2 hpool)

instance : Worded Peers := .of fun a => (a.name, a.peers)

theorem Peers.unbroken_block (group : Peers) (h : Unbroken group) : Unbroken group.block := by
  obtain ⟨hname, hpeers⟩ := unbroken_pair.1 (unbroken_of.1 h)
  refine Balancer.unbroken_block.2 ⟨?_, ?_⟩
  · simp [hname, unbroken_literal]
  · exact unbroken_map (Endpoint.unbroken_line (unbroken_literal (by decide))) hpeers

instance : Worded Resolvers := .of fun a =>
  (a.name, a.nameservers, a.timeoutResolve, a.timeoutRetry, a.hold)

theorem Resolvers.unbroken_block (group : Resolvers) (h : Unbroken group) :
    Unbroken group.block := by
  rw [unbroken_of] at h
  simp only [unbroken_pair] at h
  obtain ⟨hname, hservers, hresolve, hretry, hhold⟩ := h
  have hserverLines : Unbroken (group.nameservers.map (Endpoint.line "nameserver")) :=
    unbroken_map (Endpoint.unbroken_line (unbroken_literal (by decide))) hservers
  refine Balancer.unbroken_block.2 ⟨?_, ?_⟩
  · simp [hname, unbroken_literal]
  · simp only [unbroken_append, and_assoc]
    refine ⟨hserverLines, ?_, ?_, ?_, ?_, unbroken_map (fun entry hentry => ?_) hhold, ?_⟩
    · simp [unbroken_literal]
    · simp [unbroken_literal]
    · simp [hresolve, unbroken_literal]
    · simp [hretry, unbroken_literal]
    · obtain ⟨hstatus, hperiod⟩ := unbroken_pair.1 hentry
      simp [hstatus, hperiod, unbroken_literal]
    · simp [unbroken_literal]

instance : Worded Mailers := .of fun a => (a.name, a.mailers, a.timeoutMail)

theorem Mailers.unbroken_block (group : Mailers) (h : Unbroken group) : Unbroken group.block := by
  rw [unbroken_of] at h
  simp only [unbroken_pair] at h
  obtain ⟨hname, hmailers, htimeout⟩ := h
  have hmailerLines : Unbroken (group.mailers.map (Endpoint.line "mailer")) :=
    unbroken_map (Endpoint.unbroken_line (unbroken_literal (by decide))) hmailers
  refine Balancer.unbroken_block.2 ⟨?_, ?_⟩
  · simp [hname, unbroken_literal]
  · simp [hmailerLines, htimeout, unbroken_literal]

/-- What only exists while a configuration is designed is not written. -/
instance : Worded Configuration := .of fun a =>
  (a.global, a.scripts, a.defaults, a.peers, a.resolvers, a.mailers, a.frontends, a.backends,
    a.listens)

/-- **Line feeds come from the strings of a configuration only.** -/
theorem Configuration.unbroken_blocks {config : Configuration} (h : Unbroken config) :
    Unbroken config.blocks := by
  rw [unbroken_of] at h
  simp only [unbroken_pair] at h
  obtain ⟨hglobal, hscripts, hdefaults, hpeers, hresolvers, hmailers, hfrontends, hbackends,
    hlistens⟩ := h
  have hglobalBlock : Unbroken config.globalBlock := by
    have hset : Unbroken (config.global.getD {}) := unbroken_getD hglobal (by decide)
    rw [Configuration.globalBlock]
    split
    · simpa using Global.unbroken_block hset hscripts
    · exact unbroken_nil
  unfold Configuration.blocks
  simp [hglobalBlock, unbroken_optionMap Defaults.unbroken_block hdefaults,
    unbroken_map Peers.unbroken_block hpeers, unbroken_map Resolvers.unbroken_block hresolvers,
    unbroken_map Mailers.unbroken_block hmailers,
    unbroken_map Frontend.unbroken_block hfrontends,
    unbroken_map Backend.unbroken_block hbackends, unbroken_map Listen.unbroken_block hlistens]

end Balancer
