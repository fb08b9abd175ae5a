import Balancer.Config.Strings
import Balancer.Proofs.Ends

/-!
# Agreement of configurations

Two parts of a configuration *agree* up to a relation `R` on texts when they have the same shape,
the same numbers, switches and kinds, and when each text that is written out of the one is related
by `R` to the text in its place in the other. With equality for `R` nothing that is written can
differ; with "is substituted by" for `R`, every text has been substituted, and exactly once.

Which fields are texts is decided by their *types* and not by a list: a record agrees with another
when all its fields do, and `String` is the only type on which agreement is `R`. Two laws keep the
account honest.

* `LawfulTexts`: agreement up to equality is equality, so that no field has been left out.
* `LawfulStrings`: running an action over the texts of a part gives a part that agrees with it up
  to the results of the action. This is where `Strings.traverse`, which does name its fields, is
  compared with what agreement asks for.

A record is entered by the fields that are written of it (`Written`), and if these are all that
there are (`Record`), it has both laws. A server and a script have the second one only: what a
server still has to take over and the source of a script are never written, and are not compared.
The parts that hold a balancing algorithm, which substitution treats in its own way, follow in
`Balancer.Proofs.Substitution`.
-/

namespace Balancer

/-! ### Agreement and its laws -/

/-- **Types whose written texts can be compared.** -/
class Texts (α : Type) where
  /-- Agreement up to a relation on texts. -/
  Agree (R : String → String → Prop) : α → α → Prop

/-- Types without texts, on which agreement is equality. -/
class Plain (α : Type)

/-- Types on which everything agrees with itself, whatever the relation on texts: there is no text
in them. -/
class Textless (α : Type) [Texts α] : Prop where
  agree_refl (R : String → String → Prop) (a : α) : Texts.Agree R a a

/-- **Agreement up to equality is equality.** -/
class LawfulTexts (α : Type) [Texts α] : Prop where
  agree_eq_iff {a b : α} : Texts.Agree Eq a b ↔ a = b

/-- **Running an action over all texts** gives something that agrees up to the results of the
action, or stops with the error of one of them. -/
class LawfulStrings (α : Type) [Strings α] [Texts α] : Prop where
  ends {ε : Type} (f : String → Except ε String) (a : α) :
    Ends (Texts.Agree (fun s t => f s = .ok t) a) (fun e => ∃ s, f s = .error e)
      (Strings.traverse f a)

export Texts (Agree)

export Textless (agree_refl)

export LawfulTexts (agree_eq_iff)

export LawfulStrings (ends)

/-! ### Texts, plain values and containers -/

section Containers

variable {α : Type}

instance : Texts String where
  Agree R := R

instance : LawfulStrings String where
  ends f s := by
    change Ends _ _ (f s)
    cases h : f s with
    | ok t => exact .ok h
    | error e => exact .error ⟨s, h⟩

instance : LawfulTexts String := ⟨Iff.rfl⟩

instance [Plain α] : Texts α where
  Agree _ := Eq

instance [Plain α] : Textless α := ⟨fun _ _ => rfl⟩

instance [Plain α] : LawfulTexts α := ⟨Iff.rfl⟩

instance : Plain Bool := ⟨⟩

instance : Plain Nat := ⟨⟩

instance {n : Nat} : Plain (BitVec n) := ⟨⟩

instance : Plain Mode := ⟨⟩

instance : Plain RuleKind := ⟨⟩

instance : Plain RedirectKind := ⟨⟩

instance : Plain StickRuleKind := ⟨⟩

instance : Plain ErrorPageKind := ⟨⟩

instance : Plain CheckKind := ⟨⟩

variable [Texts α]

instance : Texts (Option α) where
  Agree R := Option.Rel (Agree R)

omit [Texts α] in
/-- An action on what an optional part holds. -/
theorem Ends.option [Strings α] {ε : Type} {P : α → α → Prop} {E : ε → Prop}
    {f : String → Except ε String} (h : ∀ a, Ends (P a) E (Strings.traverse f a)) :
    ∀ a : Option α, Ends (Option.Rel P a) E (Strings.traverse f a)
  | none => .ok .none
  | some a => (h a).bind fun _ hb => .ok (.some hb)

instance [Strings α] [LawfulStrings α] : LawfulStrings (Option α) where
  ends f a := Ends.option (ends f) a

instance [Textless α] : Textless (Option α) where
  agree_refl R a := by
    cases a with
    | none => exact .none
    | some a => exact .some (agree_refl R a)

instance [LawfulTexts α] : LawfulTexts (Option α) where
  agree_eq_iff {a b} := by
    change Option.Rel _ a b ↔ _
    cases a <;> cases b <;> simp [agree_eq_iff]

instance : Texts (List α) where
  Agree R := List.Forall₂ (Agree R)

instance [Strings α] [LawfulStrings α] : LawfulStrings (List α) where
  ends f as := Ends.mapM (ends f) as

instance [LawfulTexts α] : LawfulTexts (List α) where
  agree_eq_iff {as bs} := by
    have h : (Agree Eq : α → α → Prop) = Eq := by
      funext a b
      exact propext agree_eq_iff
    change List.Forall₂ _ as bs ↔ _
    rw [h, List.forall₂_eq_eq_eq]

/-- The keys of a map are not texts: they have to be equal. -/
instance : Texts (OrderedMap α) where
  Agree R m m' := List.Forall₂ (fun x y => x.1 = y.1 ∧ Agree R x.2 y.2) m.entries m'.entries

/-- Values put to the keys of a list of entries agree with the entries if they agree with the
values that were there. -/
theorem agree_zip {R : String → String → Prop} {entries : List (String × α)} {values : List α}
    (h : List.Forall₂ (Agree R) (entries.map Prod.snd) values) :
    List.Forall₂ (fun x y => x.1 = y.1 ∧ Agree R x.2 y.2) entries
      ((entries.map Prod.fst).zip values) := by
  induction entries generalizing values with
  | nil => exact .nil
  | cons entry entries ih =>
    cases h with
    | cons hv hvs => exact .cons ⟨rfl, hv⟩ (ih hvs)

instance [Strings α] [LawfulStrings α] : LawfulStrings (OrderedMap α) where
  ends f m := (Ends.mapM (ends f) m.values).bind fun _ h => .pure (agree_zip h)

instance [LawfulTexts α] : LawfulTexts (OrderedMap α) where
  agree_eq_iff {m m'} := by
    obtain ⟨entries, hn⟩ := m
    obtain ⟨entries', hn'⟩ := m'
    have h : (fun x y : String × α => x.1 = y.1 ∧ Agree Eq x.2 y.2) = Eq := by
      funext x y
      rw [agree_eq_iff, ← Prod.ext_iff]
    change List.Forall₂ _ entries entries' ↔ _
    rw [h, List.forall₂_eq_eq_eq, OrderedMap.mk.injEq]

instance {β : Type} [Texts β] : Texts (α × β) where
  Agree R x y := Agree R x.1 y.1 ∧ Agree R x.2 y.2

instance {β : Type} [Texts β] [LawfulTexts α] [LawfulTexts β] : LawfulTexts (α × β) where
  agree_eq_iff {x y} := by
    change Agree Eq x.1 y.1 ∧ Agree Eq x.2 y.2 ↔ _
    rw [agree_eq_iff, agree_eq_iff, Prod.ext_iff]

end Containers

/-! ### Records -/

/-- **A record and those of its fields that are written.** An action over its texts has to leave
everything in these fields that is not a text as it is. -/
class Written (α : Type) [Strings α] where
  {Fields : Type}
  [texts : Texts Fields]
  [lawful : LawfulTexts Fields]
  fields : α → Fields
  ends {ε : Type} (f : String → Except ε String) (a : α) :
    Ends (fun b => Agree (fun s t => f s = .ok t) (fields a) (fields b))
      (fun e => ∃ s, f s = .error e) (Strings.traverse f a) := by
    -- the fields with texts are related by the steps of the action, the others are as they were
    intro ε f a
    repeat refine .bind (LawfulStrings.ends f _) fun _ _ => ?_
    refine .pure ?_
    repeat' first | assumption | exact agree_refl _ _ | apply And.intro

/-- **A record all of whose fields are written.** -/
class Record (α : Type) [Strings α] extends Written α where
  injective {a b : α} (h : fields a = fields b) : a = b := by
    intro a b h
    cases a
    cases b
    cases h
    rfl

attribute [reducible, instance] Written.texts

attribute [instance] Written.lawful

section Records

variable {α : Type} [Strings α]

instance [Written α] : Texts α where
  Agree R a b := Agree R (Written.fields a) (Written.fields b)

instance [Written α] : LawfulStrings α where
  ends := Written.ends

/-- Up to equality, records agree when what is written of them is equal. -/
theorem Written.agree_eq_iff [Written α] {a b : α} : Agree Eq a b ↔ fields a = fields b := by
  change Agree Eq (fields a) (fields b) ↔ _
  exact LawfulTexts.agree_eq_iff

instance [Record α] : LawfulTexts α where
  agree_eq_iff := Written.agree_eq_iff.trans ⟨Record.injective, congrArg _⟩

end Records

/-! ### Directives -/

instance : Record Acl where
  fields a := (a.name, a.criterion, a.flags, a.values)

instance : Record Rule where
  fields a := (a.kind, a.action, a.params, a.condition)

instance : Record RuleSet where
  fields a :=
    (a.httpRequest, a.httpResponse, a.httpAfterResponse, a.tcpRequest, a.tcpResponse, a.httpCheck,
      a.tcpCheck)

instance : Record Bind where
  fields a :=
    (a.address, a.port, a.ssl, a.crt, a.crtList, a.caFile, a.verify, a.alpn, a.ciphers,
      a.ciphersuites, a.sslMinVer, a.sslMaxVer, a.strictSni, a.acceptProxy, a.transparent, a.v4v6,
      a.v6only, a.deferAccept, a.tfo, a.allow0rtt, a.interface, a.name, a.mode, a.user, a.group,
      a.level, a.maxconn)

instance : Record UseBackend where
  fields a := (a.backend, a.condition)

instance : Record UseServer where
  fields a := (a.server, a.condition)

instance : Record Redirect where
  fields a := (a.kind, a.target, a.code, a.dropQuery, a.appendSlash, a.setCookie, a.condition)

instance : Record StickTable where
  fields a := (a.kind, a.len, a.size, a.expire, a.nopurge, a.peers, a.store)

instance : Record StickRule where
  fields a := (a.kind, a.pattern, a.table, a.condition)

instance : Record Compression where
  fields a := (a.algo, a.types, a.offload)

instance : Record ErrorPage where
  fields a := (a.code, a.kind, a.target)

instance : Record Stats where
  fields a :=
    (a.enable, a.uri, a.realm, a.auth, a.refresh, a.hideVersion, a.showLegends, a.showNode, a.admin,
      a.scope)

instance : Record LogTarget where
  fields a := (a.address, a.facility, a.level, a.minLevel, a.format, a.length)

instance : Record StatsSocket where
  fields a := (a.path, a.mode, a.level, a.user, a.group, a.exposeFdListeners)

/-! ### Servers

The options of a server are compared slot by slot: the type of a slot decides what agreement is. -/

instance (type : SlotType) : Texts type.Carrier :=
  match type with
  | .flag => inferInstanceAs (Texts Bool)
  | .port => inferInstanceAs (Texts Nat)
  | .count => inferInstanceAs (Texts Nat)
  | .text => inferInstanceAs (Texts String)
  | .texts => inferInstanceAs (Texts (List String))

instance (type : SlotType) : LawfulTexts type.Carrier := by
  cases type <;> infer_instance

instance : Texts ServerOptions where
  Agree R a b := ∀ slot, Agree R (a.get slot) (b.get slot)

instance : LawfulStrings ServerOptions where
  ends f a := by
    repeat refine .bind (ends f _) fun _ _ => ?_
    refine .pure fun slot => ?_
    cases slot <;> first | assumption | exact agree_refl _ _

/-- Options with the same content in every slot are the same. -/
theorem ServerOptions.ext_get {a b : ServerOptions} (h : ∀ slot, a.get slot = b.get slot) :
    a = b := by
  cases a
  cases b
  rw [ServerOptions.mk.injEq]
  exact ⟨h .check, h .checkSsl, h .checkPort, h .inter, h .fastinter, h .downinter, h .rise,
    h .fall, h .weight, h .maxconn, h .maxqueue, h .minconn, h .backup, h .disabled, h .ssl,
    h .verify, h .caFile, h .crt, h .sni, h .alpn, h .ciphers, h .sslMinVer, h .sendProxy,
    h .sendProxyV2, h .cookie, h .resolvers, h .resolvePrefer, h .initAddr, h .slowstart,
    h .agentCheck, h .agentPort, h .agentInter, h .track, h .observe, h .errorLimit, h .onError,
    h .onMarkedDown, h .proto, h .source, h .tfo⟩

instance : LawfulTexts ServerOptions where
  agree_eq_iff {a b} := by
    refine ⟨fun h => ServerOptions.ext_get fun slot => agree_eq_iff.1 (h slot), ?_⟩
    rintro rfl slot
    exact agree_eq_iff.2 rfl

/-- The templates that a server still has to take over are not written. -/
instance : Written Server where
  fields a := (a.name, a.address, a.port, a.options)

instance : Record ServerTemplate where
  fields a := (a.stem, a.count, a.fqdn, a.port, a.options)

instance : Record HealthCheck where
  fields a :=
    (a.kind, a.method, a.uri, a.version, a.host, a.expect, a.user, a.disableOn404, a.inter, a.rise,
      a.fall)

instance : Record Cookie where
  fields a :=
    (a.name, a.mode, a.indirect, a.nocache, a.httponly, a.secure, a.domain, a.maxidle, a.maxlife)

/-! ### Sections -/

instance : Texts Timeouts where
  Agree R a b := ∀ slot, Agree R (a.get slot) (b.get slot)

instance : LawfulStrings Timeouts where
  ends f a := by
    repeat refine .bind (ends f _) fun _ _ => ?_
    refine .pure fun slot => ?_
    cases slot <;> assumption

/-- Timeouts with the same value in every slot are the same. -/
theorem Timeouts.ext_get {a b : Timeouts} (h : ∀ slot, a.get slot = b.get slot) : a = b := by
  cases a
  cases b
  rw [Timeouts.mk.injEq]
  exact ⟨h .connect, h .client, h .server, h .httpRequest, h .httpKeepAlive, h .queue, h .tunnel,
    h .check, h .clientFin, h .serverFin, h .tarpit⟩

instance : LawfulTexts Timeouts where
  agree_eq_iff {a b} := by
    refine ⟨fun h => Timeouts.ext_get fun slot => agree_eq_iff.1 (h slot), ?_⟩
    rintro rfl slot
    exact agree_eq_iff.2 rfl

instance : Record ProxyOptions where
  fields a := (a.flags, a.forwardforExcept)

instance : Record ProxyBody where
  fields a :=
    (a.mode, a.description, a.disabled, a.maxconn, a.logGlobal, a.logs, a.logFormat,
      a.uniqueIdFormat, a.uniqueIdHeader, a.timeouts, a.options, a.acls, a.rules, a.stickTable,
      a.stickRules, a.redirects, a.stats, a.compression, a.errorPages)

instance : Record Intake where
  fields a := (a.binds, a.monitorUri, a.useBackends, a.defaultBackend)

-- agreement of so many fields is put together from more instances than the search allows for
set_option synthInstance.maxSize 512 in
instance : Record Global where
  fields a :=
    (a.daemon, a.masterWorker, a.user, a.group, a.uid, a.gid, a.chroot, a.pidfile, a.nbthread,
      a.cpuMap, a.hardStopAfter, a.insecureForkWanted, a.description, a.maxconn, a.maxconnrate,
      a.maxsessrate, a.maxsslconn, a.maxsslrate, a.ulimitN, a.spreadChecks, a.caBase, a.crtBase,
      a.sslDefaultBindCiphers, a.sslDefaultBindCiphersuites, a.sslDefaultBindOptions,
      a.sslDefaultServerCiphers, a.sslDefaultServerCiphersuites, a.sslDefaultServerOptions,
      a.sslDhParamFile, a.sslServerVerify, a.logs, a.logTag, a.logSendHostname, a.statsSockets,
      a.statsTimeout, a.tune, a.listenerMultiQueue, a.idlePoolShared, a.sslKeylog, a.setenv,
      a.luaLoad)

instance : Record Frontend where
  fields a := (a.name, a.body, a.intake)

/-- The source of a script is not written, only where it is loaded from. -/
instance : Written Script where
  fields a := (a.name, a.path)

instance : Record Endpoint where
  fields a := (a.name, a.address, a.port)

instance : Record Peers where
  fields a := (a.name, a.peers)

instance : Record Resolvers where
  fields a :=
    (a.name, a.nameservers, a.parseResolvConf, a.resolveRetries, a.timeoutResolve, a.timeoutRetry,
      a.hold, a.acceptedPayloadSize)

instance : Record Mailers where
  fields a := (a.name, a.mailers, a.timeoutMail)

end Balancer
