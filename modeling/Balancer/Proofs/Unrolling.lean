import Balancer.Proofs.Lines
import Balancer.Proofs.Normal
import Balancer.Proofs.Parameters

/-!
# What unrolling gives

Unrolling visits the pools, the loops of a pool, the values of a loop and the servers of its body,
one inside the other, and stops at the first thing that goes wrong. This file says what comes out
without any of that, in three layers:

* the **values** of a loop: the integers from one bound to the other, or the items of a list
  (`LoopIterable.Takes`);
* the **copy** of a server for a value: its texts are substituted once, with the loop variable in
  front of the variables of the configuration, and everything else is as it was
  (`Server.CopiedWith`);
* the **servers of a pool**: those written out, as they are, and behind them the copies, loop by
  loop, value by value, server by server (`Pool.Unrolled`).

Unrolling returns exactly if each loop has its values and each text of each copy can be substituted,
and it returns exactly this (`Configuration.unroll_closedForm`).
-/

namespace Balancer

open Text

/-! ### The values of a loop -/

/-- The integer that a bound stands for. -/
inductive Bound.Denotes (globals : OrderedMap Value) : Bound → Int64 → Prop
  | integer (n : Int64) : Denotes globals (.integer n) n
  | value {source : String} {n : Int64}
      (h : interpolateValue globals.lookupVariable (.text source) = .ok (.integer n)) :
      Denotes globals (.expr source) n
  | numeral {source s : String} {n : Int64}
      (h : interpolateValue globals.lookupVariable (.text source) = .ok (.text s))
      (hread : readInteger? (trim s) = some n) : Denotes globals (.expr source) n

/-- **The integers from one to another**, both of them included, each once and in ascending
order. -/
structure Ascends (start stop : Int64) (ns : List Int64) : Prop where
  sorted : ns.Pairwise fun n m => n.toInt < m.toInt
  mem_iff (n : Int64) : n ∈ ns ↔ start.toInt ≤ n.toInt ∧ n.toInt ≤ stop.toInt

/-- **The values that a loop variable takes**, in order. -/
inductive LoopIterable.Takes (globals : OrderedMap Value) : LoopIterable → List Value → Prop
  | range {start stop : Bound} {a b : Int64} {ns : List Int64} (hstart : start.Denotes globals a)
      (hstop : stop.Denotes globals b) (hns : Ascends a b ns) :
      Takes globals (.range start stop) (ns.map .integer)
  | list {items values : List Value}
      (h : List.Forall₂ (fun item value => interpolateValue globals.lookupVariable item = .ok value)
        items values) :
      Takes globals (.list items) values

section Values

variable {globals : OrderedMap Value}

theorem Bound.evaluate_eq_ok_iff_denotes {bound : Bound} {binder : String} {n : Int64} :
    bound.evaluate globals binder = .ok n ↔ bound.Denotes globals n := by
  cases bound with
  | integer k =>
    rw [Bound.evaluate]
    constructor
    · intro h
      cases h
      exact .integer n
    · intro h
      cases h
      rfl
  | expr source =>
    -- whatever goes wrong is reported in the same way, so only the value matters
    have hread : Bound.evaluate globals binder (.expr source) = .ok n ↔
        ∃ value, interpolateValue globals.lookupVariable (.text source) = .ok value ∧
          Bound.read value = .ok n := by
      rw [Bound.evaluate]
      cases interpolateValue globals.lookupVariable (.text source) with
      | error e => simp
      | ok value => cases hvalue : Bound.read value <;> simp [hvalue]
    rw [hread]
    constructor
    · rintro ⟨value, hvalue, hn⟩
      fun_cases Bound.read value with
      | case1 k =>
        cases hn
        exact .value hvalue
      | case2 s k hk =>
        rw [Bound.read, hk] at hn
        cases hn
        exact .numeral hvalue hk
      | case3 s hk =>
        rw [Bound.read, hk] at hn
        cases hn
      | case4 other hinteger htext =>
        rw [Bound.read.eq_3 _ hinteger htext] at hn
        cases hn
    · intro h
      cases h with
      | value h => exact ⟨.integer n, h, rfl⟩
      | numeral h hk => exact ⟨.text _, h, by rw [Bound.read, hk]⟩

theorem Bound.Denotes.unique {bound : Bound} {a b : Int64} (ha : bound.Denotes globals a)
    (hb : bound.Denotes globals b) : a = b := by
  have ha' : bound.evaluate globals "" = .ok a := Bound.evaluate_eq_ok_iff_denotes.2 ha
  have hb' : bound.evaluate globals "" = .ok b := Bound.evaluate_eq_ok_iff_denotes.2 hb
  exact Except.ok.inj (ha'.symm.trans hb')

/-- The integers of a range do not leave the integers of 64 bits. -/
theorem toInt_ofInt_add {start stop : Int64} {k : Nat}
    (hk : k < (stop.toInt - start.toInt + 1).toNat) :
    (Int64.ofInt (start.toInt + (k : Int))).toInt = start.toInt + (k : Int) := by
  have hstart := start.le_toInt
  have hstop := stop.toInt_lt
  refine Int64.toInt_ofInt_of_le ?_ ?_
  · omega
  · omega

theorem ascends_integersBetween (start stop : Int64) :
    Ascends start stop (integersBetween start stop) where
  sorted := by
    rw [integersBetween, List.pairwise_map]
    refine List.pairwise_lt_range.imp_of_mem fun {k l} hk hl hlt => ?_
    rw [toInt_ofInt_add (List.mem_range.1 hk), toInt_ofInt_add (List.mem_range.1 hl)]
    omega
  mem_iff n := by
    simp only [integersBetween, List.mem_map, List.mem_range]
    constructor
    · rintro ⟨k, hk, rfl⟩
      rw [toInt_ofInt_add hk]
      omega
    · rintro ⟨hstart, hstop⟩
      have hk : (n.toInt - start.toInt).toNat < (stop.toInt - start.toInt + 1).toNat := by omega
      refine ⟨_, hk, Int64.toInt_inj.1 ?_⟩
      rw [toInt_ofInt_add hk]
      omega

/-- Only one list has all integers between two bounds in ascending order. -/
theorem Ascends.unique {start stop : Int64} {ns ms : List Int64} (hns : Ascends start stop ns)
    (hms : Ascends start stop ms) : ns = ms := by
  have hnodup {ls : List Int64} (h : Ascends start stop ls) : ls.Nodup :=
    h.sorted.imp fun hlt heq => by
      rw [heq] at hlt
      omega
  have hperm : ns.Perm ms := by
    rw [List.perm_ext_iff_of_nodup (hnodup hns) (hnodup hms)]
    intro n
    rw [hns.mem_iff, hms.mem_iff]
  refine hperm.eq_of_pairwise (fun n m _ _ hlt hgt => ?_) hns.sorted hms.sorted
  omega

theorem Ascends.length {start stop : Int64} {ns : List Int64} (h : Ascends start stop ns) :
    (ns.length : Int) = max 0 (stop.toInt - start.toInt + 1) := by
  rw [h.unique (ascends_integersBetween start stop), integersBetween, List.length_map,
    List.length_range]
  omega

/-- **A loop has the values that its variable takes.** -/
theorem ServerLoop.values_eq_ok_iff {loop : ServerLoop} {values : List Value} :
    loop.values globals = .ok values ↔ loop.iterable.Takes globals values := by
  rw [ServerLoop.values]
  cases loop.iterable with
  | range start stop =>
    simp only [bind_eq_ok, Bound.evaluate_eq_ok_iff_denotes, pure_eq_ok_iff]
    constructor
    · rintro ⟨a, ha, b, hb, rfl⟩
      exact .range ha hb (ascends_integersBetween a b)
    · intro h
      cases h with
      | range ha hb hns => exact ⟨_, ha, _, hb, by rw [hns.unique (ascends_integersBetween _ _)]⟩
  | list items =>
    simp only [mapM_eq_ok]
    constructor
    · intro h
      exact .list h
    · intro h
      cases h with
      | list h => exact h

end Values

/-! ### Copies of a server -/

/-- A value of a slot and its copy: texts are substituted, anything else is copied. -/
def SlotType.Copies (lookup : String → Except NormalizeError Value) :
    (type : SlotType) → type.Carrier → type.Carrier → Prop
  | .flag, on, on' => on' = on
  | .port, n, n' => n' = n
  | .count, n, n' => n' = n
  | .text, s, t => interpolate lookup s = .ok t
  | .texts, ss, ts => List.Forall₂ (fun s t => interpolate lookup s = .ok t) ss ts

/-- **A copy of a server** with its texts substituted. -/
structure Server.CopiedWith (lookup : String → Except NormalizeError Value)
    (server copy : Server) : Prop where
  name : interpolate lookup server.name = .ok copy.name
  address : interpolate lookup server.address = .ok copy.address
  port : copy.port = server.port
  options (slot : ServerSlot) :
    Option.Rel (slot.type.Copies lookup) (server.options.get slot) (copy.options.get slot)
  spreads : copy.spreads = server.spreads

section Copies

variable {lookup : String → Except NormalizeError Value}

theorem SlotType.copies_iff_agree {type : SlotType} {x y : type.Carrier} :
    type.Copies lookup x y ↔ Agree (fun s t => interpolate lookup s = .ok t) x y := by
  cases type with
  | flag => exact eq_comm
  | port => exact eq_comm
  | count => exact eq_comm
  | text => exact Iff.rfl
  | texts => exact Iff.rfl

theorem optionRel_copies_iff_agree {type : SlotType} {x y : Option type.Carrier} :
    Option.Rel (type.Copies lookup) x y ↔ Agree (fun s t => interpolate lookup s = .ok t) x y := by
  have heq : type.Copies lookup = Agree fun s t => interpolate lookup s = .ok t :=
    funext fun _ => funext fun _ => propext SlotType.copies_iff_agree
  rw [heq]
  exact Iff.rfl

/-- **Substituting the texts of a server makes a copy.** -/
theorem Server.traverse_eq_ok_iff_copiedWith {server copy : Server} :
    Strings.traverse (interpolate lookup) server = Except.ok copy ↔
      server.CopiedWith lookup copy := by
  rw [Server.traverse_eq_ok_iff]
  constructor
  · rintro ⟨hname, haddress, hspreads, h⟩
    have hport : server.port = copy.port := eq_of_agree_plain (h .port)
    exact ⟨hname, haddress, hport.symm, fun slot => optionRel_copies_iff_agree.2 (h (.option slot)),
      hspreads⟩
  · rintro ⟨hname, haddress, hport, hoptions, hspreads⟩
    refine ⟨hname, haddress, hspreads, fun p => ?_⟩
    cases p with
    | port =>
      change Agree _ server.port copy.port
      rw [hport]
      exact agree_refl _ _
    | option slot => exact optionRel_copies_iff_agree.1 (hoptions slot)

/-- Any choice of contents for the slots is that of some options. -/
theorem ServerOptions.exists_get_eq (content : (slot : ServerSlot) → Option slot.type.Carrier) :
    ∃ options : ServerOptions, ∀ slot, options.get slot = content slot := by
  -- the slots are set one after the other; the invariant is about those that were set already
  have hstep (slots : List ServerSlot) : ∃ options : ServerOptions, ∀ slot,
      options.get slot = if slot ∈ slots then content slot else none := by
    induction slots with
    | nil => exact ⟨{}, fun slot => by simp⟩
    | cons first slots ih =>
      obtain ⟨options, hoptions⟩ := ih
      cases hfirst : content first with
      | none =>
        refine ⟨options, fun slot => ?_⟩
        rw [hoptions]
        by_cases hslot : slot = first
        · subst hslot
          simp [hfirst]
        · simp [hslot]
      | some value =>
        refine ⟨options.set first value, fun slot => ?_⟩
        by_cases hslot : slot = first
        · subst hslot
          simp [hfirst]
        · rw [options.get_set_of_ne value hslot, hoptions]
          simp [hslot]
  obtain ⟨options, hoptions⟩ := hstep ServerSlot.all
  exact ⟨options, fun slot => by rw [hoptions, if_pos slot.mem_all]⟩

theorem SlotType.exists_copy_iff {type : SlotType} {x : Option type.Carrier} :
    (∃ y, Option.Rel (type.Copies lookup) x y) ↔
      ∀ s ∈ strings x, Returns (interpolate lookup s) := by
  cases x with
  | none => exact ⟨fun _ => List.forall_mem_nil _, fun _ => ⟨none, .none⟩⟩
  | some x =>
    have hsome : (∃ y, Option.Rel (type.Copies lookup) (some x) y) ↔ ∃ y, type.Copies lookup x y := by
      constructor
      · rintro ⟨_, hy⟩
        cases hy with
        | some hy => exact ⟨_, hy⟩
      · rintro ⟨y, hy⟩
        exact ⟨some y, .some hy⟩
    have hstrings : strings (some x) = strings x := List.append_nil _
    rw [hsome, hstrings]
    cases type with
    | flag => exact ⟨fun _ => List.forall_mem_nil _, fun _ => ⟨x, rfl⟩⟩
    | port => exact ⟨fun _ => List.forall_mem_nil _, fun _ => ⟨x, rfl⟩⟩
    | count => exact ⟨fun _ => List.forall_mem_nil _, fun _ => ⟨x, rfl⟩⟩
    | text =>
      have hmem : ∀ s, s ∈ strings (x : String) ↔ s = x := fun s => List.mem_singleton
      exact ⟨fun h s hs => (hmem s).1 hs ▸ h, fun h => h x ((hmem x).2 rfl)⟩
    | texts =>
      have hmapM : (∃ y, SlotType.Copies lookup .texts x y) ↔ Returns (x.mapM (interpolate lookup)) :=
        exists_congr fun y => mapM_eq_ok.symm
      rw [hmapM, returns_mapM_iff]
      refine forall_congr' fun s => ?_
      have hmem : s ∈ strings x ↔ s ∈ x := by simp [strings]
      rw [hmem]

/-- **A server can be copied if all its texts can be substituted.** -/
theorem Server.exists_copiedWith_iff {server : Server} :
    (∃ copy, server.CopiedWith lookup copy) ↔
      ∀ s ∈ strings server, Returns (interpolate lookup s) := by
  have hstrings : (∀ s ∈ strings server, Returns (interpolate lookup s)) ↔
      Returns (interpolate lookup server.name) ∧ Returns (interpolate lookup server.address) ∧
        ∀ slot, ∀ s ∈ strings (server.options.get slot), Returns (interpolate lookup s) := by
    change (∀ s ∈ [server.name] ++ ([server.address] ++ ServerSlot.all.flatMap fun slot =>
      strings (server.options.get slot)), Returns (interpolate lookup s)) ↔ _
    rw [List.forall_mem_append, List.forall_mem_append, List.forall_mem_flatMap,
      List.forall_mem_singleton, List.forall_mem_singleton]
    refine and_congr_right fun _ => and_congr_right fun _ => ?_
    exact ⟨fun h slot => h slot slot.mem_all, fun h slot _ => h slot⟩
  rw [hstrings]
  simp only [← SlotType.exists_copy_iff]
  constructor
  · rintro ⟨copy, hname, haddress, -, hoptions, -⟩
    exact ⟨⟨_, hname⟩, ⟨_, haddress⟩, fun slot => ⟨_, hoptions slot⟩⟩
  · rintro ⟨⟨name, hname⟩, ⟨address, haddress⟩, hslots⟩
    choose content hcontent using hslots
    obtain ⟨options, hoptions⟩ := ServerOptions.exists_get_eq content
    refine ⟨⟨name, address, server.port, options, server.spreads⟩, hname, haddress, rfl,
      fun slot => ?_, rfl⟩
    change Option.Rel _ _ (options.get slot)
    rw [hoptions]
    exact hcontent slot

end Copies

/-! ### The servers of loops and pools -/

section Unrolled

variable (globals : OrderedMap Value)

/-- **The servers that a loop stands for**: for each value a round, in which each server of the body
is copied. -/
def ServerLoop.Unrolls (loop : ServerLoop) (servers : List Server) : Prop :=
  ∃ values rounds, loop.iterable.Takes globals values ∧
    List.Forall₂ (fun value round =>
      List.Forall₂ (Server.CopiedWith (lookupInLoop globals loop.binder value)) loop.body round)
      values rounds ∧
    servers = rounds.flatten

/-- **A pool and what it is after unrolling.** -/
structure Pool.Unrolled (pool result : Pool) : Prop where
  servers : ∃ generated, List.Forall₂ (ServerLoop.Unrolls globals) pool.loops generated ∧
    result.servers = pool.servers ++ generated.flatten
  loops : result.loops = []
  rest : result = { pool with servers := result.servers, loops := result.loops }

/-- A loop whose values can be told, and whose texts can all be substituted for each of them. -/
def ServerLoop.Unrollable (loop : ServerLoop) : Prop :=
  ∃ values, loop.iterable.Takes globals values ∧ ∀ value ∈ values, ∀ server ∈ loop.body,
    ∀ s ∈ strings server, Returns (interpolate (lookupInLoop globals loop.binder value) s)

variable {globals}

theorem ServerLoop.servers_eq_ok_iff {loop : ServerLoop} {servers : List Server} :
    loop.servers globals = .ok servers ↔ loop.Unrolls globals servers := by
  rw [ServerLoop.servers, ServerLoop.Unrolls]
  simp only [bind_eq_ok, pure_eq_ok_iff, ServerLoop.values_eq_ok_iff, mapM_eq_ok,
    Server.instantiate, Server.traverse_eq_ok_iff_copiedWith]
  constructor
  · rintro ⟨values, hvalues, rounds, hrounds, rfl⟩
    exact ⟨values, rounds, hvalues, hrounds, rfl⟩
  · rintro ⟨values, rounds, hvalues, hrounds, rfl⟩
    exact ⟨values, hvalues, rounds, hrounds, rfl⟩

theorem ServerLoop.returns_servers_iff {loop : ServerLoop} :
    Returns (loop.servers globals) ↔ loop.Unrollable globals := by
  rw [ServerLoop.servers, returns_bind_iff, ServerLoop.Unrollable]
  simp only [ServerLoop.values_eq_ok_iff, returns_bind_pure_iff, returns_mapM_iff]
  refine exists_congr fun values => and_congr_right fun _ => ?_
  refine forall₂_congr fun value _ => forall₂_congr fun server _ => ?_
  rw [← Server.exists_copiedWith_iff]
  exact exists_congr fun copy => Server.traverse_eq_ok_iff_copiedWith

/-- **The number of servers that a loop over a range stands for.** -/
theorem ServerLoop.Unrolls.length {loop : ServerLoop} {servers : List Server}
    (h : loop.Unrolls globals servers) {start stop : Bound} {a b : Int64}
    (hrange : loop.iterable = .range start stop) (ha : start.Denotes globals a)
    (hb : stop.Denotes globals b) :
    (servers.length : Int) = max 0 (b.toInt - a.toInt + 1) * loop.body.length := by
  obtain ⟨values, rounds, hvalues, hrounds, rfl⟩ := h
  -- each value gives a round as long as the body
  have hlength : rounds.flatten.length = values.length * loop.body.length := by
    clear hvalues
    induction hrounds with
    | nil => simp
    | cons hround _ ih =>
      rw [List.flatten_cons, List.length_append, ih, ← hround.length_eq, List.length_cons]
      ring
  rw [hrange] at hvalues
  cases hvalues with
  | @range _ _ a' b' ns ha' hb' hns =>
    cases ha.unique ha'
    cases hb.unique hb'
    rw [hlength, List.length_map, Nat.cast_mul, hns.length]

theorem Pool.unroll_eq_ok_iff {pool result : Pool} :
    pool.unroll globals = .ok result ↔ pool.Unrolled globals result := by
  rw [Pool.unroll]
  simp only [bind_eq_ok, pure_eq_ok_iff, mapM_eq_ok, ServerLoop.servers_eq_ok_iff]
  constructor
  · rintro ⟨generated, hgenerated, rfl⟩
    exact ⟨⟨generated, hgenerated, rfl⟩, rfl, rfl⟩
  · rintro ⟨⟨generated, hgenerated, hservers⟩, hloops, hrest⟩
    refine ⟨generated, hgenerated, ?_⟩
    rw [hrest, hservers, hloops]

theorem Pool.returns_unroll_iff {pool : Pool} :
    Returns (pool.unroll globals) ↔ ∀ loop ∈ pool.loops, loop.Unrollable globals := by
  rw [Pool.unroll, returns_bind_pure_iff, returns_mapM_iff]
  exact forall₂_congr fun loop _ => ServerLoop.returns_servers_iff

end Unrolled

/-- **Unrolling in closed form.** It returns exactly if each loop of each pool has its values and
the texts of its body can be substituted for each of them. It changes the pools only: a pool keeps
its servers, gets the copies for its loops behind them, and has no loops any more. A loop over a
range stands for as many copies of its body as there are integers in the range. -/
theorem Configuration.unroll_closedForm (config : Configuration) :
    (Returns config.unroll ↔
        ∀ named ∈ config.pools, ∀ loop ∈ named.2.loops, loop.Unrollable config.definitions) ∧
      (∀ result, config.unroll = .ok result ↔
        config.PoolsChanged (Pool.Unrolled config.definitions) result) ∧
      ∀ (loop : ServerLoop) (servers : List Server) (start stop : Bound) (a b : Int64),
        loop.Unrolls config.definitions servers → loop.iterable = .range start stop →
        start.Denotes config.definitions a → stop.Denotes config.definitions b →
        (servers.length : Int) = max 0 (b.toInt - a.toInt + 1) * loop.body.length := by
  refine ⟨?_, fun result => ?_, fun loop servers start stop a b h hrange ha hb =>
    h.length hrange ha hb⟩
  · rw [Configuration.unroll, Configuration.returns_mapPoolsM_iff]
    exact forall₂_congr fun named _ => Pool.returns_unroll_iff
  · have hpools : Pool.Unrolled config.definitions =
        fun pool pool' => pool.unroll config.definitions = .ok pool' :=
      funext fun _ => funext fun _ => propext Pool.unroll_eq_ok_iff.symm
    rw [Configuration.unroll, Configuration.mapPoolsM_eq_ok_iff_poolsChanged, hpools]

/-- A loop over a range whose variable hides another one. -/
def hidingLoop : ServerLoop where
  binder := "i"
  iterable := .range (.integer 1) (.expr "$\x7bn\x7d")
  body := [
    { name := "w$\x7bi\x7d"
      address := "10.0.0.$\x7bi\x7d"
      port := some 80
      options := { weight := some 5, alpn := some ["$\x7bi + n\x7d"] }
      spreads := ["t$\x7bi\x7d"] }]

/-- A backend with a server, a loop over a range, a loop over a list and a loop without values. -/
def loopingBackend : Configuration where
  definitions := .ofList [("i", .text "outer"), ("n", .integer 2)]
  backends := [
    { name := "app"
      pool := {
        servers := [{ name := "a", address := "$\x7bi\x7d" }]
        loops := [
          hidingLoop,
          ⟨"j", .list [.text "$\x7bn + 1\x7d"],
            [{ name := "$\x7bi\x7d", address := "$\x7bj\x7d" }]⟩,
          ⟨"k", .range (.integer 3) (.integer 1),
            [{ name := "$\x7bnothing\x7d", address := "" }]⟩] } }]

/-- The copies for the range. -/
def hidingServers : List Server := [
  { name := "w1", address := "10.0.0.1", port := some 80,
    options := { weight := some 5, alpn := some ["3"] }, spreads := ["t$\x7bi\x7d"] },
  { name := "w2", address := "10.0.0.2", port := some 80,
    options := { weight := some 5, alpn := some ["4"] }, spreads := ["t$\x7bi\x7d"] }]

/-- The backend with its loops unrolled. -/
def unrolledBackend : Configuration where
  definitions := .ofList [("i", .text "outer"), ("n", .integer 2)]
  backends := [
    { name := "app"
      pool := {
        servers := [{ name := "a", address := "$\x7bi\x7d" }] ++ hidingServers ++
          [{ name := "outer", address := "3" }] } }]

theorem Configuration.unroll_closedForm_loopingBackend :
    loopingBackend.unroll = .ok unrolledBackend ∧
      loopingBackend.PoolsChanged (Pool.Unrolled loopingBackend.definitions) unrolledBackend ∧
      hidingLoop.Unrolls loopingBackend.definitions hidingServers ∧
      (hidingServers.length : Int) =
        max 0 ((2 : Int64).toInt - (1 : Int64).toInt + 1) * hidingLoop.body.length := by
  have hunroll : loopingBackend.unroll = .ok unrolledBackend := by cbv
  have hservers : hidingLoop.servers loopingBackend.definitions = .ok hidingServers := by cbv
  have hunrolls := ServerLoop.servers_eq_ok_iff.1 hservers
  have hstop : (Bound.expr "$\x7bn\x7d").Denotes loopingBackend.definitions 2 := .value (by cbv)
  obtain ⟨-, hresult, hlength⟩ := Configuration.unroll_closedForm loopingBackend
  exact ⟨hunroll, (hresult _).1 hunroll, hunrolls,
    hlength _ _ _ _ _ _ hunrolls rfl (.integer 1) hstop⟩

end Balancer
