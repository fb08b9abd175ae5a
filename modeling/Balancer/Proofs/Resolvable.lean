import Balancer.Proofs.Cycles
import Balancer.Proofs.Escaping

/-!
# When variables can be resolved

Resolution asks for the variables in the order in which they are declared, and what it asks for on
the way depends on that order, down to the error that it stops at. Whether it succeeds does not:
it succeeds exactly when a value follows for every declared variable by the rule of `Resolves`
(`Resolver.exists_resolve_iff`), and the rule looks declarations up by name only.

So declarations in which the same values are found under the same names are resolved alike
(`Resolver.resolve_eq_ok_of_same`), whatever their order. Declarations without markers stand for
themselves (`Resolver.resolve_of_unmarked`).
-/

namespace Balancer

namespace Resolver

variable {declared : OrderedMap Value} {depth : Nat} {stack : List String} {name : String}

/-! ### A variable with a value is resolved -/

/-- A variable for which a value follows is never asked for while it is on the stack: it would be
on a circle of references. -/
theorem OnStack.not_mem_of_resolves {w : Value} (h : OnStack declared depth stack name)
    (hw : Resolves declared name w) : name ∉ stack := by
  intro hmem
  obtain ⟨before, after, rfl⟩ := List.append_of_mem hmem
  have hchain := h.chain
  rw [List.append_assoc, List.cons_append] at hchain
  have hreached : (name :: (after ++ [name])).Pairwise (Relation.TransGen (References declared)) :=
    (hchain.right_of_append.imp fun _ _ => Relation.TransGen.single).pairwise
  exact not_transGen_of_acc hw.acc (List.rel_of_pairwise_cons hreached (by simp))

/-- **A query that comes to a value among known values** comes to one with a memory as well, if each
known name can be asked for there. -/
theorem exists_run_query {α : Type} {N : String → Prop} {known : OrderedMap Value}
    {lookup : String → Memo Value} {q : Query α} {a : α}
    (hknown : ∀ other u, known.get? other = some u → Resolves declared other u)
    (hlookup : ∀ other u, N other → known.get? other = some u → ∀ memory,
      Justified declared memory →
        ∃ x, (lookup other).run memory = .ok x ∧ Answers declared memory other x)
    (hq : q.Within N (Genuine declared)) (hrun : q.run known.lookupVariable = .ok a)
    {memory : OrderedMap Value} (hmemory : Justified declared memory) :
    ∃ x, (q.run lookup).run memory = .ok x := by
  induction q generalizing memory with
  | done b => exact ⟨(b, memory), rfl⟩
  | fail e => exact nomatch hrun
  | ask other next ih =>
    obtain ⟨u, hu, hnext⟩ := bind_eq_ok.1 hrun
    rw [OrderedMap.lookupVariable_eq_ok] at hu
    obtain ⟨x, hx, hgrows, hanswer⟩ := hlookup other u hq.1 hu memory hmemory
    -- only one value follows for the name, so the memory gives the answer that is known
    obtain rfl : x.1 = u := (hgrows.justified other x.1 hanswer).unique (hknown other u hu)
    obtain ⟨y, hy⟩ := ih x.1 (hq.2 x.1) hnext hgrows.justified
    refine ⟨y, ?_⟩
    rw [Query.run, StateT.run_bind]
    exact bind_eq_ok.2 ⟨x, hx, hy⟩

/-- **Asking for a variable for which a value follows succeeds.** The induction is on how the value
follows, so the variables that are asked for on the way are covered. -/
theorem Resolves.exists_get {w : Value} (hw : Resolves declared name w)
    (hstack : OnStack declared depth stack name) {memory : OrderedMap Value}
    (hmemory : Justified declared memory) :
    ∃ x, (get declared depth stack name).run memory = .ok x ∧ Answers declared memory name x := by
  suffices h : ∃ x, (get declared depth stack name).run memory = .ok x by
    obtain ⟨x, hx⟩ := h
    exact ⟨x, hx, (ends_get hstack hmemory).of_ok hx⟩
  induction hw generalizing depth stack memory with
  | @intro name value w known hvalue hknown hrun ih =>
    have hname : name ∉ stack := hstack.not_mem_of_resolves (.intro hvalue hknown hrun)
    have hdeclared : name ∈ declared.keys := OrderedMap.mem_keys_iff.2 ⟨value, hvalue⟩
    cases hget : memory.get? name with
    | some u => exact ⟨(u, memory), run_get_of_known hget⟩
    | none =>
      obtain ⟨depth, rfl⟩ : ∃ d, depth = d + 1 :=
        Nat.exists_eq_succ_of_ne_zero (hstack.depth_pos hname hdeclared).ne'
      have hwithin : (interpolateValue Query.question value).Within (References declared name)
          (Genuine declared) :=
        (within_interpolateValue value fun other h => ⟨value, hvalue, h⟩).mono
          (genuine_of_isLocal declared)
      rw [← run_interpolateValue] at hrun
      obtain ⟨x, hx⟩ := exists_run_query hknown
        (fun other u hother hu memory hmemory => by
          have hpush := hstack.push hname hdeclared hother
          obtain ⟨x, hx⟩ := ih other u hu hpush hmemory
          exact ⟨x, hx, (ends_get hpush hmemory).of_ok hx⟩)
        hwithin hrun hmemory
      rw [run_interpolateValue] at hx
      rw [run_get_of_declared hget hvalue hname, hx]
      exact ⟨(x.1, x.2.insert name x.1), rfl⟩

/-! ### All variables -/

theorem exists_forM_get {names : List String}
    (h : ∀ name ∈ names, ∃ w, Resolves declared name w) {memory : OrderedMap Value}
    (hmemory : Justified declared memory) :
    ∃ x, (names.forM fun name => discard (get declared declared.size [] name)).run memory =
      .ok x := by
  induction names generalizing memory with
  | nil => exact ⟨(⟨⟩, memory), rfl⟩
  | cons name names ih =>
    obtain ⟨⟨w, hw⟩, hnames⟩ := List.forall_mem_cons.1 h
    obtain ⟨x, hx, hgrows, -⟩ := hw.exists_get (.nil declared name) hmemory
    obtain ⟨y, hy⟩ := ih hnames hgrows.justified
    refine ⟨y, ?_⟩
    rw [List.forM, run_discard_bind, hx]
    exact hy

/-- **Variables can be resolved exactly when a value follows for each of them.** -/
theorem exists_resolve_iff :
    (∃ resolved, resolve declared = .ok resolved) ↔
      ∀ name ∈ declared.keys, ∃ w, Resolves declared name w := by
  constructor
  · rintro ⟨resolved, hresolved⟩ name hname
    obtain ⟨hkeys, hjustified⟩ := (ends_resolve declared).of_ok hresolved
    rw [← hkeys] at hname
    obtain ⟨w, hw⟩ := OrderedMap.mem_keys_iff.1 hname
    exact ⟨w, hjustified name w hw⟩
  · intro h
    have hempty : Justified declared ∅ := fun _ _ h => nomatch h
    obtain ⟨x, hx⟩ := exists_forM_get h hempty
    exact ⟨_, bind_eq_ok.2 ⟨x, hx, rfl⟩⟩

/-! ### Declarations without markers -/

/-- **Values without markers are resolved to themselves.** -/
theorem resolve_of_unmarked (h : ∀ value ∈ declared.values, value.unmarked = true) :
    resolve declared = .ok declared := by
  have hempty : Justified declared ∅ := fun _ _ h => nomatch h
  have hself : ∀ entry ∈ declared.entries, Resolves declared entry.1 entry.2 := by
    intro entry hentry
    have hplain := interpolateValue_of_unmarked (OrderedMap.lookupVariable ∅) entry.2
      (h entry.2 (List.mem_map_of_mem hentry))
    exact .intro (OrderedMap.get?_eq_some_iff.2 hentry) hempty hplain
  have hnames : ∀ name ∈ declared.keys, ∃ w, Resolves declared name w :=
    List.forall_mem_map.2 fun entry hentry => ⟨entry.2, hself entry hentry⟩
  obtain ⟨x, hx⟩ := exists_forM_get hnames hempty
  obtain ⟨hgrows, -⟩ := (ends_forM_get declared.keys hempty).of_ok hx
  have hvalues : (declared.entries.map fun entry => (x.2.get? entry.1).getD entry.2) =
      declared.values := by
    refine List.map_congr_left fun entry hentry => ?_
    cases hget : x.2.get? entry.1 with
    | none => rfl
    -- what is remembered follows from the declarations, and so does the declared value
    | some w => exact (hgrows.justified entry.1 w hget).unique (hself entry hentry)
  have hresolve : resolve declared = .ok (declared.withValues
      (declared.entries.map fun entry => (x.2.get? entry.1).getD entry.2)) :=
    bind_eq_ok.2 ⟨x, hx, rfl⟩
  rw [hresolve, hvalues, declared.withValues_values]

/-! ### Declarations in another order -/

variable {declared' : OrderedMap Value}

theorem Resolves.of_same (hsame : ∀ name, declared'.get? name = declared.get? name) {w : Value}
    (h : Resolves declared name w) : Resolves declared' name w := by
  induction h with
  | intro hvalue _ hw ih => exact .intro ((hsame _).trans hvalue) ih hw

/-- **The order of the declarations does not matter**: where the same values are declared under the
same names, the same values are found. -/
theorem resolve_eq_ok_of_same (hsame : ∀ name, declared'.get? name = declared.get? name)
    {resolved : OrderedMap Value} (h : resolve declared = .ok resolved) :
    ∃ resolved', resolve declared' = .ok resolved' ∧
      ∀ name, resolved'.get? name = resolved.get? name := by
  have hnames (name : String) : name ∈ declared'.keys ↔ name ∈ declared.keys := by
    simp only [OrderedMap.mem_keys_iff, hsame]
  obtain ⟨resolved', hresolved'⟩ := exists_resolve_iff.2 fun name hname => by
    obtain ⟨w, hw⟩ := exists_resolve_iff.1 ⟨resolved, h⟩ name ((hnames name).1 hname)
    exact ⟨w, hw.of_same hsame⟩
  obtain ⟨hkeys, hjustified⟩ := (ends_resolve declared).of_ok h
  obtain ⟨hkeys', hjustified'⟩ := (ends_resolve declared').of_ok hresolved'
  refine ⟨resolved', hresolved', fun name => ?_⟩
  by_cases hname : name ∈ declared.keys
  · obtain ⟨w, hw⟩ := OrderedMap.mem_keys_iff.1 (hkeys ▸ hname)
    obtain ⟨w', hw'⟩ := OrderedMap.mem_keys_iff.1 (hkeys' ▸ (hnames name).2 hname)
    rw [hw, hw', (hjustified' name w' hw').unique ((hjustified name w hw).of_same hsame)]
  · have hname' : name ∉ declared'.keys := fun h => hname ((hnames name).1 h)
    rw [← hkeys] at hname
    rw [← hkeys'] at hname'
    rw [OrderedMap.get?_eq_none_iff.2 hname, OrderedMap.get?_eq_none_iff.2 hname']

end Resolver

end Balancer
