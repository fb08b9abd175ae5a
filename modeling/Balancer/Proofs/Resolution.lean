import Balancer.Normal.Variables
import Balancer.Proofs.OrderedMap
import Balancer.Proofs.References

/-!
# Resolution on demand

Resolution asks for one variable after another, and for the variables that their values mention,
with a memory of what is resolved and a stack of what is being resolved. This file says what such a
run comes to, in both of its ends at once (`Balancer.Resolver.ends_resolve`):

* if it ends well, every variable has got a value that follows by the one rule of `Resolves`: the
  value is what substitution makes of the declared one out of values that follow before it. The
  memory and the stack do not occur in the rule, and neither does an order of the variables;
* if it stops at an error, the error is **genuine**: a reported cycle is one of references among
  declared variables (`IsCycle`), a name reported as undefined is not declared, and the only other
  errors are those of substitution itself.

One invariant of the stack carries the second (`OnStack`): its names are declared and different from
one another, each refers to the next, and the last to the variable that is asked for. A name that is
asked for while it is on the stack therefore closes a cycle, which is cut out of the stack. Since
the stack is never longer than the list of declared names, the bound of its depth is not reached.
-/

namespace Balancer

theorem OrderedMap.lookupVariable_eq_ok {scope : OrderedMap Value} {name : String} {v : Value} :
    scope.lookupVariable name = .ok v ↔ scope.get? name = some v := by
  rw [lookupVariable]
  split
  · rename_i value hvalue
    rw [hvalue]
    exact ⟨fun h => congrArg _ (Except.ok.inj h), fun h => congrArg _ (Option.some.inj h)⟩
  · rename_i hnone
    rw [hnone]
    exact ⟨nofun, nofun⟩

namespace Resolver

/-! ### References and cycles -/

/-- **A variable refers to a name** when its declared value mentions it. -/
def References (declared : OrderedMap Value) (name other : String) : Prop :=
  ∃ value, declared.get? name = some value ∧ value.Mentions other

/-- **A cycle of references** among declared variables, written with the first name repeated at the
end. -/
structure IsCycle (declared : OrderedMap Value) (chain : List String) : Prop where
  mem_keys : ∀ name ∈ chain, name ∈ declared.keys
  references : chain.IsChain (References declared)
  two_le : 2 ≤ chain.length
  closed : chain.head? = chain.getLast?

/-- **Errors that have their cause in the declarations.** -/
def Genuine (declared : OrderedMap Value) : NormalizeError → Prop
  | .variableCycle chain => IsCycle declared chain
  | .undefinedVariable name => name ∉ declared.keys
  | e => e.IsLocal

theorem genuine_of_isLocal (declared : OrderedMap Value) (e : NormalizeError) (h : e.IsLocal) :
    Genuine declared e := by
  cases e with
  | variableCycle chain => exact h.elim
  | undefinedVariable name => exact h.elim
  | _ => exact h

/-! ### The stack -/

/-- A stack of declared names, each once, is not longer than the declarations. -/
theorem length_le_size {declared : OrderedMap Value} {stack : List String} (hnodup : stack.Nodup)
    (hkeys : ∀ name ∈ stack, name ∈ declared.keys) : stack.length ≤ declared.size := by
  rw [← declared.length_keys]
  exact (hnodup.subperm hkeys).length_le

/-- **The invariant of the stack** while `name` is asked for: a path of references among declared
variables that leads to `name`, with `depth` places left. -/
structure OnStack (declared : OrderedMap Value) (depth : Nat) (stack : List String)
    (name : String) : Prop where
  nodup : stack.Nodup
  mem_keys : ∀ other ∈ stack, other ∈ declared.keys
  chain : (stack ++ [name]).IsChain (References declared)
  depth : stack.length + depth = declared.size

namespace OnStack

variable {declared : OrderedMap Value} {depth : Nat} {stack : List String} {name : String}

theorem nil (declared : OrderedMap Value) (name : String) :
    OnStack declared declared.size [] name where
  nodup := List.nodup_nil
  mem_keys _ h := absurd h List.not_mem_nil
  chain := .singleton name
  depth := Nat.zero_add _

theorem nodup_append (h : OnStack declared depth stack name) (hname : name ∉ stack) :
    (stack ++ [name]).Nodup :=
  List.nodup_append.2 ⟨h.nodup, by simp, fun a ha b hb hab =>
    hname (List.mem_singleton.1 hb ▸ hab ▸ ha)⟩

theorem mem_keys_append (h : OnStack declared depth stack name) (hname : name ∈ declared.keys) :
    ∀ other ∈ stack ++ [name], other ∈ declared.keys := by
  intro other hother
  rcases List.mem_append.1 hother with hother | hother
  · exact h.mem_keys other hother
  · exact List.mem_singleton.1 hother ▸ hname

/-- A declared variable that is not on the stack has a place on it. -/
theorem depth_pos (h : OnStack declared depth stack name) (hname : name ∉ stack)
    (hdeclared : name ∈ declared.keys) : 0 < depth := by
  have hlength := length_le_size (h.nodup_append hname) (h.mem_keys_append hdeclared)
  rw [List.length_append, List.length_singleton] at hlength
  have := h.depth
  omega

/-- The name goes on the stack, and one that it refers to is asked for. -/
theorem push (h : OnStack declared (depth + 1) stack name) (hname : name ∉ stack)
    (hdeclared : name ∈ declared.keys) {other : String}
    (hother : References declared name other) :
    OnStack declared depth (stack ++ [name]) other where
  nodup := h.nodup_append hname
  mem_keys := h.mem_keys_append hdeclared
  chain := by
    refine h.chain.append (.singleton other) ?_
    intro x hx y hy
    rw [List.getLast?_concat, Option.mem_some_iff] at hx
    rw [List.head?_cons, Option.mem_some_iff] at hy
    exact hx ▸ hy ▸ hother
  depth := by
    have := h.depth
    rw [List.length_append, List.length_singleton]
    omega

/-- **A name on the stack closes a cycle.** -/
theorem isCycle (h : OnStack declared depth stack name) (hname : name ∈ stack) :
    IsCycle declared (cycle stack name) := by
  -- the cycle starts where the name stands first, and what comes before only leads to it
  obtain ⟨before, after, rfl, hbefore⟩ := List.eq_append_cons_of_mem hname
  have hdrop : (before ++ name :: after).dropWhile (· != name) = name :: after := by
    rw [List.dropWhile_append_of_pos (by simpa using fun a ha => ne_of_mem_of_not_mem ha hbefore)]
    simp
  have hcycle : cycle (before ++ name :: after) name = name :: (after ++ [name]) := by
    rw [cycle, hdrop, List.cons_append]
  have hchain := h.chain
  rw [List.append_assoc, List.cons_append] at hchain
  rw [hcycle]
  refine ⟨fun other hother => ?_, hchain.right_of_append, by simp, ?_⟩
  · refine h.mem_keys_append (h.mem_keys name hname) other ?_
    rw [List.append_assoc, List.cons_append]
    exact List.mem_append_right before hother
  · rw [← List.cons_append, List.getLast?_concat, List.cons_append, List.head?_cons]

end OnStack

/-! ### Values that follow from the declarations -/

/-- **The rule of resolution**: a variable has the value that substitution makes of its declared
value, out of values that follow by the rule. -/
inductive Resolves (declared : OrderedMap Value) : String → Value → Prop
  | intro {name : String} {value w : Value} {known : OrderedMap Value}
    (hvalue : declared.get? name = some value)
    (hknown : ∀ other u, known.get? other = some u → Resolves declared other u)
    (hw : interpolateValue known.lookupVariable value = .ok w) : Resolves declared name w

variable {declared : OrderedMap Value}

theorem Resolves.mem_keys {name : String} {w : Value} (h : Resolves declared name w) :
    name ∈ declared.keys := by
  obtain ⟨hvalue, -, -⟩ := h
  exact OrderedMap.mem_keys_iff.2 ⟨_, hvalue⟩

/-- At most one value follows for a variable. -/
theorem Resolves.unique {name : String} {v w : Value} (hv : Resolves declared name v)
    (hw : Resolves declared name w) : v = w := by
  induction hv generalizing w with
  | @intro name value v known hvalue _ hv ih =>
    obtain ⟨hvalue', hknown', hw⟩ := hw
    obtain rfl := Option.some.inj (hvalue.symm.trans hvalue')
    rw [← run_interpolateValue] at hv hw
    -- one query under two lookups, which by induction give no different answers
    refine Query.run_ok_unique (fun other u u' hu hu' => ?_) hv hw
    rw [OrderedMap.lookupVariable_eq_ok] at hu hu'
    exact ih other u hu (hknown' other u' hu')

/-! ### The memory -/

/-- What is remembered follows from the declarations. -/
def Justified (declared memory : OrderedMap Value) : Prop :=
  ∀ name w, memory.get? name = some w → Resolves declared name w

/-- **How the memory changes**: it grows, and stays justified. -/
structure Grows (declared memory memory' : OrderedMap Value) : Prop where
  justified : Justified declared memory'
  keeps : ∀ name w, memory.get? name = some w → memory'.get? name = some w

theorem Grows.refl {memory : OrderedMap Value} (h : Justified declared memory) :
    Grows declared memory memory :=
  ⟨h, fun _ _ => id⟩

theorem Grows.trans {m₁ m₂ m₃ : OrderedMap Value} (h : Grows declared m₁ m₂)
    (h' : Grows declared m₂ m₃) : Grows declared m₁ m₃ :=
  ⟨h'.justified, fun name w hw => h'.keeps name w (h.keeps name w hw)⟩

/-- A value that was not known before and follows may be remembered. -/
theorem Grows.insert {m₁ m₂ : OrderedMap Value} {name : String} {w : Value}
    (h : Grows declared m₁ m₂) (hnone : m₁.get? name = none) (hw : Resolves declared name w) :
    Grows declared m₁ (m₂.insert name w) where
  justified other u hu := by
    by_cases heq : other = name
    · rw [heq, OrderedMap.get?_insert_self, Option.some.injEq] at hu
      rw [heq, ← hu]
      exact hw
    · rw [OrderedMap.get?_insert_of_ne _ _ heq] at hu
      exact h.justified other u hu
  keeps other u hu := by
    have hne : other ≠ name := by
      rintro rfl
      rw [hnone] at hu
      exact nomatch hu
    rw [OrderedMap.get?_insert_of_ne _ _ hne]
    exact h.keeps other u hu

/-- **Answering a question well**: the memory grows, and the answer is in it afterwards. -/
def Answers (declared memory : OrderedMap Value) (name : String) (x : Value × OrderedMap Value) :
    Prop :=
  Grows declared memory x.2 ∧ x.2.get? name = some x.1

/-- **A query in a growing memory** comes to the value that the memory gives it at the end: what has
been answered before is still there. -/
theorem ends_run_query {α : Type} {N : String → Prop} {lookup : String → Memo Value}
    {q : Query α} (hq : q.Within N (Genuine declared))
    (hlookup : ∀ name, N name → ∀ memory, Justified declared memory →
      Ends (Answers declared memory name) (Genuine declared) ((lookup name).run memory))
    {memory : OrderedMap Value} (hmemory : Justified declared memory) :
    Ends (fun x => Grows declared memory x.2 ∧ q.run x.2.lookupVariable = .ok x.1)
      (Genuine declared) ((q.run lookup).run memory) := by
  induction q generalizing memory with
  | done a => exact .ok ⟨.refl hmemory, rfl⟩
  | fail e => exact .error hq
  | ask name next ih =>
    rw [Query.run, StateT.run_bind]
    refine (hlookup name hq.1 memory hmemory).bind fun x hx => ?_
    obtain ⟨hgrows, hanswer⟩ := hx
    refine (ih x.1 (hq.2 x.1) hgrows.justified).mono fun y hy => ?_
    obtain ⟨hgrows', hrun⟩ := hy
    -- the rest of the query has kept the answer, so the last memory gives it as well
    refine ⟨hgrows.trans hgrows', bind_eq_ok.2 ⟨x.1, ?_, hrun⟩⟩
    exact OrderedMap.lookupVariable_eq_ok.2 (hgrows'.keeps name x.1 hanswer)

/-! ### One variable -/

section Get

variable {depth : Nat} {stack : List String} {name : String} {value : Value}
  {memory : OrderedMap Value}

theorem run_get_bind {α : Type} (f : OrderedMap Value → Memo α) (memory : OrderedMap Value) :
    ((StateT.get : Memo (OrderedMap Value)) >>= f).run memory = (f memory).run memory := rfl

theorem run_get_of_known (h : memory.get? name = some value) :
    (get declared depth stack name).run memory = .ok (value, memory) := by
  rw [get, run_get_bind]
  simp only [h]
  rfl

theorem run_get_of_undeclared (hmemory : memory.get? name = none)
    (h : declared.get? name = none) :
    (get declared depth stack name).run memory = .error (.undefinedVariable name) := by
  rw [get, run_get_bind]
  simp only [hmemory, h]
  rfl

theorem run_get_of_mem_stack (hmemory : memory.get? name = none)
    (h : declared.get? name = some value) (hstack : name ∈ stack) :
    (get declared depth stack name).run memory = .error (.variableCycle (cycle stack name)) := by
  rw [get, run_get_bind]
  simp only [hmemory, h, List.contains_iff_mem, hstack, if_true]
  rfl

theorem run_get_of_declared (hmemory : memory.get? name = none)
    (h : declared.get? name = some value) (hstack : name ∉ stack) :
    (get declared (depth + 1) stack name).run memory =
      (interpolateValue (get declared depth (stack ++ [name])) value).run memory >>= fun x =>
        .ok (x.1, x.2.insert name x.1) := by
  rw [get, run_get_bind]
  simp only [hmemory, h, List.contains_iff_mem, hstack, if_false]
  rfl

/-- Asking ends at once unless the variable is declared, not known and not on the stack. -/
theorem ends_get_cases (hstack : OnStack declared depth stack name)
    (hmemory : Justified declared memory) :
    Ends (Answers declared memory name) (Genuine declared)
        ((get declared depth stack name).run memory) ∨
      ∃ value, memory.get? name = none ∧ declared.get? name = some value ∧ name ∉ stack := by
  cases hknown : memory.get? name with
  | some w =>
    rw [run_get_of_known hknown]
    exact Or.inl (.ok ⟨.refl hmemory, hknown⟩)
  | none =>
    cases hvalue : declared.get? name with
    | none =>
      rw [run_get_of_undeclared hknown hvalue]
      exact Or.inl (.error (OrderedMap.get?_eq_none_iff.1 hvalue))
    | some value =>
      by_cases hname : name ∈ stack
      · rw [run_get_of_mem_stack hknown hvalue hname]
        exact Or.inl (.error (hstack.isCycle hname))
      · exact Or.inr ⟨value, rfl, rfl, hname⟩

/-- A variable that is declared, not known and not on the stack, with an induction hypothesis for
the variables that it refers to. -/
theorem ends_get_of_declared (hstack : OnStack declared (depth + 1) stack name)
    (hmemory : Justified declared memory) (hunknown : memory.get? name = none)
    (hvalue : declared.get? name = some value) (hname : name ∉ stack)
    (ih : ∀ other memory, OnStack declared depth (stack ++ [name]) other →
      Justified declared memory → Ends (Answers declared memory other) (Genuine declared)
        ((get declared depth (stack ++ [name]) other).run memory)) :
    Ends (Answers declared memory name) (Genuine declared)
      ((get declared (depth + 1) stack name).run memory) := by
  have hdeclared : name ∈ declared.keys := OrderedMap.mem_keys_iff.2 ⟨value, hvalue⟩
  have hwithin : (interpolateValue Query.question value).Within (References declared name)
      (Genuine declared) :=
    (within_interpolateValue value fun other h => ⟨value, hvalue, h⟩).mono
      (genuine_of_isLocal declared)
  -- with `name` on the stack, only names that it refers to are asked for
  have hquery := ends_run_query hwithin
    (fun other hother memory => ih other memory (hstack.push hname hdeclared hother)) hmemory
  rw [run_interpolateValue] at hquery
  rw [run_get_of_declared hunknown hvalue hname]
  refine hquery.bind fun x hx => .ok ?_
  obtain ⟨hgrows, hrun⟩ := hx
  rw [run_interpolateValue] at hrun
  have hresolves : Resolves declared name x.1 := .intro hvalue hgrows.justified hrun
  exact ⟨hgrows.insert hunknown hresolves, OrderedMap.get?_insert_self ..⟩

/-- **What asking for a variable comes to.** The depth counts down with each variable that goes on
the stack, and it is not used up before a name comes back. -/
theorem ends_get (hstack : OnStack declared depth stack name)
    (hmemory : Justified declared memory) :
    Ends (Answers declared memory name) (Genuine declared)
      ((get declared depth stack name).run memory) := by
  induction depth generalizing stack name memory with
  | zero =>
    rcases ends_get_cases hstack hmemory with h | ⟨_, -, hvalue, hname⟩
    · exact h
    · have := hstack.depth_pos hname (OrderedMap.mem_keys_iff.2 ⟨_, hvalue⟩)
      omega
  | succ depth ih =>
    rcases ends_get_cases hstack hmemory with h | ⟨value, hunknown, hvalue, hname⟩
    · exact h
    · exact ends_get_of_declared hstack hmemory hunknown hvalue hname fun _ _ => ih

end Get

/-! ### All variables -/

theorem run_discard_bind {α β : Type} (x : Memo α) (f : PUnit → Memo β)
    (memory : OrderedMap Value) :
    (discard x >>= f).run memory = x.run memory >>= fun y => (f ⟨⟩).run y.2 := by
  have hdiscard : (discard x).run memory = x.run memory >>= fun y => .ok (⟨⟩, y.2) := rfl
  rw [StateT.run_bind, hdiscard, bind_assoc]
  rfl

/-- Asking for names one after the other leaves them all in the memory. -/
theorem ends_forM_get (names : List String) {memory : OrderedMap Value}
    (hmemory : Justified declared memory) :
    Ends (fun x => Grows declared memory x.2 ∧ ∀ name ∈ names, name ∈ x.2.keys) (Genuine declared)
      ((names.forM fun name => discard (get declared declared.size [] name)).run memory) := by
  induction names generalizing memory with
  | nil => exact .ok ⟨.refl hmemory, fun _ h => absurd h List.not_mem_nil⟩
  | cons name names ih =>
    rw [List.forM, run_discard_bind]
    refine (ends_get (.nil declared name) hmemory).bind fun x hx => ?_
    obtain ⟨hgrows, hname⟩ := hx
    refine (ih hgrows.justified).mono fun y hy => ?_
    obtain ⟨hgrows', hnames⟩ := hy
    have hkept := OrderedMap.mem_keys_iff.2 ⟨x.1, hgrows'.keeps name x.1 hname⟩
    exact ⟨hgrows.trans hgrows', List.forall_mem_cons.2 ⟨hkept, hnames⟩⟩

/-- **What resolution comes to**: values that follow for exactly the declared names, in their order,
or a genuine error. -/
theorem ends_resolve (declared : OrderedMap Value) :
    Ends (fun resolved => resolved.keys = declared.keys ∧ Justified declared resolved)
      (Genuine declared) (resolve declared) := by
  have hempty : Justified declared ∅ := fun _ _ h => nomatch h
  refine (ends_forM_get declared.keys hempty).bind fun x hx => .ok ?_
  obtain ⟨hgrows, hall⟩ := hx
  refine ⟨declared.keys_withValues_map _, fun name w hw => ?_⟩
  rw [OrderedMap.get?_withValues_map, Option.map_eq_some_iff] at hw
  obtain ⟨value, hvalue, rfl⟩ := hw
  have hname : name ∈ declared.keys := OrderedMap.mem_keys_iff.2 ⟨value, hvalue⟩
  obtain ⟨w, hw⟩ := OrderedMap.mem_keys_iff.1 (hall name hname)
  change Resolves declared name ((x.2.get? name).getD value)
  rw [hw, Option.getD_some]
  exact hgrows.justified name w hw

end Resolver

end Balancer
