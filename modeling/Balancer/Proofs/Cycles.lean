import Balancer.Proofs.Resolution
import Balancer.Proofs.Substitution

/-!
# Cycles and undefined names

Resolution of a configuration reports two kinds of errors about its variables, and this file says
that both are to be trusted, and that the first is never left out
(`Configuration.resolve_cycles_genuine`):

* where the references among the variables run in a circle, resolution fails, though perhaps with
  another error that it comes to first;
* a reported cycle is one, each name of it referring to the next and the last being the first;
* a name reported as undefined is not declared. Such a report may also come from a text of the
  configuration, which is substituted after the variables.

That no circle is missed does not come from the stack. A value that follows by the rule of
`Resolves` needs a value of every name that is mentioned, so the references from a resolved variable
are well-founded (`Resolves.acc`), whatever the resolver did to get there.
-/

namespace Balancer

namespace Resolver

variable {declared resolved : OrderedMap Value} {name : String}

/-! ### Resolved variables do not refer in a circle -/

/-- **References from a variable with a value are well-founded.** -/
theorem Resolves.acc {w : Value} (h : Resolves declared name w) :
    Acc (fun other name => References declared name other) name := by
  induction h with
  | @intro name value w known hvalue _ hw ih =>
    refine Acc.intro name fun other hother => ?_
    obtain ⟨value', hvalue', hmentions⟩ := hother
    obtain rfl := Option.some.inj (hvalue.symm.trans hvalue')
    rw [← run_interpolateValue] at hw
    -- the value came about, so the name it mentions was asked for and known
    obtain ⟨u, hu⟩ := (needs_interpolateValue hmentions).exists_answer hw
    exact ih other u (OrderedMap.lookupVariable_eq_ok.1 hu)

theorem not_transGen_of_acc
    (h : Acc (fun other name => References declared name other) name) :
    ¬Relation.TransGen (References declared) name name := by
  induction h with
  | intro name _ ih =>
    intro hcycle
    -- turn the circle by one step, so that it starts at a name that is referred to
    obtain ⟨other, hfirst, hrest⟩ := Relation.TransGen.head'_iff.1 hcycle
    exact ih other hfirst (Relation.TransGen.tail' hrest hfirst)

/-- A name on a circle of references is declared. -/
theorem mem_keys_of_transGen {other : String}
    (h : Relation.TransGen (References declared) name other) : name ∈ declared.keys := by
  obtain ⟨_, ⟨value, hvalue, -⟩, -⟩ := Relation.TransGen.head'_iff.1 h
  exact OrderedMap.mem_keys_iff.2 ⟨value, hvalue⟩

/-- **Declarations that refer in a circle have no resolution.** -/
theorem not_transGen_of_justified (hkeys : resolved.keys = declared.keys)
    (hjustified : Justified declared resolved) :
    ¬Relation.TransGen (References declared) name name := by
  intro hcycle
  have hname : name ∈ resolved.keys := hkeys ▸ mem_keys_of_transGen hcycle
  obtain ⟨w, hw⟩ := OrderedMap.mem_keys_iff.1 hname
  exact not_transGen_of_acc (hjustified name w hw).acc hcycle

/-! ### Errors of substitution -/

/-- Where a name is not found, it is not declared. -/
theorem ends_lookupVariable (hkeys : resolved.keys = declared.keys) (name : String) :
    Ends (fun _ => True) (Genuine declared) (resolved.lookupVariable name) := by
  rw [OrderedMap.lookupVariable]
  split
  · exact .ok trivial
  · rename_i hnone
    rw [OrderedMap.get?_eq_none_iff, hkeys] at hnone
    exact .error hnone

theorem ends_interpolate (hkeys : resolved.keys = declared.keys) (s : String) :
    Ends (fun _ => True) (Genuine declared) (interpolate resolved.lookupVariable s) := by
  rw [← run_interpolate]
  have hwithin : (interpolate Query.question s).Within (fun _ => True) (Genuine declared) :=
    (within_interpolate s fun _ _ => trivial).mono (genuine_of_isLocal declared)
  exact hwithin.ends_run fun name _ => ends_lookupVariable hkeys name

end Resolver

/-! ### Errors of resolution -/

/-- **What resolving a configuration comes to**: definitions that follow from those declared, or a
genuine error. -/
theorem Configuration.ends_resolve (config : Configuration) :
    Ends (fun result => result.definitions.keys = config.definitions.keys ∧
        Resolver.Justified config.definitions result.definitions)
      (Resolver.Genuine config.definitions) config.resolve := by
  refine (Resolver.ends_resolve config.definitions).bind fun definitions hdefinitions => ?_
  cases htraverse : (Strings.traverse (interpolate definitions.lookupVariable) config :
      Except NormalizeError Configuration) with
  | ok substituted => exact .ok hdefinitions
  | error e =>
    obtain ⟨s, hs⟩ := (Configuration.ends_traverse _ config).of_error htraverse
    exact .error ((Resolver.ends_interpolate hdefinitions.1 s).of_error hs)

/-- **Cycles are found, and errors about variables are genuine.** -/
theorem Configuration.resolve_cycles_genuine (config : Configuration) :
    ((∃ name, Relation.TransGen (Resolver.References config.definitions) name name) →
        ∃ e, config.resolve = .error e) ∧
      (∀ chain, config.resolve = .error (.variableCycle chain) →
        Resolver.IsCycle config.definitions chain) ∧
      ∀ name, config.resolve = .error (.undefinedVariable name) →
        name ∉ config.definitions.keys := by
  have hends := config.ends_resolve
  refine ⟨fun ⟨name, hcycle⟩ => ?_, fun chain => hends.of_error, fun name => hends.of_error⟩
  cases hresolve : config.resolve with
  | error e => exact ⟨e, rfl⟩
  | ok result =>
    obtain ⟨hkeys, hjustified⟩ := hends.of_ok hresolve
    exact absurd hcycle (Resolver.not_transGen_of_justified hkeys hjustified)

/-- Two variables that refer to each other from inside a list and an object, and a third that only
leads to them. -/
def loopingVariables : Configuration where
  definitions := .ofList
    [("entry", .text "at $\x7bleft\x7d"),
      ("left", .array [.text "$$\x7bentry\x7d", .text "$\x7b1 + right\x7d"]),
      ("right", .object [("back", .text "$\x7b-left\x7d")])]

/-- A variable and a description, of which the latter refers to a name that is not declared. -/
def danglingDescription : Configuration where
  definitions := .ofList [("port", .integer 80)]
  backends := [{ name := "app", body := { description := "$\x7bport\x7d and $\x7bpart\x7d" } }]

theorem Configuration.resolve_cycles_genuine_loopingVariables :
    loopingVariables.resolve = .error (.variableCycle ["left", "right", "left"]) ∧
      Resolver.IsCycle loopingVariables.definitions ["left", "right", "left"] ∧
      (Relation.TransGen (Resolver.References loopingVariables.definitions) "left" "left" ∧
        ∃ e, loopingVariables.resolve = .error e) ∧
      danglingDescription.resolve = .error (.undefinedVariable "part") ∧
      "part" ∉ danglingDescription.definitions.keys := by
  have hlooping : loopingVariables.resolve = .error (.variableCycle ["left", "right", "left"]) := by
    cbv
  have hdangling : danglingDescription.resolve = .error (.undefinedVariable "part") := by cbv
  obtain ⟨hfails, hgenuine, -⟩ := Configuration.resolve_cycles_genuine loopingVariables
  obtain ⟨-, -, hundefined⟩ := Configuration.resolve_cycles_genuine danglingDescription
  have hcycle := hgenuine _ hlooping
  have hreferences := hcycle.references
  rw [List.isChain_cons_cons, List.isChain_cons_cons] at hreferences
  have hturn : Relation.TransGen (Resolver.References loopingVariables.definitions) "left" "left" :=
    .head hreferences.1 (.single hreferences.2.1)
  exact ⟨hlooping, hcycle, ⟨hturn, hfails ⟨_, hturn⟩⟩, hdangling, hundefined _ hdangling⟩

end Balancer
