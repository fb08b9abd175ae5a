import Balancer.Proofs.Resolution
import Balancer.Proofs.Substitution

/-!
# Resolved variables solve the declarations

Declarations are read as equations: each name stands for what substitution makes of its declared
value, where the names in it stand for their values in turn. A map of values **solves** the
declarations when it has the same names and satisfies every one of the equations with itself as the
lookup (`Resolver.Solves`). Nothing in this speaks of an order in which the variables are resolved.

The values that resolution finds are a solution, and they are the only one
(`Configuration.resolve_unique_solution`). That there is no other is what fails for equations that
go round in a circle, such as a variable declared as itself, which every value satisfies; it holds
here because each value follows by the rule of `Resolves`, and so has a derivation to induct on.
-/

namespace Balancer

namespace Resolver

variable {declared resolved : OrderedMap Value}

/-- **A solution of the declarations**: values for the declared names that satisfy the equations. -/
structure Solves (declared resolved : OrderedMap Value) : Prop where
  names : ∀ name, name ∈ resolved.keys ↔ name ∈ declared.keys
  equation : ∀ name value, declared.get? name = some value →
    resolved.lookupVariable name = interpolateValue resolved.lookupVariable value

/-- Substitution finds the same value among more values. -/
theorem interpolateValue_eq_ok_of_le {known : OrderedMap Value} {value w : Value}
    (hle : ∀ name u, known.get? name = some u → resolved.get? name = some u)
    (h : interpolateValue known.lookupVariable value = .ok w) :
    interpolateValue resolved.lookupVariable value = .ok w := by
  rw [← run_interpolateValue] at h ⊢
  refine Query.run_eq_ok_of_le (fun name u hu => ?_) h
  rw [OrderedMap.lookupVariable_eq_ok] at hu ⊢
  exact hle name u hu

/-- A value that follows is the value in every solution. -/
theorem Resolves.get?_of_solves {name : String} {w : Value} (h : Resolves declared name w)
    (hsolves : Solves declared resolved) : resolved.get? name = some w := by
  induction h with
  | @intro name value w known hvalue _ hw ih =>
    rw [← OrderedMap.lookupVariable_eq_ok, hsolves.equation name value hvalue]
    exact interpolateValue_eq_ok_of_le ih hw

/-- **Values that follow for all declared names are a solution.** -/
theorem solves_of_justified (hkeys : resolved.keys = declared.keys)
    (hjustified : Justified declared resolved) : Solves declared resolved where
  names name := by rw [hkeys]
  equation name value hvalue := by
    have hname : name ∈ resolved.keys := hkeys ▸ OrderedMap.mem_keys_iff.2 ⟨value, hvalue⟩
    obtain ⟨w, hw⟩ := OrderedMap.mem_keys_iff.1 hname
    obtain ⟨hvalue', hknown, hrun⟩ := hjustified name w hw
    obtain rfl := Option.some.inj (hvalue.symm.trans hvalue')
    rw [OrderedMap.lookupVariable_eq_ok.2 hw]
    refine (interpolateValue_eq_ok_of_le (fun other u hu => ?_) hrun).symm
    -- what the derivation of the value knows is what has been resolved
    have hother : other ∈ resolved.keys := hkeys ▸ (hknown other u hu).mem_keys
    obtain ⟨u', hu'⟩ := OrderedMap.mem_keys_iff.1 hother
    rw [hu', (hknown other u hu).unique (hjustified other u' hu')]

/-- **Values that follow for all declared names are the only solution.** -/
theorem get?_eq_of_solves (hkeys : resolved.keys = declared.keys)
    (hjustified : Justified declared resolved) {other : OrderedMap Value}
    (hsolves : Solves declared other) (name : String) : other.get? name = resolved.get? name := by
  cases hget : resolved.get? name with
  | some w => exact (hjustified name w hget).get?_of_solves hsolves
  | none =>
    rw [OrderedMap.get?_eq_none_iff, hkeys] at hget
    rw [OrderedMap.get?_eq_none_iff, hsolves.names]
    exact hget

end Resolver

/-- **Resolution finds the one solution of the declarations**, with the names in the order in which
they are declared. -/
theorem Configuration.resolve_unique_solution {config result : Configuration}
    (h : config.resolve = .ok result) :
    result.definitions.keys = config.definitions.keys ∧
      Resolver.Solves config.definitions result.definitions ∧
      ∀ other, Resolver.Solves config.definitions other →
        ∀ name, other.get? name = result.definitions.get? name := by
  obtain ⟨hdefinitions, -⟩ := Configuration.resolve_eq_ok h
  obtain ⟨hkeys, hjustified⟩ := (Resolver.ends_resolve config.definitions).of_ok hdefinitions
  refine ⟨hkeys, Resolver.solves_of_justified hkeys hjustified, fun other hother => ?_⟩
  exact Resolver.get?_eq_of_solves hkeys hjustified hother

/-- Variables that are declared before the ones they refer to, one of them in a list. -/
def chainedVariables : Configuration where
  definitions := .ofList
    [("url", .text "http://$\x7bhost\x7d/"),
      ("ports", .array [.text "$\x7bport\x7d", .text "$\x7bport + 1\x7d"]),
      ("host", .text "$\x7bbase\x7d:$\x7bport\x7d"),
      ("base", .text "app.test"),
      ("port", .integer 8080)]

/-- The values of these variables. -/
def chainedValues : Configuration where
  definitions := .ofList
    [("url", .text "http://app.test:8080/"),
      ("ports", .array [.integer 8080, .integer 8081]),
      ("host", .text "app.test:8080"),
      ("base", .text "app.test"),
      ("port", .integer 8080)]

theorem Configuration.resolve_unique_solution_chainedVariables :
    chainedVariables.resolve = .ok chainedValues ∧
      Resolver.Solves chainedVariables.definitions chainedValues.definitions ∧
      ∀ other, Resolver.Solves chainedVariables.definitions other →
        other.get? "url" = some (.text "http://app.test:8080/") := by
  have hresolve : chainedVariables.resolve = .ok chainedValues := by cbv
  obtain ⟨-, hsolves, hunique⟩ := Configuration.resolve_unique_solution hresolve
  exact ⟨hresolve, hsolves, fun other hother => (hunique other hother "url").trans rfl⟩

end Balancer
