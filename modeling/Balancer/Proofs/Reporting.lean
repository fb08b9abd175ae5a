import Balancer.Proofs.Comparing

/-!
# What a position is used for

An object is read from its fields, and an expression is evaluated, at a position. The position is
there to report an error and for nothing else: at another position the same value comes out, or the
error has the same cause and stands at the other position (`ReportsAlike`). This is a comparison in
which the same fields at two positions can be compared (`Fields.compares_moved`); for the objects
that are read from them it comes to `ObjectKind.alike_read`. For expressions the statement is
`Expr.alike_evaluate`.
-/

namespace Balancer

/-- The error with another position. -/
def BuildError.placedAt (position : Option Position) : BuildError → BuildError
  | unknownDirective directive _ => unknownDirective directive position
  | misplaced directive place _ => misplaced directive place position
  | unknownKey key directive _ => unknownKey key directive position
  | missing directive need _ => missing directive need position
  | field directive source _ => field directive source position
  | invalid directive fault _ => invalid directive fault position
  | duplicateSection kind _ => duplicateSection kind position
  | missingEnvironment name _ => missingEnvironment name position

/-- **Two runs report alike**: they return the same value, or they stop for one cause, the first
one at `here` and the second one at `there`. -/
abbrev ReportsAlike {α : Type} (here there : Option Position) :
    Except BuildError α → Except BuildError α → Prop :=
  Ends₂ Eq fun e e' => e.position = here ∧ e' = e.placedAt there

/-- The same fields at another position. -/
def Fields.moved (fields : Fields) (position : Option Position) : Fields :=
  { fields with position }

/-- The comparison of two runs by what they report. -/
def reporting (here there : Option Position) : Comparison BuildError BuildError :=
  ending fun e e' => e.position = here ∧ e' = e.placedAt there

/-! ### Fields -/

section Fields

variable {α : Type} (fields : Fields) (there : Option Position)

theorem Fields.alike_attempt (result : Except FieldError α) :
    ReportsAlike fields.position there (fields.attempt result)
      ((fields.moved there).attempt result) := by
  cases result with
  | ok a => exact .ok rfl
  | error e => exact .error ⟨rfl, rfl⟩

theorem ProxyOptions.alike_ofNetwork (value : Value) :
    ReportsAlike fields.position there (ProxyOptions.ofNetwork fields value)
      (ProxyOptions.ofNetwork (fields.moved there) value) := by
  unfold ofNetwork
  split
  · split_ifs <;> exact .ok rfl
  · rw [assign_eq_attempt, assign_eq_attempt]
    refine (fields.alike_attempt there _).bind_eq fun _ => ?_
    split
    · exact .error ⟨rfl, rfl⟩
    · exact .ok rfl

/-- **The same fields at another position** are read alike. -/
theorem Fields.compares_moved :
    Compares (reporting fields.position there) fields (fields.moved there) where
  labels := rfl
  entries := by
    refine List.forall₂_same.2 fun entry _ => ⟨rfl, ?_⟩
    refine ⟨fun _ _ => fields.alike_attempt there _, fun key => ?_,
      ProxyOptions.alike_ofNetwork fields there entry.2⟩
    change ReportsAlike _ _ _ _
    rw [parameter, parameter]
    split
    · exact .ok rfl
    · exact .error ⟨rfl, rfl⟩
  field _ := .error ⟨rfl, rfl⟩
  invalid _ := .error ⟨rfl, rfl⟩
  missing _ := .error ⟨rfl, rfl⟩
  unknownKey _ := .error ⟨rfl, rfl⟩

theorem Fields.alike_finish (known : List String) :
    ReportsAlike fields.position there (fields.finish known)
      ((fields.moved there).finish known) :=
  (fields.compares_moved there).finish known

theorem FieldReader.alike_read {reader : FieldReader α} [reader.Uniform] :
    ReportsAlike fields.position there (reader.read fields) (reader.read (fields.moved there)) :=
  Uniform.compares (fields.compares_moved there)

theorem Server.alike_ofFields (spreads : List String) :
    ReportsAlike fields.position there (Server.ofFields fields spreads)
      (Server.ofFields (fields.moved there) spreads) :=
  Server.compares_ofFields (fields.compares_moved there) spreads

/-- **An object is read alike wherever it stands.** -/
theorem ObjectKind.alike_read (kind : ObjectKind) (spreads : List String) :
    ReportsAlike fields.position there (kind.read fields spreads)
      (kind.read (fields.moved there) spreads) :=
  kind.compares_read (fields.compares_moved there) spreads

end Fields

/-! ### Expressions -/

section Expressions

variable (environment : Environment) (here there : Option Position)

mutual

/-- **An expression has the same value wherever it stands.** -/
theorem Expr.alike_evaluate (expr : Expr) :
    ReportsAlike here there (expr.evaluate environment here)
      (expr.evaluate environment there) := by
  match expr with
  | .literal value => exact .ok rfl
  | .array items => exact (Expr.alike_evaluateAll items).bind_eq fun _ => .ok rfl
  | .object entries => exact (Expr.alike_evaluateEntries entries).bind_eq fun _ => .ok rfl
  | .env name none =>
    rw [evaluate, evaluate]
    split
    · exact .ok rfl
    · exact .error ⟨rfl, rfl⟩
  | .env name (some fallback) =>
    rw [evaluate, evaluate]
    split
    · exact .ok rfl
    · exact fallback.alike_evaluate

theorem Expr.alike_evaluateAll (items : List Expr) :
    ReportsAlike here there (Expr.evaluateAll environment here items)
      (Expr.evaluateAll environment there items) := by
  match items with
  | [] => exact .ok rfl
  | item :: items =>
    refine item.alike_evaluate.bind_eq fun _ => ?_
    exact (Expr.alike_evaluateAll items).bind_eq fun _ => .ok rfl

theorem Expr.alike_evaluateEntries (entries : List (String × Expr)) :
    ReportsAlike here there (Expr.evaluateEntries environment here entries)
      (Expr.evaluateEntries environment there entries) := by
  match entries with
  | [] => exact .ok rfl
  | (key, item) :: entries =>
    refine item.alike_evaluate.bind_eq fun _ => ?_
    exact (Expr.alike_evaluateEntries entries).bind_eq fun _ => .ok rfl

end

theorem Bound.alike_ofValue (value : Value) :
    ReportsAlike here there (Bound.ofValue here value) (Bound.ofValue there value) := by
  unfold ofValue
  split
  · exact .ok rfl
  · split
    · exact .ok rfl
    · exact .ok rfl
  · exact .error ⟨rfl, rfl⟩

theorem Iterable.alike_evaluate (iterable : Iterable) :
    ReportsAlike here there (iterable.evaluate environment here)
      (iterable.evaluate environment there) := by
  cases iterable with
  | range start stop =>
    refine (start.alike_evaluate environment here there).bind_eq fun _ => ?_
    refine (Bound.alike_ofValue here there _).bind_eq fun _ => ?_
    refine (stop.alike_evaluate environment here there).bind_eq fun _ => ?_
    exact (Bound.alike_ofValue here there _).bind_eq fun _ => .ok rfl
  | list items =>
    exact (Expr.alike_evaluateAll environment here there items).bind_eq fun _ => .ok rfl

end Expressions

theorem ObjectKind.alike_precheck (kind : ObjectKind) (name : String) (labels : List String)
    (here there : Option Position) :
    ReportsAlike here there (kind.precheck name labels here)
      (kind.precheck name labels there) := by
  unfold precheck
  split
  · split
    · exact .ok rfl
    · exact .error ⟨rfl, rfl⟩
  · exact .ok rfl

end Balancer
