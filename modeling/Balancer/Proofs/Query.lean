import Balancer.Interpolation
import Balancer.Proofs.Ends

/-!
# Substitution as a tree of questions

Substitution is written once for every monad and runs in two: with a lookup that only fails or
answers, and with one that resolves a variable on demand and remembers it. What the two runs have
in common is the substitution itself: which names it asks for, and what it does with the answers.
This file makes that a thing of its own. A `Query` is a value, a failure, or a question together
with a query for each possible answer; running one (`Query.run`) sends its questions to a lookup.

Substitution in the monad of queries asks for each name by a question, and substitution anywhere
else is a run of it (`Balancer.run_interpolateValue`). So a statement about both runs, or about
a run under two lookups, is an induction on one tree, and never goes through the text or the
expression again.

The only thing asked of the monad is that a failure ends the computation (`LawfulThrow`).

Two bounds on a query say what a run of it can do. `Query.Within N E` bounds it from above: no
question but for names with `N`, no failure but with `E`. `Query.Needs name` bounds it from below:
there is no value before `name` has been asked for.
-/

namespace Balancer

open Text

/-! ### Queries -/

/-- **A computation that asks for the values of names.** -/
inductive Query (α : Type) where
  | done (a : α)
  | fail (e : NormalizeError)
  | ask (name : String) (next : Value → Query α)

namespace Query

variable {α β γ : Type}

/-- Goes on with the value of a query. -/
protected def bind : Query α → (α → Query β) → Query β
  | done a, f => f a
  | fail e, _ => fail e
  | ask name next, f => ask name fun answer => (next answer).bind f

/-- Goes on after a failure. -/
protected def tryCatch : Query α → (NormalizeError → Query α) → Query α
  | done a, _ => done a
  | fail e, handle => handle e
  | ask name next, handle => ask name fun answer => (next answer).tryCatch handle

instance : Monad Query where
  pure := done
  bind := Query.bind

instance : LawfulMonad Query := LawfulMonad.mk' Query
  (fun q => by
    induction q with
    | done a => rfl
    | fail e => rfl
    | ask name next ih => exact congrArg (ask name) (funext ih))
  (fun _ _ => rfl)
  (fun q f g => by
    induction q with
    | done a => rfl
    | fail e => rfl
    | ask name next ih => exact congrArg (ask name) (funext ih))

instance : MonadExceptOf NormalizeError Query where
  throw := fail
  tryCatch := Query.tryCatch

/-- The question for one name. -/
def question (name : String) : Query Value := ask name done

end Query

/-! ### Running a query -/

/-- Monads in which a failure ends the computation. -/
class LawfulThrow (m : Type → Type) [Monad m] [MonadExceptOf NormalizeError m] : Prop where
  throw_bind {α β : Type} (e : NormalizeError) (f : α → m β) :
    (throw e : m α) >>= f = throw e

instance : LawfulThrow (Except NormalizeError) where
  throw_bind _ _ := rfl

instance {σ : Type} : LawfulThrow (StateT σ (Except NormalizeError)) where
  throw_bind _ _ := rfl

section Run

variable {m : Type → Type} [Monad m] [MonadExceptOf NormalizeError m] {α β : Type}

/-- **Runs a query**, with its questions answered by `lookup`. -/
def Query.run (lookup : String → m Value) : Query α → m α
  | done a => pure a
  | fail e => throw e
  | ask name next => lookup name >>= fun answer => (next answer).run lookup

variable (lookup : String → m Value)

@[simp]
theorem Query.run_pure (a : α) : (pure a : Query α).run lookup = pure a := rfl

@[simp]
theorem Query.run_throw (e : NormalizeError) : (throw e : Query α).run lookup = throw e := rfl

variable [LawfulMonad m]

@[simp]
theorem Query.run_question (name : String) : (question name).run lookup = lookup name := by
  simp only [question, run, bind_pure]

variable [LawfulThrow m]

/-- **A sequence of queries runs in sequence.** -/
@[simp]
theorem Query.run_bind (q : Query α) (f : α → Query β) :
    (q >>= f).run lookup = q.run lookup >>= fun a => (f a).run lookup := by
  induction q with
  | done a =>
    change (f a).run lookup = pure a >>= fun a => (f a).run lookup
    rw [pure_bind]
  | fail e =>
    change throw e = throw e >>= fun a => (f a).run lookup
    rw [LawfulThrow.throw_bind]
  | ask name next ih =>
    calc (ask name next >>= f).run lookup
        = lookup name >>= fun answer => (next answer >>= f).run lookup := rfl
      _ = lookup name >>= fun answer =>
            (next answer).run lookup >>= fun a => (f a).run lookup := by simp only [ih]
      _ = (ask name next).run lookup >>= fun a => (f a).run lookup := (bind_assoc ..).symm

theorem Query.run_mapM {ι : Type} {f : ι → Query α} {g : ι → m α}
    (h : ∀ i, (f i).run lookup = g i) (is : List ι) : (is.mapM f).run lookup = is.mapM g := by
  induction is with
  | nil => rfl
  | cons i is ih => simp only [List.mapM_cons, run_bind, run_pure, h, ih]

end Run

/-! ### What a query asks -/

namespace Query

variable {α β ι : Type} {N : String → Prop} {E : NormalizeError → Prop} {name : String}

/-- **Bounded from above**: every question is for a name with `N`, every failure has `E`. -/
def Within (N : String → Prop) (E : NormalizeError → Prop) : Query α → Prop
  | done _ => True
  | fail e => E e
  | ask name next => N name ∧ ∀ answer, (next answer).Within N E

/-- **Bounded from below**: no way through the query comes to a value without asking for `name`. -/
def Needs (name : String) : Query α → Prop
  | done _ => False
  | fail _ => True
  | ask other next => other = name ∨ ∀ answer, (next answer).Needs name

theorem Within.bind {q : Query α} {f : α → Query β} (hq : q.Within N E)
    (hf : ∀ a, (f a).Within N E) : (q >>= f).Within N E := by
  induction q with
  | done a => exact hf a
  | fail e => exact hq
  | ask name next ih => exact ⟨hq.1, fun answer => ih answer (hq.2 answer)⟩

theorem Within.mapM {f : ι → Query α} {is : List ι} (h : ∀ i ∈ is, (f i).Within N E) :
    (is.mapM f).Within N E := by
  induction is with
  | nil => trivial
  | cons i is ih =>
    rw [List.mapM_cons]
    refine (h i List.mem_cons_self).bind fun a => ?_
    exact (ih fun j hj => h j (List.mem_cons_of_mem i hj)).bind fun as => trivial

theorem Within.mono {E' : NormalizeError → Prop} {q : Query α} (hq : q.Within N E)
    (hE : ∀ e, E e → E' e) : q.Within N E' := by
  induction q with
  | done a => trivial
  | fail e => exact hE e hq
  | ask name next ih => exact ⟨hq.1, fun answer => ih answer (hq.2 answer)⟩

theorem Needs.bind_left {q : Query α} (hq : q.Needs name) (f : α → Query β) :
    (q >>= f).Needs name := by
  induction q with
  | done a => exact hq.elim
  | fail e => trivial
  | ask other next ih => exact hq.imp_right fun hnext answer => ih answer (hnext answer)

theorem Needs.bind_right (q : Query α) {f : α → Query β} (hf : ∀ a, (f a).Needs name) :
    (q >>= f).Needs name := by
  induction q with
  | done a => exact hf a
  | fail e => trivial
  | ask other next ih => exact Or.inr ih

theorem Needs.mapM {f : ι → Query α} {i : ι} {is : List ι} (hi : i ∈ is)
    (h : (f i).Needs name) : (is.mapM f).Needs name := by
  induction is with
  | nil => exact absurd hi List.not_mem_nil
  | cons j is ih =>
    rw [List.mapM_cons]
    rcases List.mem_cons.1 hi with rfl | hi
    · exact h.bind_left _
    · exact Needs.bind_right _ fun a => (ih hi).bind_left _

end Query

/-! ### Runs that fail or answer -/

namespace Query

variable {α : Type} {lookup lookup' : String → Except NormalizeError Value} {q : Query α} {a : α}

/-- More answers do not change a value. -/
theorem run_eq_ok_of_le (hle : ∀ name v, lookup name = .ok v → lookup' name = .ok v)
    (h : q.run lookup = .ok a) : q.run lookup' = .ok a := by
  induction q with
  | done b => exact h
  | fail e => exact h
  | ask name next ih =>
    obtain ⟨v, hv, hnext⟩ := bind_eq_ok.1 h
    exact bind_eq_ok.2 ⟨v, hle name v hv, ih v hnext⟩

/-- Lookups that never give different answers never lead to different values. -/
theorem run_ok_unique {b : α}
    (hlookup : ∀ name u v, lookup name = .ok u → lookup' name = .ok v → u = v)
    (ha : q.run lookup = .ok a) (hb : q.run lookup' = .ok b) : a = b := by
  induction q with
  | done c => exact (Except.ok.inj ha).symm.trans (Except.ok.inj hb)
  | fail e => exact nomatch ha
  | ask name next ih =>
    obtain ⟨u, hu, hnext⟩ := bind_eq_ok.1 ha
    obtain ⟨v, hv, hnext'⟩ := bind_eq_ok.1 hb
    obtain rfl : u = v := hlookup name u v hu hv
    exact ih u hnext hnext'

/-- A run that comes to a value has had an answer for every name that it needs. -/
theorem Needs.exists_answer {name : String} (hq : q.Needs name) (h : q.run lookup = .ok a) :
    ∃ v, lookup name = .ok v := by
  induction q with
  | done b => exact hq.elim
  | fail e => exact nomatch h
  | ask other next ih =>
    obtain ⟨v, hv, hnext⟩ := bind_eq_ok.1 h
    rcases hq with rfl | hq
    · exact ⟨v, hv⟩
    · exact ih v (hq v) hnext

/-- A run fails only as the query does or as the lookup does on a name that is asked for. -/
theorem Within.ends_run {N : String → Prop} {E : NormalizeError → Prop} (hq : q.Within N E)
    (hlookup : ∀ name, N name → Ends (fun _ => True) E (lookup name)) :
    Ends (fun _ => True) E (q.run lookup) := by
  induction q with
  | done b => exact .ok trivial
  | fail e => exact .error hq
  | ask name next ih => exact (hlookup name hq.1).bind fun v _ => ih v (hq.2 v)

end Query

/-! ### Substitution is a run of its query -/

section Substitution

variable {m : Type → Type} [Monad m] [MonadExceptOf NormalizeError m] [LawfulMonad m]
  [LawfulThrow m] (lookup : String → m Value)

namespace Expression

omit [LawfulMonad m] [LawfulThrow m] in
theorem run_lift (source : String) (x : Except Fault Value) :
    (lift source x : Query Value).run lookup = lift source x := by
  cases x with
  | ok value => rfl
  | error fault => rfl

theorem Term.run_evaluate (source : String) (term : Term) :
    (term.evaluate source Query.question).run lookup = term.evaluate source lookup := by
  induction term with
  | integer n => rfl
  | text s => rfl
  | name s => exact Query.run_question lookup s
  | negate term ih => simp only [Term.evaluate, Query.run_bind, run_lift, ih]
  | add left right ihl ihr => simp only [Term.evaluate, Query.run_bind, run_lift, ihl, ihr]
  | subtract left right ihl ihr => simp only [Term.evaluate, Query.run_bind, run_lift, ihl, ihr]
  | fault reason => rfl
  | before term reason ih => simp only [Term.evaluate, Query.run_bind, Query.run_throw, ih]

theorem run_evaluate (source : String) :
    (evaluate source Query.question).run lookup = evaluate source lookup := by
  rw [evaluate, evaluate]
  split
  · rfl
  · exact Term.run_evaluate lookup source _

end Expression

theorem Piece.run_expand (input : String) (piece : Piece) :
    (piece.expand input Query.question).run lookup = piece.expand input lookup := by
  cases piece with
  | char c => rfl
  | escaped => rfl
  | expression source =>
    simp only [Piece.expand, Query.run_bind, Expression.run_evaluate]
    congr 1
    funext value
    cases value.render with
    | some text => rfl
    | none => rfl
  | unterminated => rfl

theorem run_interpolate (input : String) :
    (interpolate Query.question input).run lookup = interpolate lookup input := by
  rw [interpolate, Query.run_bind, Query.run_mapM lookup (Piece.run_expand lookup input)]
  rfl

mutual

/-- **Substitution in a value is a run of its query.** -/
theorem run_interpolateValue (value : Value) :
    (interpolateValue Query.question value).run lookup = interpolateValue lookup value := by
  match value with
  | .boolean b => rfl
  | .integer n => rfl
  | .decimal d => rfl
  | .text s =>
    rw [interpolateValue, interpolateValue]
    split
    · exact Expression.run_evaluate lookup _
    · rw [Query.run_bind, run_interpolate]
      rfl
  | .array items =>
    rw [interpolateValue, interpolateValue, Query.run_bind, run_interpolateValues]
    rfl
  | .object entries =>
    rw [interpolateValue, interpolateValue, Query.run_bind, run_interpolateEntries]
    rfl

theorem run_interpolateValues (items : List Value) :
    (interpolateValues Query.question items).run lookup = interpolateValues lookup items := by
  match items with
  | [] => rfl
  | item :: items =>
    simp only [interpolateValues, Query.run_bind, Query.run_pure, run_interpolateValue item,
      run_interpolateValues items]

theorem run_interpolateEntries (entries : List (String × Value)) :
    (interpolateEntries Query.question entries).run lookup = interpolateEntries lookup entries := by
  match entries with
  | [] => rfl
  | (key, item) :: entries =>
    simp only [interpolateEntries, Query.run_bind, Query.run_pure, run_interpolateValue item,
      run_interpolateEntries entries]

end

end Substitution

end Balancer
