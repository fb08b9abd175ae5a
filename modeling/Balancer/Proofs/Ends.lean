import Mathlib.Data.List.Forall2

/-!
# What a computation that may fail comes to

The stages of this library either return a value or stop at the first error. `Ends P E x` says
both things about such a computation `x` at once: a value that it returns satisfies `P`, and an
error that it stops with satisfies `E`. It is put together along the computation, one step at a
time, so that a statement about a long sequence of steps never opens them all.

`Ends₂ R E x y` does the same for two computations side by side. It is one of the ways to compare
them (`Comparison`); how a comparison goes along checks, lists and runs is the same for all.
-/

namespace Balancer

variable {ε α β : Type}

/-- **How a computation ends**: a value with `P`, or an error with `E`. -/
inductive Ends (P : α → Prop) (E : ε → Prop) : Except ε α → Prop
  | ok {a : α} (h : P a) : Ends P E (.ok a)
  | error {e : ε} (h : E e) : Ends P E (.error e)

namespace Ends

variable {P : α → Prop} {Q : β → Prop} {E : ε → Prop}

theorem pure {a : α} (h : P a) : Ends P E (Pure.pure a) := .ok h

/-- Sequencing: the second step may rely on what the first one returns. -/
theorem bind {x : Except ε α} {f : α → Except ε β} (hx : Ends P E x)
    (hf : ∀ a, P a → Ends Q E (f a)) : Ends Q E (x >>= f) := by
  cases hx with
  | ok h => exact hf _ h
  | error h => exact .error h

theorem mono {P' : α → Prop} {x : Except ε α} (hx : Ends P E x) (h : ∀ a, P a → P' a) :
    Ends P' E x := by
  cases hx with
  | ok hp => exact .ok (h _ hp)
  | error he => exact .error he

theorem of_ok {x : Except ε α} (hx : Ends P E x) {a : α} (h : x = .ok a) : P a := by
  cases hx with
  | ok hp => exact Except.ok.inj h ▸ hp
  | error _ => exact absurd h (by simp)

theorem of_error {x : Except ε α} (hx : Ends P E x) {e : ε} (h : x = .error e) : E e := by
  cases hx with
  | ok _ => exact absurd h (by simp)
  | error he => exact Except.error.inj h ▸ he

theorem mono_error {E' : ε → Prop} {x : Except ε α} (hx : Ends P E x) (h : ∀ e, E e → E' e) :
    Ends P E' x := by
  cases hx with
  | ok hp => exact .ok hp
  | error he => exact .error (h _ he)

/-- A check in front of the other steps. -/
theorem guard {c : Prop} [Decidable c] {e : ε} {f : PUnit → Except ε β} (he : E e)
    (hf : Ends Q E (f ⟨⟩)) : Ends Q E (if c then throw e >>= f else f ⟨⟩) := by
  split
  · exact .error he
  · exact hf

/-- A step for each element of a list: the results are related to the elements one by one. -/
theorem mapM_of_mem {P : α → β → Prop} {f : α → Except ε β} {as : List α}
    (h : ∀ a ∈ as, Ends (P a) E (f a)) : Ends (List.Forall₂ P as) E (as.mapM f) := by
  induction as with
  | nil => exact .ok .nil
  | cons a as ih =>
    obtain ⟨hfirst, hrest⟩ := List.forall_mem_cons.1 h
    rw [List.mapM_cons]
    exact hfirst.bind fun _ hb => (ih hrest).bind fun _ hbs => .ok (.cons hb hbs)

theorem mapM {P : α → β → Prop} {f : α → Except ε β} (h : ∀ a, Ends (P a) E (f a))
    (as : List α) : Ends (List.Forall₂ P as) E (as.mapM f) :=
  mapM_of_mem fun a _ => h a

/-- A run over a list, of which every step keeps what is known about the state. -/
theorem foldlM {f : β → α → Except ε β} {as : List α}
    (h : ∀ state, Q state → ∀ a ∈ as, Ends Q E (f state a)) {state : β} (hstate : Q state) :
    Ends Q E (as.foldlM f state) := by
  induction as generalizing state with
  | nil => exact .ok hstate
  | cons a as ih =>
    rw [List.foldlM_cons]
    refine (h state hstate a List.mem_cons_self).bind fun next hnext => ?_
    exact ih (fun state hstate b hb => h state hstate b (List.mem_cons_of_mem a hb)) hnext

end Ends

/-- A sequence of two steps returns exactly what the second returns after the first. -/
theorem bind_eq_ok {x : Except ε α} {f : α → Except ε β} {b : β} :
    x >>= f = .ok b ↔ ∃ a, x = .ok a ∧ f a = .ok b := by
  cases x with
  | ok a => exact ⟨fun h => ⟨a, rfl, h⟩, fun ⟨_, h, hb⟩ => Except.ok.inj h ▸ hb⟩
  | error e =>
    constructor
    · intro h
      exact nomatch h
    · rintro ⟨_, h, -⟩
      exact nomatch h

@[simp]
theorem ok_bind (a : α) (f : α → Except ε β) : Except.ok a >>= f = f a := rfl

@[simp]
theorem error_bind (e : ε) (f : α → Except ε β) : Except.error e >>= f = .error e := rfl

@[simp]
theorem pure_eq_ok_iff {a b : α} : (pure a : Except ε α) = .ok b ↔ a = b :=
  ⟨Except.ok.inj, congrArg _⟩

@[simp]
theorem throw_bind (e : ε) (f : α → Except ε β) : throw e >>= f = .error e := rfl

theorem map_eq_ok {x : Except ε α} {f : α → β} {b : β} :
    f <$> x = .ok b ↔ ∃ a, x = .ok a ∧ f a = b := by
  cases x with
  | ok a => exact ⟨fun h => ⟨a, rfl, Except.ok.inj h⟩, fun ⟨_, h, hb⟩ => hb ▸ Except.ok.inj h ▸ rfl⟩
  | error e =>
    constructor
    · intro h
      exact nomatch h
    · rintro ⟨_, h, -⟩
      exact nomatch h

/-- A step for each element of a list returns exactly what the steps return one by one. -/
theorem mapM_eq_ok {f : α → Except ε β} {as : List α} {bs : List β} :
    as.mapM f = .ok bs ↔ List.Forall₂ (fun a b => f a = .ok b) as bs := by
  induction as generalizing bs with
  | nil =>
    rw [List.mapM_nil, List.forall₂_nil_left_iff]
    exact ⟨fun h => (Except.ok.inj h).symm, fun h => h ▸ rfl⟩
  | cons a as ih =>
    rw [List.mapM_cons]
    constructor
    · intro h
      obtain ⟨b, hb, h⟩ := bind_eq_ok.1 h
      obtain ⟨bs, hbs, h⟩ := bind_eq_ok.1 h
      cases h
      exact .cons hb (ih.1 hbs)
    · rintro (_ | ⟨hb, hbs⟩)
      exact bind_eq_ok.2 ⟨_, hb, bind_eq_ok.2 ⟨_, ih.2 hbs, rfl⟩⟩

theorem mapM_congr_eq_ok {f g : α → Except ε β} (h : ∀ a b, f a = .ok b ↔ g a = .ok b)
    {as : List α} {bs : List β} : as.mapM f = .ok bs ↔ as.mapM g = .ok bs := by
  simp only [mapM_eq_ok, h]

theorem mapM_append_eq_ok {f : α → Except ε β} {as as' : List α} {bs bs' : List β}
    (has : as.mapM f = .ok bs) (has' : as'.mapM f = .ok bs') :
    (as ++ as').mapM f = .ok (bs ++ bs') := by
  rw [mapM_eq_ok] at has has' ⊢
  exact List.rel_append has has'

/-- Two passes over a list relate its elements to the results of the second one. -/
theorem forall₂_comp {γ : Type} {R : α → β → Prop} {S : β → γ → Prop} {as : List α} {bs : List β}
    {cs : List γ} (has : List.Forall₂ R as bs) (hbs : List.Forall₂ S bs cs) :
    List.Forall₂ (fun a c => ∃ b, R a b ∧ S b c) as cs := by
  induction has generalizing cs with
  | nil =>
    cases hbs
    exact .nil
  | cons hab _ ih =>
    cases hbs with
    | cons hbc hbs => exact .cons ⟨_, hab, hbc⟩ (ih hbs)

/-- What stands in one place of two related lists is related. -/
theorem forall₂_getElem? {R : α → β → Prop} {as : List α} {bs : List β}
    (h : List.Forall₂ R as bs) {i : Nat} {a : α} (ha : as[i]? = some a) :
    ∃ b, bs[i]? = some b ∧ R a b := by
  induction h generalizing i with
  | nil => exact nomatch ha
  | cons hab _ ih =>
    cases i with
    | zero =>
      cases ha
      exact ⟨_, rfl, hab⟩
    | succ i => exact ih ha

/-- Two steps for each element, one after the other, are two passes over the list. -/
theorem mapM_bind_eq_ok {γ : Type} {f : α → Except ε β} {g : β → Except ε γ} {as : List α}
    {cs : List γ} :
    (as.mapM fun a => f a >>= g) = .ok cs ↔ ∃ bs, as.mapM f = .ok bs ∧ bs.mapM g = .ok cs := by
  simp only [mapM_eq_ok, bind_eq_ok]
  constructor
  · intro h
    induction h with
    | nil => exact ⟨[], .nil, .nil⟩
    | cons hab _ ih =>
      obtain ⟨b, hb, hc⟩ := hab
      obtain ⟨bs, hbs, hcs⟩ := ih
      exact ⟨b :: bs, .cons hb hbs, .cons hc hcs⟩
  · rintro ⟨bs, hbs, hcs⟩
    exact forall₂_comp hbs hcs

/-- A step for each element of a list of lists goes through the lists one by one. -/
theorem mapM_flatten_eq_ok {f : α → Except ε β} {lists : List (List α)} {bs : List β} :
    lists.flatten.mapM f = .ok bs ↔
      ∃ results, lists.mapM (fun as => as.mapM f) = .ok results ∧ bs = results.flatten := by
  induction lists generalizing bs with
  | nil =>
    rw [List.flatten_nil, List.mapM_nil, List.mapM_nil]
    exact ⟨fun h => ⟨[], rfl, (Except.ok.inj h).symm⟩,
      fun ⟨_, h, hbs⟩ => by cases h; exact hbs ▸ rfl⟩
  | cons as lists ih =>
    rw [List.flatten_cons, List.mapM_append, List.mapM_cons]
    simp only [bind_eq_ok, ih, pure_eq_ok_iff]
    constructor
    · rintro ⟨first, hfirst, _, ⟨results, hresults, rfl⟩, rfl⟩
      exact ⟨_, ⟨first, hfirst, results, hresults, rfl⟩, rfl⟩
    · rintro ⟨_, ⟨first, hfirst, results, hresults, rfl⟩, rfl⟩
      exact ⟨first, hfirst, _, ⟨results, hresults, rfl⟩, rfl⟩

/-! ### Whether a computation returns -/

/-- **The computation returns a value.** -/
def Returns (x : Except ε α) : Prop := ∃ a, x = .ok a

@[simp]
theorem returns_pure (a : α) : Returns (pure a : Except ε α) := ⟨a, rfl⟩

theorem returns_bind_iff {x : Except ε α} {f : α → Except ε β} :
    Returns (x >>= f) ↔ ∃ a, x = .ok a ∧ Returns (f a) := by
  simp only [Returns, bind_eq_ok]
  exact exists_comm.trans (exists_congr fun a => exists_and_left)

theorem returns_bind_pure_iff {x : Except ε α} {g : α → β} :
    Returns (x >>= fun a => pure (g a)) ↔ Returns x := by
  simp only [returns_bind_iff, returns_pure, and_true]
  rfl

/-- A step for each element of a list returns when each of the steps does. -/
theorem returns_mapM_iff {f : α → Except ε β} {as : List α} :
    Returns (as.mapM f) ↔ ∀ a ∈ as, Returns (f a) := by
  induction as with
  | nil => simp
  | cons a as ih =>
    rw [List.mapM_cons, List.forall_mem_cons, ← ih]
    simp only [returns_bind_iff, returns_pure, and_true, exists_and_right]
    rfl

/-- Steps that return where related ones do. -/
theorem returns_mapM_of_forall₂ {γ : Type} {R : α → β → Prop} {f : α → Except ε γ}
    {g : β → Except ε γ} {as : List α} {bs : List β} (h : List.Forall₂ R as bs)
    (has : Returns (as.mapM f)) (hR : ∀ a b, R a b → Returns (f a) → Returns (g b)) :
    Returns (bs.mapM g) := by
  rw [returns_mapM_iff] at has ⊢
  induction h with
  | nil => exact List.forall_mem_nil _
  | cons hab _ ih =>
    rw [List.forall_mem_cons] at has ⊢
    exact has.imp (hR _ _ hab) ih

/-- A run returns if every step does, whatever the steps before it came to. -/
theorem returns_foldlM {σ : Type} {f : σ → α → Except ε σ} {as : List α}
    (h : ∀ state, ∀ a ∈ as, Returns (f state a)) (state : σ) : Returns (as.foldlM f state) := by
  induction as generalizing state with
  | nil => exact returns_pure state
  | cons a as ih =>
    obtain ⟨next, hnext⟩ := h state a List.mem_cons_self
    rw [List.foldlM_cons, hnext]
    exact ih (fun state b hb => h state b (List.mem_cons_of_mem a hb)) next

/-- **A run that stops has a first step that fails**; the steps before it return. -/
theorem foldlM_eq_error {σ : Type} {f : σ → α → Except ε σ} {as : List α} {state : σ} {e : ε}
    (h : as.foldlM f state = .error e) :
    ∃ early a late reached, as = early ++ a :: late ∧ early.foldlM f state = .ok reached ∧
      f reached a = .error e := by
  induction as generalizing state with
  | nil => exact nomatch h
  | cons a as ih =>
    rw [List.foldlM_cons] at h
    cases hfirst : f state a with
    | error failure =>
      rw [hfirst] at h
      exact ⟨[], a, as, state, rfl, rfl, hfirst.trans h⟩
    | ok next =>
      rw [hfirst] at h
      obtain ⟨early, b, late, reached, rfl, hearly, hb⟩ := ih h
      refine ⟨a :: early, b, late, reached, rfl, ?_, hb⟩
      rw [List.foldlM_cons, hfirst]
      exact hearly

/-! ### A step that may be left out -/

section Optional

variable {f : α → Except ε β} {a : Option α}

theorem optionMapM_eq_ok_none_iff : a.mapM f = .ok none ↔ a = none := by
  cases a with
  | none => exact ⟨fun _ => rfl, fun _ => rfl⟩
  | some a =>
    rw [Option.mapM_some]
    cases f a <;> simp

theorem optionMapM_eq_ok_some_iff {b : β} :
    a.mapM f = .ok (some b) ↔ ∃ x, a = some x ∧ f x = .ok b := by
  cases a with
  | none =>
    constructor
    · intro h
      exact nomatch h
    · rintro ⟨_, h, -⟩
      exact nomatch h
  | some a =>
    rw [Option.mapM_some]
    cases h : f a <;> simp [h]

end Optional

/-! ### Two computations side by side -/

/-- **A comparison of computations**: for each relation between what they return, a relation between
the computations. It holds where both return related values, and sequencing keeps it. -/
structure Comparison (ε φ : Type) where
  Holds {α β : Type} (R : α → β → Prop) : Except ε α → Except φ β → Prop
  ok {α β : Type} {R : α → β → Prop} {a : α} {b : β} (h : R a b) : Holds R (.ok a) (.ok b)
  bind {α β γ δ : Type} {R : α → β → Prop} {S : γ → δ → Prop} {x : Except ε α} {y : Except φ β}
    {f : α → Except ε γ} {g : β → Except φ δ} (hx : Holds R x y)
    (hf : ∀ a b, R a b → Holds S (f a) (g b)) : Holds S (x >>= f) (y >>= g)

namespace Comparison

variable {φ γ δ : Type} (C : Comparison ε φ) {R : α → β → Prop} {S : γ → δ → Prop}

/-- Sequencing after a step that returns the same value on both sides. -/
theorem bind_eq {x : Except ε α} {y : Except φ α} {f : α → Except ε γ} {g : α → Except φ δ}
    (hx : C.Holds Eq x y) (hf : ∀ a, C.Holds S (f a) (g a)) : C.Holds S (x >>= f) (y >>= g) :=
  C.bind hx fun a _ hab => hab ▸ hf a

theorem map {x : Except ε α} {y : Except φ β} {f : α → γ} {g : β → δ} (hx : C.Holds R x y)
    (h : ∀ a b, R a b → S (f a) (g b)) : C.Holds S (f <$> x) (g <$> y) := by
  rw [map_eq_pure_bind, map_eq_pure_bind]
  exact C.bind hx fun a b hab => C.ok (h a b hab)

theorem map_eq {x : Except ε α} {y : Except φ α} (hx : C.Holds Eq x y) (f : α → γ) :
    C.Holds Eq (f <$> x) (f <$> y) :=
  C.map hx fun _ _ hab => congrArg f hab

/-- The same check in front of the other steps. -/
theorem guard {c : Prop} [Decidable c] {e : ε} {e' : φ} {f : PUnit → Except ε γ}
    {g : PUnit → Except φ δ} (he : C.Holds S (.error e) (.error e'))
    (hf : C.Holds S (f ⟨⟩) (g ⟨⟩)) :
    C.Holds S (if c then throw e >>= f else f ⟨⟩) (if c then throw e' >>= g else g ⟨⟩) := by
  split
  · exact he
  · exact hf

/-- A step for each element of two related lists. -/
theorem mapM {T : γ → δ → Prop} {f : γ → Except ε α} {g : δ → Except φ β} {cs : List γ}
    {ds : List δ} (h : List.Forall₂ T cs ds) (hf : ∀ c d, T c d → C.Holds R (f c) (g d)) :
    C.Holds (List.Forall₂ R) (cs.mapM f) (ds.mapM g) := by
  induction h with
  | nil => exact C.ok .nil
  | cons hcd _ ih =>
    rw [List.mapM_cons, List.mapM_cons]
    exact C.bind (hf _ _ hcd) fun _ _ hab => C.bind ih fun _ _ habs => C.ok (.cons hab habs)

/-- A step for each element of two related lists, with the same results. -/
theorem mapM_eq {T : γ → δ → Prop} {f : γ → Except ε α} {g : δ → Except φ α} {cs : List γ}
    {ds : List δ} (h : List.Forall₂ T cs ds) (hf : ∀ c d, T c d → C.Holds Eq (f c) (g d)) :
    C.Holds Eq (cs.mapM f) (ds.mapM g) := by
  have hall := C.mapM h hf
  rwa [List.forall₂_eq_eq_eq] at hall

theorem mapM_same {f : γ → Except ε α} {g : γ → Except φ α} (hf : ∀ c, C.Holds Eq (f c) (g c))
    (cs : List γ) : C.Holds Eq (cs.mapM f) (cs.mapM g) :=
  C.mapM_eq (List.forall₂_same.2 fun _ _ => rfl) fun c _ hcd => hcd ▸ hf c

/-- Two runs over related lists, of which every two steps keep the states related. -/
theorem foldlM {T : γ → δ → Prop} {f : α → γ → Except ε α} {g : β → δ → Except φ β} {cs : List γ}
    {ds : List δ} (h : List.Forall₂ T cs ds)
    (hf : ∀ a b, R a b → ∀ c d, T c d → C.Holds R (f a c) (g b d)) {a : α} {b : β} (hab : R a b) :
    C.Holds R (cs.foldlM f a) (ds.foldlM g b) := by
  induction h generalizing a b with
  | nil => exact C.ok hab
  | cons hcd _ ih =>
    rw [List.foldlM_cons, List.foldlM_cons]
    exact C.bind (hf _ _ hab _ _ hcd) fun _ _ => ih

end Comparison

/-- **Two computations end alike**: both return, with values related by `R`, or both stop, with
errors related by `E`. -/
inductive Ends₂ {φ : Type} (R : α → β → Prop) (E : ε → φ → Prop) :
    Except ε α → Except φ β → Prop
  | ok {a : α} {b : β} (h : R a b) : Ends₂ R E (.ok a) (.ok b)
  | error {e : ε} {e' : φ} (h : E e e') : Ends₂ R E (.error e) (.error e')

/-- The comparison of two computations by how they end. -/
def ending {φ : Type} (E : ε → φ → Prop) : Comparison ε φ where
  Holds R := Ends₂ R E
  ok h := .ok h
  bind hx hf := by
    cases hx with
    | ok h => exact hf _ _ h
    | error h => exact .error h

namespace Ends₂

variable {φ γ δ : Type} {R : α → β → Prop} {S : γ → δ → Prop} {E : ε → φ → Prop}

theorem bind {x : Except ε α} {y : Except φ β} {f : α → Except ε γ} {g : β → Except φ δ}
    (hx : Ends₂ R E x y) (hf : ∀ a b, R a b → Ends₂ S E (f a) (g b)) :
    Ends₂ S E (x >>= f) (y >>= g) :=
  (ending E).bind hx hf

theorem bind_eq {x : Except ε α} {y : Except φ α} {f : α → Except ε γ} {g : α → Except φ δ}
    (hx : Ends₂ Eq E x y) (hf : ∀ a, Ends₂ S E (f a) (g a)) : Ends₂ S E (x >>= f) (y >>= g) :=
  (ending E).bind_eq hx hf

theorem mono {R' : α → β → Prop} {E' : ε → φ → Prop} {x : Except ε α} {y : Except φ β}
    (hx : Ends₂ R E x y) (hR : ∀ a b, R a b → R' a b) (hE : ∀ e e', E e e' → E' e e') :
    Ends₂ R' E' x y := by
  cases hx with
  | ok h => exact .ok (hR _ _ h)
  | error h => exact .error (hE _ _ h)

/-- What the first of the two computations stops with. -/
theorem ends {P : ε → Prop} {x : Except ε α} {y : Except φ β} (hx : Ends₂ R E x y)
    (h : ∀ e e', E e e' → P e) : Ends (fun _ => True) P x := by
  cases hx with
  | ok _ => exact .ok trivial
  | error he => exact .error (h _ _ he)

/-- If the first of the two computations returns, so does the second. -/
theorem exists_eq_ok {x : Except ε α} {y : Except φ β} (hx : Ends₂ R E x y) {a : α}
    (h : x = .ok a) : ∃ b, y = .ok b ∧ R a b := by
  subst h
  cases hx with
  | ok hab => exact ⟨_, rfl, hab⟩

/-- Two computations that end like a third one end alike. -/
theorem of_common {ψ : Type} {T : γ → β → Prop} {U : α → γ → Prop} {F : ψ → φ → Prop}
    {G : ε → ψ → Prop} {x : Except ε α} {y : Except ψ γ} {z : Except φ β} (hx : Ends₂ R E x z)
    (hy : Ends₂ T F y z) (hR : ∀ a b c, R a b → T c b → U a c)
    (hE : ∀ e f g, E e f → F g f → G e g) : Ends₂ U G x y := by
  cases hx with
  | ok h =>
    cases hy with
    | ok h' => exact .ok (hR _ _ _ h h')
  | error h =>
    cases hy with
    | error h' => exact .error (hE _ _ _ h h')

end Ends₂

end Balancer
