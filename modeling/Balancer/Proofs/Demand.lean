import Balancer.Proofs.Resolution
import Balancer.Proofs.Substitution

/-!
# Resolution on demand, step by step

`Resolver.get` resolves a variable by a recursion of bounded depth, with the stack as an argument.
This file takes the recursion apart into steps, and nothing bounds their number: a `Moment` holds
the calls that wait for an answer, each with what is left of its substitution, and a stack that
names are put on and taken off. Substitution is a tree of questions (`Balancer.Query`), so that a
call can be left at a question and taken up with the answer.

The main result is `Balancer.Resolver.requests_terminate`, about names that are asked for one after
the other; `Resolver.getAll` asks for all that are declared. It has three parts.

* *Every moment is sound* (`Sound`, which each step keeps by `Sound.next`): the names on the stack
  are declared, different from one another and not resolved. They are the names of the calls that
  have passed their checks, so there are no more such calls than declared names.
* *Every call ends* with what `Resolver.get` comes to at the depth that the stack leaves
  (`ends_asked`). From a call to those that it makes, the number of declared names that are not on
  the stack decreases; from one of these calls to the next, the query does.
* *What is resolved stays as it is*, and a call that comes back leaves the stack as it was, because
  what is on the stack can be told from the calls that wait.
-/

namespace Balancer.Resolver

/-! ### Moments -/

/-- **What is being done**: nothing between two requests, and else what the last call has got to. -/
inductive Activity where
  | idle
  /-- A variable is asked for. -/
  | asked (name : String)
  /-- The value of a variable is being substituted, with the query left to run. -/
  | substituting (name : String) (rest : Query Value)
  /-- A variable has its value and is off the stack. -/
  | found (name : String) (value : Value)
  | answered (value : Value)
  | stopped (e : NormalizeError)

/-- **A call that waits for an answer**, with what its substitution does with it. -/
structure Waiting where
  name : String
  next : Value → Query Value

/-- **A moment of a run.** The call that has waited for the shortest time comes first. -/
structure Moment where
  requests : List String
  activity : Activity
  calls : List Waiting
  stack : List String
  resolved : OrderedMap Value

namespace Moment

/-- The moment before the next of the names is asked for. -/
def between (requests : List String) (resolved : OrderedMap Value) : Moment :=
  ⟨requests, .idle, [], [], resolved⟩

/-- The moment at which the last call has its answer. -/
def answer (m : Moment) (x : Value × OrderedMap Value) : Moment :=
  { m with activity := .answered x.1, resolved := x.2 }

/-- The names that wait for an answer, in the order in which they were asked for. -/
def waiting (m : Moment) : List String := (m.calls.map Waiting.name).reverse

/-- **The depth of the recursion**: the number of calls that have been made and have not come
back. -/
def depth (m : Moment) : Nat :=
  match m.activity with
  | .idle => m.calls.length
  | _ => m.calls.length + 1

/-- **A call is entered.** It ends at once unless the variable is declared, not resolved and not on
the stack; then its name goes on the stack, and its value is substituted. -/
def enter (declared : OrderedMap Value) (m : Moment) (name : String) : Moment :=
  match m.resolved.get? name with
  | some value => { m with activity := .answered value }
  | none =>
    match declared.get? name with
    | none => { m with activity := .stopped (.undefinedVariable name) }
    | some value =>
      if name ∈ m.stack then
        { m with activity := .stopped (.variableCycle (cycle m.stack name)) }
      else
        { m with
          activity := .substituting name (interpolateValue Query.question value)
          stack := m.stack ++ [name] }

/-- **A substitution goes on** up to its next question. At its end the name goes off the stack; an
error leaves the stack as it is. -/
def proceed (m : Moment) (name : String) : Query Value → Moment
  | .done value => { m with activity := .found name value, stack := m.stack.dropLast }
  | .fail e => { m with activity := .stopped e }
  | .ask other next => { m with activity := .asked other, calls := ⟨name, next⟩ :: m.calls }

/-- **A value is remembered.** -/
def remember (m : Moment) (name : String) (value : Value) : Moment :=
  { m with activity := .answered value, resolved := m.resolved.insert name value }

/-- **An answer goes to the call that waits for it**, or to the one who made the request. -/
def resume (m : Moment) (value : Value) : Moment :=
  match m.calls with
  | [] => { m with activity := .idle }
  | call :: calls => { m with activity := .substituting call.name (call.next value), calls }

end Moment

/-- **The next moment**, if there is one. -/
def step (declared : OrderedMap Value) (m : Moment) : Option Moment :=
  match m.activity with
  | .idle =>
    match m.requests with
    | [] => none
    | name :: requests => some { m with requests, activity := .asked name }
  | .asked name => some (m.enter declared name)
  | .substituting name rest => some (m.proceed name rest)
  | .found name value => some (m.remember name value)
  | .answered value => some (m.resume value)
  | .stopped _ => none

/-- A run from one moment to another. -/
abbrev Leads (declared : OrderedMap Value) : Moment → Moment → Prop :=
  Relation.ReflTransGen fun m later => step declared m = some later

/-- The run from a moment ends with an error. -/
def Stops (declared : OrderedMap Value) (m : Moment) (e : NormalizeError) : Prop :=
  ∃ last, Leads declared m last ∧ last.activity = .stopped e

/-- **There is no endless run** from the moment. -/
def Terminates (declared : OrderedMap Value) : Moment → Prop :=
  Acc fun later m => step declared m = some later

variable {declared : OrderedMap Value} {m later : Moment}

/-- Where a later moment stops, the run has stopped. -/
theorem ends_of_leads {α : Type} {P : α → Prop} {x : Except NormalizeError α}
    (h : Leads declared m later) (hx : Ends P (Stops declared later) x) :
    Ends P (Stops declared m) x := by
  refine hx.mono_error fun e he => ?_
  obtain ⟨last, hlast, hstopped⟩ := he
  exact ⟨last, h.trans hlast, hstopped⟩

/-- The next moment is determined, so one run that ends shows that all do. -/
theorem terminates_of_leads (h : Leads declared m later) (hlater : step declared later = none) :
    Terminates declared m := by
  induction h using Relation.ReflTransGen.head_induction_on with
  | refl => exact Acc.intro _ fun next hnext => absurd (hlater.symm.trans hnext) nofun
  | head hstep _ ih =>
    exact Acc.intro _ fun next hnext => Option.some.inj (hstep.symm.trans hnext) ▸ ih

/-! ### Sound moments -/

/-- **How the stack goes with the calls**: it has the names that wait, and behind them the one whose
value is being substituted. -/
def Moment.Fits (m : Moment) : Activity → Prop
  | .idle => m.calls = [] ∧ m.stack = []
  | .asked _ | .answered _ => m.stack = m.waiting
  | .substituting name _ => m.stack = m.waiting ++ [name]
  | .found name _ => m.stack = m.waiting ∧ name ∉ m.stack ∧ name ∉ m.resolved.keys
  | .stopped _ => m.waiting <+: m.stack

/-- **Sound moments**: the stack has declared names that are not resolved, each once. -/
structure Sound (declared : OrderedMap Value) (m : Moment) : Prop where
  nodup : m.stack.Nodup
  mem_keys : ∀ name ∈ m.stack, name ∈ declared.keys
  unresolved : ∀ name ∈ m.stack, name ∉ m.resolved.keys
  fits : m.Fits m.activity

theorem Sound.fits_of (h : Sound declared m) {activity : Activity} (hm : m.activity = activity) :
    m.Fits activity :=
  hm ▸ h.fits

theorem sound_between (declared : OrderedMap Value) (requests : List String)
    (resolved : OrderedMap Value) : Sound declared (.between requests resolved) where
  nodup := List.nodup_nil
  mem_keys _ h := absurd h List.not_mem_nil
  unresolved _ h := absurd h List.not_mem_nil
  fits := ⟨rfl, rfl⟩

theorem Moment.Fits.waiting_isPrefix {activity : Activity} (h : m.Fits activity) :
    m.waiting <+: m.stack := by
  cases activity with
  | idle =>
    rw [waiting, h.1]
    exact List.nil_prefix
  | asked name => exact h ▸ List.prefix_rfl
  | substituting name rest => exact ⟨[name], Eq.symm h⟩
  | found name value => exact h.1 ▸ List.prefix_rfl
  | answered value => exact h ▸ List.prefix_rfl
  | stopped e => exact h

/-- The calls that wait have their names on the stack, and there is one more at most. -/
theorem Sound.depth_le (h : Sound declared m) : m.depth ≤ declared.size + 1 := by
  have hstack := length_le_size h.nodup h.mem_keys
  have hcalls := h.fits.waiting_isPrefix.length_le
  rw [Moment.waiting, List.length_reverse, List.length_map] at hcalls
  rw [Moment.depth]
  split <;> omega

/-! ### What a step keeps -/

section Step

variable {name : String} {value : Value}

/-- A step that leaves both the stack and what is resolved alone. -/
theorem Sound.of_fits (h : Sound declared m) (hstack : later.stack = m.stack)
    (hresolved : later.resolved = m.resolved) (hfits : later.Fits later.activity) :
    Sound declared later where
  nodup := hstack ▸ h.nodup
  mem_keys := hstack ▸ h.mem_keys
  unresolved := hstack ▸ hresolved ▸ h.unresolved
  fits := hfits

/-- A name that passes all checks may go on the stack. -/
theorem Sound.push (h : Sound declared m) (hm : m.activity = .asked name)
    (hunknown : m.resolved.get? name = none) (hvalue : declared.get? name = some value)
    (hname : name ∉ m.stack) (rest : Query Value) :
    Sound declared
      { m with activity := .substituting name rest, stack := m.stack ++ [name] } where
  nodup := List.nodup_append_comm.2 (List.nodup_cons.2 ⟨hname, h.nodup⟩)
  mem_keys := by
    refine List.forall_mem_append.2 ⟨h.mem_keys, List.forall_mem_singleton.2 ?_⟩
    exact OrderedMap.mem_keys_iff.2 ⟨value, hvalue⟩
  unresolved := by
    refine List.forall_mem_append.2 ⟨h.unresolved, List.forall_mem_singleton.2 ?_⟩
    exact OrderedMap.get?_eq_none_iff.1 hunknown
  fits := by
    have hfits : m.stack = m.waiting := h.fits_of hm
    exact congrArg (· ++ [name]) hfits

theorem Sound.enter (h : Sound declared m) (hm : m.activity = .asked name) :
    Sound declared (m.enter declared name) ∧ (m.enter declared name).resolved = m.resolved := by
  have hfits : m.stack = m.waiting := h.fits_of hm
  have hstopped (e : NormalizeError) : Sound declared { m with activity := .stopped e } :=
    h.of_fits rfl rfl h.fits.waiting_isPrefix
  -- the checks in their order: resolved already, not declared, on the stack
  rw [Moment.enter]
  split
  · exact ⟨h.of_fits rfl rfl hfits, rfl⟩
  rename_i hunknown
  split
  · exact ⟨hstopped _, rfl⟩
  rename_i hvalue
  split
  · exact ⟨hstopped _, rfl⟩
  · rename_i hname
    exact ⟨h.push hm hunknown hvalue hname _, rfl⟩

/-- The name whose value is substituted is the last one on the stack, and goes off it. -/
theorem Sound.pop (h : Sound declared m) {rest : Query Value}
    (hm : m.activity = .substituting name rest) (value : Value) :
    Sound declared { m with activity := .found name value, stack := m.stack.dropLast } := by
  have hfits : m.stack = m.waiting ++ [name] := h.fits_of hm
  have hlast : m.stack.dropLast = m.waiting := by rw [hfits, List.dropLast_concat]
  have hsub : m.stack.dropLast ⊆ m.stack := List.dropLast_subset m.stack
  refine ⟨h.nodup.sublist (List.dropLast_sublist m.stack), fun other hother =>
    h.mem_keys other (hsub hother), fun other hother => h.unresolved other (hsub hother),
    hlast, ?_, h.unresolved name (hfits ▸ List.mem_concat_self)⟩
  -- no name is on the stack twice, so `name` is not among those that wait
  have hnodup := h.nodup
  rw [hfits, List.nodup_append_comm, List.singleton_append, List.nodup_cons] at hnodup
  exact hlast ▸ hnodup.1

theorem Sound.proceed (h : Sound declared m) {rest : Query Value}
    (hm : m.activity = .substituting name rest) :
    Sound declared (m.proceed name rest) ∧ (m.proceed name rest).resolved = m.resolved := by
  cases rest with
  | done value => exact ⟨h.pop hm value, rfl⟩
  | fail e => exact ⟨h.of_fits rfl rfl h.fits.waiting_isPrefix, rfl⟩
  | ask other next =>
    have hfits : m.stack = m.waiting ++ [name] := h.fits_of hm
    exact ⟨h.of_fits rfl rfl (hfits.trans (List.reverse_cons ..).symm), rfl⟩

/-- A name that is new to what is resolved goes behind the others. -/
theorem Sound.remember (h : Sound declared m) (hm : m.activity = .found name value) :
    Sound declared (m.remember name value) ∧
      m.resolved.entries <+: (m.remember name value).resolved.entries := by
  have hfits : m.Fits (.found name value) := h.fits_of hm
  obtain ⟨hstack, hname, hunknown⟩ := hfits
  have hentries : (m.remember name value).resolved.entries =
      m.resolved.entries ++ [(name, value)] :=
    OrderedMap.insertEntry_of_notMem hunknown value
  refine ⟨⟨h.nodup, h.mem_keys, fun other hother => ?_, hstack⟩, hentries ▸ List.prefix_append ..⟩
  -- `name` is off the stack by now, so it may be among what is resolved
  rw [OrderedMap.keys, hentries, List.map_append, List.mem_append, not_or]
  refine ⟨h.unresolved other hother, fun hmem => ?_⟩
  exact ne_of_mem_of_not_mem hother hname (List.mem_singleton.1 hmem)

theorem Sound.resume (h : Sound declared m) (hm : m.activity = .answered value) :
    Sound declared (m.resume value) ∧ (m.resume value).resolved = m.resolved := by
  have hfits : m.stack = (m.calls.map Waiting.name).reverse := h.fits_of hm
  rw [Moment.resume]
  split
  · rename_i hcalls
    rw [hcalls] at hfits
    exact ⟨h.of_fits rfl rfl ⟨hcalls, hfits⟩, rfl⟩
  · rename_i hcalls
    rw [hcalls, List.map_cons, List.reverse_cons] at hfits
    exact ⟨h.of_fits rfl rfl hfits, rfl⟩

/-- **A step keeps a moment sound**, and leaves what is resolved in its place. -/
theorem Sound.next (h : Sound declared m) (hstep : step declared m = some later) :
    Sound declared later ∧ m.resolved.entries <+: later.resolved.entries := by
  have hkept {next : Moment} (hnext : Sound declared next ∧ next.resolved = m.resolved) :
      Sound declared next ∧ m.resolved.entries <+: next.resolved.entries :=
    ⟨hnext.1, hnext.2 ▸ List.prefix_rfl⟩
  cases hm : m.activity with
  | idle =>
    have hfits : m.calls = [] ∧ m.stack = [] := h.fits_of hm
    simp only [step, hm] at hstep
    split at hstep
    · cases hstep
    · obtain rfl := Option.some.inj hstep
      refine hkept ⟨h.of_fits rfl rfl ?_, rfl⟩
      change m.stack = (m.calls.map Waiting.name).reverse
      rw [hfits.1, hfits.2]
      rfl
  | asked name =>
    simp only [step, hm] at hstep
    exact Option.some.inj hstep ▸ hkept (h.enter hm)
  | substituting name rest =>
    simp only [step, hm] at hstep
    exact Option.some.inj hstep ▸ hkept (h.proceed hm)
  | found name value =>
    simp only [step, hm] at hstep
    exact Option.some.inj hstep ▸ h.remember hm
  | answered value =>
    simp only [step, hm] at hstep
    exact Option.some.inj hstep ▸ hkept (h.resume hm)
  | stopped e =>
    simp only [step, hm] at hstep
    cases hstep

/-- **A run keeps moments sound**, and leaves what is resolved in its place. -/
theorem Sound.run (h : Sound declared m) (hrun : Leads declared m later) :
    Sound declared later ∧ m.resolved.entries <+: later.resolved.entries := by
  induction hrun with
  | refl => exact ⟨h, List.prefix_rfl⟩
  | tail _ hstep ih =>
    obtain ⟨hsound, hgrows⟩ := ih
    obtain ⟨hsound', hgrows'⟩ := hsound.next hstep
    exact ⟨hsound', hgrows.trans hgrows'⟩

/-- **A call that has come back has restored the stack**, since the same calls wait. -/
theorem Sound.stack_eq (h : Sound declared m) (hm : m.activity = .asked name)
    (hlater : Sound declared later) (hanswered : later.activity = .answered value)
    (hcalls : later.calls = m.calls) : later.stack = m.stack := by
  have hfits : m.stack = m.waiting := h.fits_of hm
  have hfits' : later.stack = later.waiting := hlater.fits_of hanswered
  rw [hfits, hfits', Moment.waiting, Moment.waiting, hcalls]

end Step

/-! ### What a call comes to -/

section Calls

variable {name : String} {depth : Nat}

theorem leads_enter (declared : OrderedMap Value) (hm : m.activity = .asked name) :
    Leads declared m (m.enter declared name) :=
  .single (by simp only [step, hm])

/-- A substitution runs to its end, if the calls that it makes come to what the lookup does. -/
theorem ends_substituting {q : Query Value} (hsound : Sound declared m)
    (hm : m.activity = .substituting name q) (hdepth : m.stack.length + depth = declared.size)
    (ih : ∀ {m : Moment} {other : String}, Sound declared m → m.activity = .asked other →
      m.stack.length + depth = declared.size →
      Ends (fun x => Leads declared m (m.answer x)) (Stops declared m)
        ((get declared depth m.stack other).run m.resolved)) :
    Ends (fun x => Leads declared m
        { m with activity := .substituting name (.done x.1), resolved := x.2 })
      (Stops declared m) ((q.run (get declared depth m.stack)).run m.resolved) := by
  induction q generalizing m with
  | done value => exact .ok (by rw [← hm])
  | fail e =>
    have hstep : step declared m = some { m with activity := .stopped e } := by
      simp only [step, hm, Moment.proceed]
    exact .error ⟨_, .single hstep, rfl⟩
  | ask other next ihq =>
    have hstep : step declared m =
        some { m with activity := .asked other, calls := ⟨name, next⟩ :: m.calls } := by
      simp only [step, hm, Moment.proceed]
    have hasked := (hsound.next hstep).1
    rw [Query.run, StateT.run_bind]
    refine (ends_of_leads (.single hstep) (ih hasked rfl hdepth)).bind fun x hx => ?_
    -- the answer comes back to this call, with the stack as it was
    have hback : Leads declared m
        { m with activity := .substituting name (next x.1), resolved := x.2 } :=
      .head hstep (hx.tail rfl)
    have hrest := ihq x.1 (hsound.run hback).1 rfl hdepth
    exact ends_of_leads hback (hrest.mono fun y hy => hback.trans hy)

/-- A call ends at once unless the variable is declared, not resolved and not on the stack. -/
theorem ends_asked_cases (declared : OrderedMap Value) (depth : Nat)
    (hm : m.activity = .asked name) :
    Ends (fun x => Leads declared m (m.answer x)) (Stops declared m)
        ((get declared depth m.stack name).run m.resolved) ∨
      ∃ value, m.resolved.get? name = none ∧ declared.get? name = some value ∧
        name ∉ m.stack := by
  have henter := leads_enter declared hm
  cases hknown : m.resolved.get? name with
  | some value =>
    simp only [Moment.enter, hknown] at henter
    rw [run_get_of_known hknown]
    exact Or.inl (.ok henter)
  | none =>
    cases hvalue : declared.get? name with
    | none =>
      simp only [Moment.enter, hknown, hvalue] at henter
      rw [run_get_of_undeclared hknown hvalue]
      exact Or.inl (.error ⟨_, henter, rfl⟩)
    | some value =>
      by_cases hname : name ∈ m.stack
      · simp only [Moment.enter, hknown, hvalue, if_pos hname] at henter
        rw [run_get_of_mem_stack hknown hvalue hname]
        exact Or.inl (.error ⟨_, henter, rfl⟩)
      · exact Or.inr ⟨value, rfl, rfl, hname⟩

/-- **What a call comes to**: it comes back with the answer of the recursion and the stack as it
was, or the run stops with its error. The induction is on the number of declared names that are not
on the stack. -/
theorem ends_asked (hsound : Sound declared m) (hm : m.activity = .asked name)
    (hdepth : m.stack.length + depth = declared.size) :
    Ends (fun x => Leads declared m (m.answer x)) (Stops declared m)
      ((get declared depth m.stack name).run m.resolved) := by
  induction depth generalizing m name with
  | zero =>
    rcases ends_asked_cases declared 0 hm with h | ⟨value, hunknown, hvalue, hname⟩
    · exact h
    · -- with `name` on it, the stack would be longer than the declarations
      have hpush := hsound.push hm hunknown hvalue hname (.done value)
      have hlength := length_le_size hpush.nodup hpush.mem_keys
      rw [List.length_append, List.length_singleton] at hlength
      omega
  | succ depth ih =>
    rcases ends_asked_cases declared (depth + 1) hm with h | ⟨value, hunknown, hvalue, hname⟩
    · exact h
    have henter := leads_enter declared hm
    simp only [Moment.enter, hunknown, hvalue, if_neg hname] at henter
    have hlength : (m.stack ++ [name]).length + depth = declared.size := by
      rw [List.length_append, List.length_singleton]
      omega
    have hquery := ends_of_leads henter
      (ends_substituting (hsound.run henter).1 rfl hlength ih)
    rw [run_interpolateValue] at hquery
    rw [run_get_of_declared hunknown hvalue hname]
    refine hquery.bind fun x hx => .ok ?_
    -- two more steps: the name goes off the stack, and its value is remembered
    have hback : Leads declared m
        { m with
          activity := .answered x.1
          stack := (m.stack ++ [name]).dropLast
          resolved := x.2.insert name x.1 } :=
      ((henter.trans hx).tail rfl).tail rfl
    rw [List.dropLast_concat] at hback
    exact hback

/-- **What requests come to**, one after the other. -/
theorem ends_requests (declared : OrderedMap Value) (requests : List String)
    (resolved : OrderedMap Value) :
    Ends (fun x => Leads declared (.between requests resolved) (.between [] x.2))
      (Stops declared (.between requests resolved))
      ((requests.forM fun name => discard (get declared declared.size [] name)).run resolved) := by
  induction requests generalizing resolved with
  | nil => exact .ok .refl
  | cons name requests ih =>
    have hstep : step declared (.between (name :: requests) resolved) =
        some ⟨requests, .asked name, [], [], resolved⟩ := rfl
    have hasked := ((sound_between declared _ resolved).next hstep).1
    have hcall := ends_of_leads (.single hstep) (ends_asked hasked rfl (Nat.zero_add declared.size))
    rw [List.forM, run_discard_bind]
    refine hcall.bind fun x hx => ?_
    have hback : Leads declared (.between (name :: requests) resolved) (.between requests x.2) :=
      .head hstep (hx.tail rfl)
    exact ends_of_leads hback ((ih x.2).mono fun y hy => hback.trans hy)

/-- Requests come to an end, one way or the other. -/
theorem terminates_between (declared : OrderedMap Value) (requests : List String)
    (resolved : OrderedMap Value) : Terminates declared (.between requests resolved) := by
  have hends := ends_requests declared requests resolved
  cases hrun : (requests.forM fun name => discard (get declared declared.size [] name)).run
      resolved with
  | ok x => exact terminates_of_leads (hends.of_ok hrun) rfl
  | error e =>
    obtain ⟨last, hlast, hstopped⟩ := hends.of_error hrun
    exact terminates_of_leads hlast (by simp only [step, hstopped])

end Calls

/-- **Resolution on demand ends, and keeps its stack sound.** Whatever names are asked for one after
the other, there is no endless run, and the run comes to what the recursion of bounded depth does.
At every moment of it

* the stack has declared names that are not resolved, each once, and the recursion is no deeper than
  there are declared names, and one;
* a call that is entered comes back with the stack that it found, or the run stops, as the recursion
  does at the depth that the stack leaves;
* whatever is resolved stays as it is and where it is, and wherever a call is answered the stack is
  the one that it was entered with. -/
theorem requests_terminate (declared : OrderedMap Value) (requests : List String) :
    Terminates declared (.between requests ∅) ∧
      Ends (fun x => Leads declared (.between requests ∅) (.between [] x.2))
        (Stops declared (.between requests ∅))
        ((requests.forM fun name => discard (get declared declared.size [] name)).run ∅) ∧
      ∀ m, Leads declared (.between requests ∅) m →
        (m.stack.Nodup ∧ (∀ name ∈ m.stack, name ∈ declared.keys ∧ name ∉ m.resolved.keys) ∧
          m.depth ≤ declared.size + 1) ∧
        (∀ name, m.activity = .asked name →
          Ends (fun x => Leads declared m (m.answer x)) (Stops declared m)
            ((get declared (declared.size - m.stack.length) m.stack name).run m.resolved)) ∧
        ∀ later, Leads declared m later →
          m.resolved.entries <+: later.resolved.entries ∧
            ∀ name value, m.activity = .asked name → later.activity = .answered value →
              later.calls = m.calls → later.stack = m.stack := by
  refine ⟨terminates_between .., ends_requests .., fun m hm => ?_⟩
  obtain ⟨hsound, -⟩ := (sound_between declared requests ∅).run hm
  have hlength := length_le_size hsound.nodup hsound.mem_keys
  refine ⟨⟨hsound.nodup, fun name hname => ?_, hsound.depth_le⟩, fun name hasked => ?_,
    fun later hlater => ?_⟩
  · exact ⟨hsound.mem_keys name hname, hsound.unresolved name hname⟩
  · exact ends_asked hsound hasked (Nat.add_sub_cancel' hlength)
  · obtain ⟨hsound', hgrows⟩ := hsound.run hlater
    exact ⟨hgrows, fun name value hasked => hsound.stack_eq hasked hsound'⟩

/-- A list that first refers to a variable with a value of its own and then to one that refers
back. -/
def tangledList : Value := .array [.text "$\x7bport\x7d", .text "$\x7bright\x7d"]

/-- The variables of the list. -/
def tangledVariables : OrderedMap Value := .ofList
  [("left", tangledList), ("right", .text "$\x7bleft\x7d"), ("port", .integer 80)]

theorem requests_terminate_tangledVariables :
    Stops tangledVariables (.between ["left"] ∅) (.variableCycle ["left", "right", "left"]) ∧
      ∃ m, (Leads tangledVariables (.between ["left"] ∅) m ∧ m.activity = .asked "port") ∧
        (m.stack = ["left"] ∧ m.depth = 2 ∧ m.depth ≤ tangledVariables.size + 1) ∧
        ∃ later, (Leads tangledVariables m later ∧ later.activity = .answered (.integer 80) ∧
            later.calls = m.calls) ∧
          later.stack = m.stack ∧ m.resolved.entries <+: later.resolved.entries := by
  have hrun : (["left"].forM fun name =>
      discard (get tangledVariables tangledVariables.size [] name)).run ∅ =
        .error (.variableCycle ["left", "right", "left"]) := by cbv
  have hport : (get tangledVariables (tangledVariables.size - 1) ["left"] "port").run ∅ =
      .ok (.integer 80, (∅ : OrderedMap Value).insert "port" (.integer 80)) := by cbv
  have hleft : tangledVariables.get? "left" = some tangledList := by cbv
  have hsole : (interpolateValue Query.question (.text "$\x7bport\x7d") : Query Value) =
      Query.question "port" := by cbv
  obtain ⟨next, hnext⟩ : ∃ next, interpolateValue Query.question tangledList =
      Query.ask "port" next := by
    rw [tangledList, interpolateValue, interpolateValues, hsole]
    exact ⟨_, rfl⟩
  obtain ⟨-, hends, hmoments⟩ := requests_terminate tangledVariables ["left"]
  -- the list is entered, and its first question is asked
  have hasked : Leads tangledVariables (.between ["left"] ∅)
      ⟨[], .asked "port", [⟨"left", next⟩], ["left"], ∅⟩ := by
    have hunknown : (∅ : OrderedMap Value).get? "left" = none := rfl
    have henter : step tangledVariables ⟨[], .asked "left", [], [], ∅⟩ =
        some ⟨[], .substituting "left" (.ask "port" next), [], ["left"], ∅⟩ := by
      simp only [step, Moment.enter, hunknown, hleft, hnext, List.not_mem_nil, if_false,
        List.nil_append]
    exact .head rfl (.head henter (.single rfl))
  obtain ⟨⟨-, -, hdepth⟩, hcall, hlater⟩ := hmoments _ hasked
  have hanswer := (hcall "port" rfl).of_ok hport
  obtain ⟨hgrows, hstack⟩ := hlater _ hanswer
  exact ⟨hends.of_error hrun, _, ⟨hasked, rfl⟩, ⟨rfl, rfl, hdepth⟩, _, ⟨hanswer, rfl, rfl⟩,
    hstack "port" _ rfl rfl rfl, hgrows⟩

end Balancer.Resolver
