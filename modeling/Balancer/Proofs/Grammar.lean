import Balancer.Expression.Term
import Balancer.Proofs.Ends
import Mathlib

/-!
# The expression language and its meaning

Expressions between `${` and `}` follow the grammar

    expr    := term (("+" | "-") term)*
    term    := "-" term | primary
    primary := integer | text | name | "(" expr ")"

This file states the grammar by its **derivations**, one type of trees for each of its rules, with
the words that a derivation spells (`SumTree.yield`) and the value that it has when names are
looked up (`SumTree.Denotes`). Values are said without the evaluator: the sum of two integers is
the integer *whose value is* the sum of their values, so that there is none when that number needs
more than 64 bits; a chain is read from the left, because each of its operands is joined to the
value of everything before it.

`Balancer.Expression.evaluate_eq_ok_iff` says that evaluation accepts exactly the words of a
derivation and returns exactly its value. It goes through the terms into which the words are
grouped:

* every derivation is a term with the same value (`SumTree.evaluate_term`), and its words are
  grouped into that term (`SumTree.groupSum_yield`), whatever follows them that cannot go on with
  the expression;
* what grouping can make of words at all is said by three relations (`GroupsSum`), which have no
  bound; a term without a fault that comes about in one of these ways is that of a derivation that
  spells the words which were used up (`exists_sumTree_of_group`), and a term that has a value is
  without a fault.

Grouping counts down a number that bounds its depth. The bound only enters the first of the two:
where it runs out a fault takes the place of a term.
-/

namespace Balancer.Expression

open Balancer.Text

/-! ### Derivations -/

mutual

/-- **A derivation of `expr`**: a first operand and the tail of the chain. -/
inductive SumTree where
  | chain (first : OperandTree) (tail : TailTree)

/-- The rest of a chain: operands, each with the sign in front of it. -/
inductive TailTree where
  | done
  | plus (operand : OperandTree) (tail : TailTree)
  | minus (operand : OperandTree) (tail : TailTree)

/-- A derivation of `term`. -/
inductive OperandTree where
  | negated (operand : OperandTree)
  | primary (primary : PrimaryTree)

/-- A derivation of `primary`. -/
inductive PrimaryTree where
  | integer (n : Int64)
  | text (s : String)
  | name (s : String)
  | grouped (sum : SumTree)

end

mutual

/-- **The words that a derivation spells.** -/
def SumTree.yield : SumTree → List Token
  | .chain first tail => first.yield ++ tail.yield

/-- The words of the rest of a chain. -/
def TailTree.yield : TailTree → List Token
  | .done => []
  | .plus operand tail => .plus :: (operand.yield ++ tail.yield)
  | .minus operand tail => .minus :: (operand.yield ++ tail.yield)

/-- The words of an operand. -/
def OperandTree.yield : OperandTree → List Token
  | .negated operand => .minus :: operand.yield
  | .primary primary => primary.yield

/-- The words of a primary. -/
def PrimaryTree.yield : PrimaryTree → List Token
  | .integer n => [.integer n]
  | .text s => [.text s]
  | .name s => [.name s]
  | .grouped sum => .opening :: (sum.yield ++ [.closing])

end

/-! ### Values of derivations -/

/-- **The sum of two values**: of integers, exactly; of anything that can be rendered, the
concatenation, as soon as one of the two is a text. -/
inductive Added : Value → Value → Value → Prop
  | integers {a b c : Int64} (h : c.toInt = a.toInt + b.toInt) :
    Added (.integer a) (.integer b) (.integer c)
  | texts {a b : Value} {s t : String} (h : a.text?.isSome ∨ b.text?.isSome)
    (ha : a.render = some s) (hb : b.render = some t) : Added a b (.text (s ++ t))

/-- **The difference of two integers**, exactly. -/
inductive Subtracted : Value → Value → Value → Prop
  | integers {a b c : Int64} (h : c.toInt = a.toInt - b.toInt) :
    Subtracted (.integer a) (.integer b) (.integer c)

/-- **The opposite of an integer**, exactly. -/
inductive Negated : Value → Value → Prop
  | integer {a c : Int64} (h : c.toInt = -a.toInt) : Negated (.integer a) (.integer c)

section Denotation

variable (lookup : String → Except NormalizeError Value)

mutual

/-- **The value of a derivation**, with names looked up by `lookup`. -/
def SumTree.Denotes : SumTree → Value → Prop
  | .chain first tail, v => ∃ u, first.Denotes u ∧ tail.Denotes u v

/-- The value of a chain whose part to the left of the tail has the value `u`. -/
def TailTree.Denotes : TailTree → Value → Value → Prop
  | .done, u, v => u = v
  | .plus operand tail, u, v =>
    ∃ w x, operand.Denotes w ∧ Added u w x ∧ tail.Denotes x v
  | .minus operand tail, u, v =>
    ∃ w x, operand.Denotes w ∧ Subtracted u w x ∧ tail.Denotes x v

/-- The value of an operand. -/
def OperandTree.Denotes : OperandTree → Value → Prop
  | .negated operand, v => ∃ u, operand.Denotes u ∧ Negated u v
  | .primary primary, v => primary.Denotes v

/-- The value of a primary. -/
def PrimaryTree.Denotes : PrimaryTree → Value → Prop
  | .integer n, v => v = .integer n
  | .text s, v => v = .text s
  | .name s, v => lookup s = .ok v
  | .grouped sum, v => sum.Denotes v

end

end Denotation

/-! ### Operations on values are exact -/

/-- An integer of 64 bits exists exactly for the numbers that are the value of one. -/
theorem integerOf?_eq_some {n : Int} {m : Int64} : integerOf? n = some m ↔ m.toInt = n := by
  have hle := m.le_toInt
  have hlt := m.toInt_lt
  rw [integerOf?, minInteger, maxInteger]
  constructor
  · intro h
    split at h
    · rename_i hrange
      obtain rfl := Option.some.inj h
      exact Int64.toInt_ofInt_of_le (by omega) (by omega)
    · exact absurd h (by simp)
  · rintro rfl
    rw [if_pos (by omega), Int64.ofInt_toInt]

theorem subtractValues_eq_ok {a b c : Value} : subtractValues a b = .ok c ↔ Subtracted a b c := by
  constructor
  · intro h
    unfold subtractValues at h
    split at h
    · split at h
      · rename_i hm
        obtain rfl := Except.ok.inj h
        exact .integers (integerOf?_eq_some.1 hm)
      · exact absurd h (by simp)
    · exact absurd h (by simp)
  · rintro ⟨h⟩
    simp only [subtractValues, integerOf?_eq_some.2 h]

theorem negateValue_eq_ok {a c : Value} : negateValue a = .ok c ↔ Negated a c := by
  constructor
  · intro h
    unfold negateValue at h
    split at h
    · split at h
      · rename_i hm
        obtain rfl := Except.ok.inj h
        exact .integer (integerOf?_eq_some.1 hm)
      · exact absurd h (by simp)
    · exact absurd h (by simp)
  · rintro ⟨h⟩
    simp only [negateValue, integerOf?_eq_some.2 h]

theorem eq_text_of_isSome {v : Value} (h : v.text?.isSome) : ∃ s, v = .text s := by
  cases v with
  | text s => exact ⟨s, rfl⟩
  | _ => exact absurd h (by simp [Value.text?])

theorem addValues_text_left {s t : String} {b : Value} (hb : b.render = some t) :
    addValues (.text s) b = .ok (.text (s ++ t)) := by
  cases b <;> simp only [addValues, hb]

theorem addValues_text_right {a : Value} {s t : String} (ha : a.render = some s) :
    addValues a (.text t) = .ok (.text (s ++ t)) := by
  cases a with
  | text s' =>
    obtain rfl : s' = s := Option.some.inj ha
    rfl
  | _ => simp only [addValues, ha]

theorem addValues_eq_ok {a b c : Value} : addValues a b = .ok c ↔ Added a b c := by
  constructor
  · intro h
    unfold addValues at h
    split at h
    · split at h
      · rename_i hm
        obtain rfl := Except.ok.inj h
        exact .integers (integerOf?_eq_some.1 hm)
      · exact absurd h (by simp)
    · split at h
      · rename_i hb
        obtain rfl := Except.ok.inj h
        exact .texts (.inl rfl) rfl hb
      · exact absurd h (by simp)
    · split at h
      · rename_i ha
        obtain rfl := Except.ok.inj h
        exact .texts (.inr rfl) ha rfl
      · exact absurd h (by simp)
    · exact absurd h (by simp)
  · intro h
    cases h with
    | integers h => simp only [addValues, integerOf?_eq_some.2 h]
    | texts h ha hb =>
      rcases h with h | h
      · obtain ⟨s, rfl⟩ := eq_text_of_isSome h
        obtain rfl := Option.some.inj ha
        exact addValues_text_left hb
      · obtain ⟨t, rfl⟩ := eq_text_of_isSome h
        obtain rfl := Option.some.inj hb
        exact addValues_text_right ha

/-! ### The term of a derivation -/

mutual

/-- **The term of a derivation.** -/
def SumTree.term : SumTree → Term
  | .chain first tail => tail.term first.term

/-- The term of a chain whose part to the left of the tail is known. -/
def TailTree.term : TailTree → Term → Term
  | .done, left => left
  | .plus operand tail, left => tail.term (.add left operand.term)
  | .minus operand tail, left => tail.term (.subtract left operand.term)

/-- The term of an operand. -/
def OperandTree.term : OperandTree → Term
  | .negated operand => .negate operand.term
  | .primary primary => primary.term

/-- The term of a primary. -/
def PrimaryTree.term : PrimaryTree → Term
  | .integer n => .integer n
  | .text s => .text s
  | .name s => .name s
  | .grouped sum => sum.term

end

section Evaluation

variable {source : String} {lookup : String → Except NormalizeError Value}

theorem lift_eq_ok {x : Except Fault Value} {v : Value} :
    (lift source x : Except NormalizeError Value) = .ok v ↔ x = .ok v := by
  cases x with
  | ok u => exact ⟨fun h => congrArg _ (Except.ok.inj h), fun h => congrArg _ (Except.ok.inj h)⟩
  | error fault => exact ⟨nofun, nofun⟩

theorem evaluate_add_eq_ok {left right : Term} {v : Value} :
    (Term.add left right).evaluate source lookup = .ok v ↔
      ∃ u w, left.evaluate source lookup = .ok u ∧ right.evaluate source lookup = .ok w ∧
        Added u w v := by
  simp only [Term.evaluate, bind_eq_ok, lift_eq_ok, addValues_eq_ok, exists_and_left]

theorem evaluate_subtract_eq_ok {left right : Term} {v : Value} :
    (Term.subtract left right).evaluate source lookup = .ok v ↔
      ∃ u w, left.evaluate source lookup = .ok u ∧ right.evaluate source lookup = .ok w ∧
        Subtracted u w v := by
  simp only [Term.evaluate, bind_eq_ok, lift_eq_ok, subtractValues_eq_ok, exists_and_left]

theorem evaluate_negate_eq_ok {term : Term} {v : Value} :
    (Term.negate term).evaluate source lookup = .ok v ↔
      ∃ u, term.evaluate source lookup = .ok u ∧ Negated u v := by
  simp only [Term.evaluate, bind_eq_ok, lift_eq_ok, negateValue_eq_ok]

mutual

/-- **A derivation and its term have the same value.** -/
theorem SumTree.evaluate_term (d : SumTree) (v : Value) :
    d.term.evaluate source lookup = .ok v ↔ d.Denotes lookup v := by
  match d with
  | .chain first tail =>
    rw [SumTree.term, tail.evaluate_term, SumTree.Denotes]
    simp only [first.evaluate_term]

theorem TailTree.evaluate_term (tail : TailTree) (left : Term) (v : Value) :
    (tail.term left).evaluate source lookup = .ok v ↔
      ∃ u, left.evaluate source lookup = .ok u ∧ tail.Denotes lookup u v := by
  match tail with
  | .done => simp [TailTree.term, TailTree.Denotes]
  | .plus operand tail =>
    rw [TailTree.term, tail.evaluate_term]
    simp only [evaluate_add_eq_ok, operand.evaluate_term, TailTree.Denotes]
    constructor
    · rintro ⟨x, ⟨u, w, hu, hw, hx⟩, hv⟩
      exact ⟨u, hu, w, x, hw, hx, hv⟩
    · rintro ⟨u, hu, w, x, hw, hx, hv⟩
      exact ⟨x, ⟨u, w, hu, hw, hx⟩, hv⟩
  | .minus operand tail =>
    rw [TailTree.term, tail.evaluate_term]
    simp only [evaluate_subtract_eq_ok, operand.evaluate_term, TailTree.Denotes]
    constructor
    · rintro ⟨x, ⟨u, w, hu, hw, hx⟩, hv⟩
      exact ⟨u, hu, w, x, hw, hx, hv⟩
    · rintro ⟨u, hu, w, x, hw, hx, hv⟩
      exact ⟨x, ⟨u, w, hu, hw, hx⟩, hv⟩

theorem OperandTree.evaluate_term (operand : OperandTree) (v : Value) :
    operand.term.evaluate source lookup = .ok v ↔ operand.Denotes lookup v := by
  match operand with
  | .negated operand =>
    rw [OperandTree.term, evaluate_negate_eq_ok, OperandTree.Denotes]
    simp only [operand.evaluate_term]
  | .primary primary => exact primary.evaluate_term v

theorem PrimaryTree.evaluate_term (primary : PrimaryTree) (v : Value) :
    primary.term.evaluate source lookup = .ok v ↔ primary.Denotes lookup v := by
  match primary with
  | .integer n => exact ⟨fun h => (Except.ok.inj h).symm, fun h => congrArg _ h.symm⟩
  | .text s => exact ⟨fun h => (Except.ok.inj h).symm, fun h => congrArg _ h.symm⟩
  | .name s => exact Iff.rfl
  | .grouped sum => exact sum.evaluate_term v

end

end Evaluation

/-! ### The words of a derivation are grouped into its term -/

/-- Words that cannot go on with a sum: none, or a first one that is neither a sign nor an
opening. -/
def Stops (rest : List Token) : Prop :=
  ∀ token ∈ rest.head?, token ≠ .plus ∧ token ≠ .minus ∧ token ≠ .opening

theorem groupSumFrom_of_stops {rest : List Token} (h : Stops rest) (fuel : Nat) (left : Term) :
    groupSumFrom fuel left rest = (left, rest) := by
  cases fuel with
  | zero => cases rest <;> rfl
  | succ fuel =>
    cases rest with
    | nil => rfl
    | cons token rest =>
      obtain ⟨hplus, hminus, -⟩ := h token rfl
      cases token with
      | plus => exact absurd rfl hplus
      | minus => exact absurd rfl hminus
      | _ => rfl

/-- What follows an operand inside a chain does not open a call. -/
theorem TailTree.head?_yield_ne_opening (tail : TailTree) {rest : List Token} (h : Stops rest) :
    (tail.yield ++ rest).head? ≠ some .opening := by
  cases tail with
  | done => exact fun heq => (h .opening heq).2.2 rfl
  | plus operand tail => simp [TailTree.yield]
  | minus operand tail => simp [TailTree.yield]

mutual

/-- **The words of a derivation are grouped into its term**, and what follows them is left. -/
theorem SumTree.groupSum_yield (d : SumTree) {rest : List Token} (hrest : Stops rest) (fuel : Nat)
    (hfuel : 2 * d.yield.length + 1 ≤ fuel) : groupSum fuel (d.yield ++ rest) = (d.term, rest) := by
  match d, fuel with
  | .chain first tail, 0 => omega
  | .chain first tail, fuel + 1 =>
    simp only [SumTree.yield, List.length_append] at hfuel
    rw [SumTree.yield, List.append_assoc, groupSum,
      first.groupOperand_yield (tail.head?_yield_ne_opening hrest) fuel (by omega)]
    exact tail.groupSumFrom_yield hrest fuel first.term (by omega)

theorem TailTree.groupSumFrom_yield (tail : TailTree) {rest : List Token} (hrest : Stops rest)
    (fuel : Nat) (left : Term) (hfuel : 2 * tail.yield.length ≤ fuel) :
    groupSumFrom fuel left (tail.yield ++ rest) = (tail.term left, rest) := by
  match tail, fuel with
  | .done, fuel => exact groupSumFrom_of_stops hrest fuel left
  | .plus operand tail, 0 => simp [TailTree.yield] at hfuel
  | .plus operand tail, fuel + 1 =>
    simp only [TailTree.yield, List.length_cons, List.length_append] at hfuel
    rw [TailTree.yield, List.cons_append, List.append_assoc, groupSumFrom,
      operand.groupOperand_yield (tail.head?_yield_ne_opening hrest) fuel (by omega)]
    exact tail.groupSumFrom_yield hrest fuel _ (by omega)
  | .minus operand tail, 0 => simp [TailTree.yield] at hfuel
  | .minus operand tail, fuel + 1 =>
    simp only [TailTree.yield, List.length_cons, List.length_append] at hfuel
    rw [TailTree.yield, List.cons_append, List.append_assoc, groupSumFrom,
      operand.groupOperand_yield (tail.head?_yield_ne_opening hrest) fuel (by omega)]
    exact tail.groupSumFrom_yield hrest fuel _ (by omega)

theorem OperandTree.groupOperand_yield (operand : OperandTree) {rest : List Token}
    (hrest : rest.head? ≠ some .opening) (fuel : Nat) (hfuel : 2 * operand.yield.length ≤ fuel) :
    groupOperand fuel (operand.yield ++ rest) = (operand.term, rest) := by
  match operand, fuel with
  | .negated operand, 0 => simp [OperandTree.yield] at hfuel
  | .negated operand, fuel + 1 =>
    simp only [OperandTree.yield, List.length_cons] at hfuel
    rw [OperandTree.yield, List.cons_append, groupOperand,
      operand.groupOperand_yield hrest fuel (by omega)]
    rfl
  | .primary primary, fuel => exact primary.groupOperand_yield hrest fuel hfuel

theorem PrimaryTree.groupOperand_yield (primary : PrimaryTree) {rest : List Token}
    (hrest : rest.head? ≠ some .opening) (fuel : Nat) (hfuel : 2 * primary.yield.length ≤ fuel) :
    groupOperand fuel (primary.yield ++ rest) = (primary.term, rest) := by
  match primary, fuel with
  | .integer n, 0 | .text s, 0 | .name s, 0 | .grouped sum, 0 => simp [PrimaryTree.yield] at hfuel
  | .integer n, fuel + 1 => rfl
  | .text s, fuel + 1 => rfl
  | .name s, fuel + 1 =>
    -- a name before an opening would be a call
    cases rest with
    | nil => rfl
    | cons token rest =>
      cases token with
      | opening => exact absurd rfl hrest
      | _ => rfl
  | .grouped sum, fuel + 1 =>
    simp only [PrimaryTree.yield, List.length_cons, List.length_append] at hfuel
    have hstops : Stops (.closing :: rest) := by
      rintro token ⟨⟩
      exact ⟨nofun, nofun, nofun⟩
    have hsum := sum.groupSum_yield hstops fuel (by simp at hfuel; omega)
    simp only [PrimaryTree.yield, List.cons_append, List.append_assoc, List.nil_append,
      groupOperand, hsum, PrimaryTree.term]

end

/-! ### What grouping can do -/

mutual

/-- **The ways of grouping a sum**: from the words, a term and the words after it. These and the
two relations below say which terms come about and from which words, and leave open when; in
particular they have no bound of the depth. -/
inductive GroupsSum : List Token → Term → List Token → Prop
  | exhausted {tokens : List Token} : GroupsSum tokens (.fault .endOfExpression) []
  | chain {tokens rest rest' : List Token} {first term : Term}
    (hfirst : GroupsOperand tokens first rest) (htail : GroupsTail first rest term rest') :
    GroupsSum tokens term rest'

/-- The ways of going on with a sum whose left part is known. -/
inductive GroupsTail : Term → List Token → Term → List Token → Prop
  | done {left : Term} {tokens : List Token} : GroupsTail left tokens left tokens
  | plus {left right term : Term} {tokens rest rest' : List Token}
    (hright : GroupsOperand tokens right rest)
    (htail : GroupsTail (.add left right) rest term rest') :
    GroupsTail left (.plus :: tokens) term rest'
  | minus {left right term : Term} {tokens rest rest' : List Token}
    (hright : GroupsOperand tokens right rest)
    (htail : GroupsTail (.subtract left right) rest term rest') :
    GroupsTail left (.minus :: tokens) term rest'

/-- The ways of grouping an operand. -/
inductive GroupsOperand : List Token → Term → List Token → Prop
  | fault {tokens : List Token} {reason : Fault} : GroupsOperand tokens (.fault reason) []
  | integer {n : Int64} {rest : List Token} : GroupsOperand (.integer n :: rest) (.integer n) rest
  | text {s : String} {rest : List Token} : GroupsOperand (.text s :: rest) (.text s) rest
  | name {s : String} {rest : List Token} : GroupsOperand (.name s :: rest) (.name s) rest
  | negate {term : Term} {tokens rest : List Token} (h : GroupsOperand tokens term rest) :
    GroupsOperand (.minus :: tokens) (.negate term) rest
  | grouped {term : Term} {tokens rest : List Token}
    (h : GroupsSum tokens term (.closing :: rest)) :
    GroupsOperand (.opening :: tokens) term rest
  | unclosed {term : Term} {tokens rest : List Token} (h : GroupsSum tokens term rest) :
    GroupsOperand (.opening :: tokens) (.before term .missingClosing) []

end

/-- Grouping with a given bound keeps to these ways. -/
structure GroupsWithin (fuel : Nat) : Prop where
  sum (tokens : List Token) :
    GroupsSum tokens (groupSum fuel tokens).1 (groupSum fuel tokens).2
  tail (left : Term) (tokens : List Token) :
    GroupsTail left tokens (groupSumFrom fuel left tokens).1 (groupSumFrom fuel left tokens).2
  operand (tokens : List Token) :
    GroupsOperand tokens (groupOperand fuel tokens).1 (groupOperand fuel tokens).2

theorem groupsWithin_zero : GroupsWithin 0 where
  sum _ := .exhausted
  tail _ tokens := by cases tokens <;> exact .done
  operand tokens := by cases tokens <;> exact .fault

theorem GroupsWithin.operand_succ {fuel : Nat} (ih : GroupsWithin fuel) (tokens : List Token) :
    GroupsOperand tokens (groupOperand (fuel + 1) tokens).1 (groupOperand (fuel + 1) tokens).2 := by
  cases tokens with
  | nil => exact .fault
  | cons token tokens =>
    cases token with
    | integer n => exact .integer
    | text s => exact .text
    | name s =>
      -- a name with an opening after it would be a call
      cases tokens with
      | nil => exact .name
      | cons next tokens =>
        cases next with
        | opening => exact .fault
        | _ => exact .name
    | minus => exact .negate (ih.operand tokens)
    | opening =>
      have hsum := ih.sum tokens
      simp only [groupOperand]
      split
      · rename_i heq
        rw [heq] at hsum
        exact .grouped hsum
      · rename_i heq
        rw [heq] at hsum
        exact .unclosed hsum
    | plus => exact .fault
    | closing => exact .fault

theorem groupsWithin (fuel : Nat) : GroupsWithin fuel := by
  induction fuel with
  | zero => exact groupsWithin_zero
  | succ fuel ih =>
    refine ⟨fun tokens => ?_, fun left tokens => ?_, ih.operand_succ⟩
    · exact .chain (ih.operand tokens) (ih.tail _ _)
    · cases tokens with
      | nil => exact .done
      | cons token tokens =>
        cases token with
        | plus => exact .plus (ih.operand tokens) (ih.tail _ _)
        | minus => exact .minus (ih.operand tokens) (ih.tail _ _)
        | _ => exact .done

/-- The words of an expression are grouped into a sum; if words are left over, evaluation ends
after it. -/
theorem group_cases (tokens : List Token) :
    GroupsSum tokens (group tokens) [] ∨
      ∃ term rest reason, GroupsSum tokens term rest ∧ group tokens = .before term reason := by
  have hsum := (groupsWithin (2 * tokens.length + 2)).sum tokens
  rw [group]
  split
  · rename_i heq
    rw [heq] at hsum
    exact Or.inl hsum
  · rename_i term token rest heq
    rw [heq] at hsum
    exact Or.inr ⟨term, token :: rest, _, hsum, rfl⟩

/-! ### A term without a fault is that of a derivation -/

/-- **Terms without a fault.** -/
def Term.Sound : Term → Prop
  | integer _ | text _ | name _ => True
  | negate term => term.Sound
  | add left right | subtract left right => left.Sound ∧ right.Sound
  | fault _ | before _ _ => False

/-- A term that has a value is without a fault: evaluation ends at the first fault. -/
theorem Term.sound_of_evaluate {source : String} {lookup : String → Except NormalizeError Value}
    {term : Term} {v : Value} (h : term.evaluate source lookup = .ok v) : term.Sound := by
  induction term generalizing v with
  | integer n => trivial
  | text s => trivial
  | name s => trivial
  | negate term ih =>
    obtain ⟨u, hu, -⟩ := evaluate_negate_eq_ok.1 h
    exact ih hu
  | add left right ihl ihr =>
    obtain ⟨u, w, hu, hw, -⟩ := evaluate_add_eq_ok.1 h
    exact ⟨ihl hu, ihr hw⟩
  | subtract left right ihl ihr =>
    obtain ⟨u, w, hu, hw, -⟩ := evaluate_subtract_eq_ok.1 h
    exact ⟨ihl hu, ihr hw⟩
  | fault reason => exact nomatch h
  | before term reason ih =>
    obtain ⟨u, -, h⟩ := bind_eq_ok.1 h
    exact nomatch h

/-- The left part of a chain without a fault is without a fault. -/
theorem TailTree.sound_left {tail : TailTree} {left : Term} (h : (tail.term left).Sound) :
    left.Sound := by
  match tail with
  | .done => exact h
  | .plus operand tail => exact (tail.sound_left h).1
  | .minus operand tail => exact (tail.sound_left h).1

mutual

theorem GroupsSum.exists_sumTree {tokens rest : List Token} {term : Term}
    (h : GroupsSum tokens term rest) (hsound : term.Sound) :
    ∃ d : SumTree, d.term = term ∧ d.yield ++ rest = tokens := by
  match h with
  | .exhausted => exact hsound.elim
  | .chain hfirst htail =>
    obtain ⟨tail, hterm, hrest⟩ := htail.exists_tailTree hsound
    have hleft := tail.sound_left (hterm ▸ hsound)
    obtain ⟨operand, rfl, rfl⟩ := hfirst.exists_operandTree hleft
    subst hterm hrest
    exact ⟨.chain operand tail, rfl, by rw [SumTree.yield, List.append_assoc]⟩

theorem GroupsTail.exists_tailTree {left term : Term} {tokens rest : List Token}
    (h : GroupsTail left tokens term rest) (hsound : term.Sound) :
    ∃ tail : TailTree, tail.term left = term ∧ tail.yield ++ rest = tokens := by
  match h with
  | .done => exact ⟨.done, rfl, rfl⟩
  | .plus hright htail =>
    obtain ⟨tail, hterm, hrest⟩ := htail.exists_tailTree hsound
    have hleft := tail.sound_left (hterm ▸ hsound)
    obtain ⟨operand, rfl, rfl⟩ := hright.exists_operandTree hleft.2
    subst hterm hrest
    exact ⟨.plus operand tail, rfl, by simp [TailTree.yield]⟩
  | .minus hright htail =>
    obtain ⟨tail, hterm, hrest⟩ := htail.exists_tailTree hsound
    have hleft := tail.sound_left (hterm ▸ hsound)
    obtain ⟨operand, rfl, rfl⟩ := hright.exists_operandTree hleft.2
    subst hterm hrest
    exact ⟨.minus operand tail, rfl, by simp [TailTree.yield]⟩

theorem GroupsOperand.exists_operandTree {term : Term} {tokens rest : List Token}
    (h : GroupsOperand tokens term rest) (hsound : term.Sound) :
    ∃ operand : OperandTree, operand.term = term ∧ operand.yield ++ rest = tokens := by
  match h with
  | .fault => exact hsound.elim
  | .integer => exact ⟨.primary (.integer _), rfl, rfl⟩
  | .text => exact ⟨.primary (.text _), rfl, rfl⟩
  | .name => exact ⟨.primary (.name _), rfl, rfl⟩
  | .negate h =>
    obtain ⟨operand, rfl, rfl⟩ := h.exists_operandTree hsound
    exact ⟨.negated operand, rfl, rfl⟩
  | .grouped h =>
    obtain ⟨d, rfl, rfl⟩ := h.exists_sumTree hsound
    exact ⟨.primary (.grouped d), rfl, by simp [OperandTree.yield, PrimaryTree.yield]⟩
  | .unclosed h => exact hsound.elim

end

/-- **Words that are grouped without a fault are those of a derivation.** -/
theorem exists_sumTree_of_group {tokens : List Token} (h : (group tokens).Sound) :
    ∃ d : SumTree, d.yield = tokens ∧ d.term = group tokens := by
  rcases group_cases tokens with hsum | ⟨term, rest, reason, -, hgroup⟩
  · obtain ⟨d, hterm, hyield⟩ := hsum.exists_sumTree h
    exact ⟨d, by rw [← hyield, List.append_nil], hterm⟩
  · rw [hgroup] at h
    exact h.elim

/-- The words of a derivation are grouped into its term, with nothing left over. -/
theorem SumTree.group_yield (d : SumTree) : group d.yield = d.term := by
  have hnil : Stops [] := nofun
  have hsum := d.groupSum_yield hnil (2 * d.yield.length + 2) (by omega)
  rw [List.append_nil] at hsum
  simp only [group, hsum]

/-! ### Evaluation -/

/-- **The language of expressions and its meaning**: an expression has a value exactly when it falls
into words that a derivation of the grammar spells, and the value is that of the derivation. -/
theorem evaluate_eq_ok_iff (source : String) (lookup : String → Except NormalizeError Value)
    (v : Value) :
    evaluate source lookup = .ok v ↔
      ∃ tokens, lex source = .ok tokens ∧
        ∃ d : SumTree, d.yield = tokens ∧ d.Denotes lookup v := by
  constructor
  · intro h
    cases hlex : lex source with
    | error fault =>
      simp only [evaluate, hlex] at h
      exact nomatch h
    | ok tokens =>
      simp only [evaluate, hlex] at h
      obtain ⟨d, hyield, hterm⟩ := exists_sumTree_of_group (Term.sound_of_evaluate h)
      rw [← hterm] at h
      exact ⟨tokens, rfl, d, hyield, (d.evaluate_term v).1 h⟩
  · rintro ⟨tokens, hlex, d, rfl, hdenotes⟩
    simp only [evaluate, hlex, d.group_yield]
    exact (d.evaluate_term v).2 hdenotes

/-- What stands to the left has been added up when a text makes the chain a concatenation. -/
example : (evaluate "1 + 2 + 'a'" (fun name => .error (.undefinedVariable name)) :
    Except NormalizeError Value) = .ok (.text "3a") := by cbv

end Balancer.Expression
