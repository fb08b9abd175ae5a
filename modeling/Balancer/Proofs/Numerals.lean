import Balancer.Proofs.Enclosing

/-!
# The numerals of integers

The numeral of an integer is what it renders as: a minus sign where it is negative, and the decimal
digits. It is read in two places, and they differ in what they take the sign for.

* Typed fields and the bounds of loops read sign and digits as one thing, and so they read every
  numeral back (`readInteger?_integerText`), with blanks around it or not (`trim_integerText`).
* In an expression the sign is an operator, and the digits behind it have to be an integer on their
  own. There is one integer whose opposite is none: the smallest one. Its numeral is refused, and
  all others have the integer for their value (`Expression.evaluate_numeral`).
-/

namespace Balancer

open Text

namespace Text

/-! ### Digits -/

theorem isDigit_of_mem_toDigits {n : Nat} {c : Char} (h : c ∈ Nat.toDigits 10 n) : isDigit c :=
  Nat.isDigit_of_mem_toDigits (by decide) (by decide) h

theorem bounds_of_isDigit {c : Char} (h : isDigit c) : 48 ≤ c.toNat ∧ c.toNat ≤ 57 := by
  simp only [isDigit, Bool.and_eq_true, decide_eq_true_eq, Char.le_def,
    UInt32.le_iff_toNat_le] at h
  exact h

theorem isBlank_of_isDigit {c : Char} (h : isDigit c) : isBlank c = false := by
  have hbounds := bounds_of_isDigit h
  simp only [isBlank, Bool.or_eq_false_iff, Bool.and_eq_false_iff, decide_eq_false_iff_not,
    beq_eq_false_iff_ne]
  omega

theorem natOfDigits_toDigits (n : Nat) : natOfDigits (Nat.toDigits 10 n) = n :=
  Nat.ofDigitChars_ten_toDigits

theorem natOf?_toDigits (n : Nat) : natOf? (Nat.toDigits 10 n) = some n := by
  have hdigits : (Nat.toDigits 10 n).all isDigit :=
    List.all_eq_true.2 fun _ => isDigit_of_mem_toDigits
  rw [natOf?, hdigits, natOfDigits_toDigits]
  simp

/-! ### Numerals -/

theorem toList_integerText (n : Int64) :
    (integerText n).toList = (if n.toInt < 0 then ['-'] else []) ++
      Nat.toDigits 10 n.toInt.natAbs := by
  rw [integerText]
  split <;> simp [natText]

/-- **A numeral is read back.** -/
theorem readInteger?_integerText (n : Int64) : readInteger? (integerText n) = some n := by
  rw [readInteger?, toList_integerText]
  split_ifs with hsign
  · have hvalue : -(n.toInt.natAbs : Int) = n.toInt := by omega
    simp only [List.cons_append, List.nil_append, natOf?_toDigits, Option.bind_some, hvalue]
    exact Expression.integerOf?_eq_some.2 rfl
  · have hvalue : (n.toInt.natAbs : Int) = n.toInt := by omega
    have hhead (c : Char) (cs : List Char) (h : [] ++ Nat.toDigits 10 n.toInt.natAbs = c :: cs) :
        isDigit c :=
      isDigit_of_mem_toDigits (h ▸ List.mem_cons_self)
    split
    case h_1 cs h => exact absurd (hhead _ cs h) (by decide)
    case h_2 cs h => exact absurd (hhead _ cs h) (by decide)
    case h_3 =>
      rw [List.nil_append, natOf?_toDigits, Option.bind_some, hvalue]
      exact Expression.integerOf?_eq_some.2 rfl

/-- Only digits and the sign are in a numeral. -/
theorem isDigit_or_sign_of_mem_integerText {n : Int64} {c : Char}
    (h : c ∈ (integerText n).toList) : isDigit c ∨ c = '-' := by
  rw [toList_integerText, List.mem_append] at h
  rcases h with h | h
  · split at h
    · exact .inr (List.mem_singleton.1 h)
    · exact absurd h List.not_mem_nil
  · exact .inl (isDigit_of_mem_toDigits h)

theorem isBlank_of_mem_integerText {n : Int64} {c : Char} (h : c ∈ (integerText n).toList) :
    isBlank c = false := by
  rcases isDigit_or_sign_of_mem_integerText h with hdigit | rfl
  · exact isBlank_of_isDigit hdigit
  · decide

/-- A text without blanks around it is what trimming makes of it. -/
theorem trim_eq_self {s : String} (hfirst : ∀ c ∈ s.toList.head?, isBlank c = false)
    (hlast : ∀ c ∈ s.toList.getLast?, isBlank c = false) : trim s = s := by
  have hdrop (cs : List Char) (h : ∀ c ∈ cs.head?, isBlank c = false) :
      cs.dropWhile isBlank = cs := by
    cases cs with
    | nil => rfl
    | cons c cs => simp [h c rfl]
  rw [trim, trimChars, hdrop _ hfirst, hdrop, List.reverse_reverse, String.ofList_toList]
  simpa using hlast

theorem trim_integerText (n : Int64) : trim (integerText n) = integerText n :=
  trim_eq_self (fun _ hc => isBlank_of_mem_integerText (List.mem_of_mem_head? hc))
    fun _ hc => isBlank_of_mem_integerText (List.mem_of_mem_getLast? hc)

end Text

/-! ### Numerals as expressions -/

namespace Expression

theorem begin_of_isDigit {c : Char} (h : isDigit c) : Scan.begin c = .ok ([], .digits [c]) := by
  have hbounds := bounds_of_isDigit h
  have hne (d : Char) (hd : d.toNat < 48) : c ≠ d := by
    rintro rfl
    omega
  rw [Scan.begin, isBlank_of_isDigit h, if_neg (by simp), if_neg (hne _ (by decide)),
    if_neg (hne _ (by decide)), if_neg (hne _ (by decide)), if_neg (hne _ (by decide)), if_pos h]

theorem lexFrom_digits {cs : List Char} (h : ∀ c ∈ cs, isDigit c) (read : List Char) :
    lexFrom (.digits read) cs = (do return [← integerToken (cs.reverse ++ read)]) := by
  induction cs generalizing read with
  | nil => rw [lexFrom, Scan.close, List.reverse_nil, List.nil_append]
  | cons c cs ih =>
    obtain ⟨hc, hcs⟩ := List.forall_mem_cons.1 h
    have hstep : (Scan.digits read).step c = .ok ([], .digits (c :: read)) := by
      rw [Scan.step, if_pos hc]
    rw [lexFrom_of_step hstep, ih hcs, List.reverse_cons, List.append_assoc]
    simp

/-- The digits of a number are one word, if the number is an integer. -/
theorem lexFrom_toDigits (n : Nat) :
    lexFrom .between (Nat.toDigits 10 n) =
      match integerOf? n with
      | some k => .ok [.integer k]
      | none => .error (.outOfRange (natText n)) := by
  have hdigits (c : Char) (h : c ∈ Nat.toDigits 10 n) : isDigit c := isDigit_of_mem_toDigits h
  have hvalue := natOfDigits_toDigits n
  rw [natText]
  cases hchars : Nat.toDigits 10 n with
  | nil => exact absurd hchars Nat.toDigits_ne_nil
  | cons c cs =>
    rw [hchars] at hdigits hvalue
    obtain ⟨hc, hcs⟩ := List.forall_mem_cons.1 hdigits
    have hstep : Scan.between.step c = .ok ([], .digits [c]) := begin_of_isDigit hc
    rw [lexFrom_of_step hstep, lexFrom_digits hcs, integerToken]
    simp only [List.reverse_append, List.reverse_reverse, List.reverse_singleton,
      List.singleton_append, hvalue]
    cases integerOf? n <;> rfl

/-- The words of a numeral: the sign and the digits, if the latter are an integer. -/
theorem lex_integerText (n : Int64) :
    lex (integerText n) =
      match integerOf? n.toInt.natAbs with
      | some k => .ok (if n.toInt < 0 then [.minus, .integer k] else [.integer k])
      | none => .error (.outOfRange (natText n.toInt.natAbs)) := by
  rw [lex, toList_integerText]
  split
  · have hstep : Scan.between.step '-' = .ok ([.minus], .between) := rfl
    rw [List.singleton_append, lexFrom_of_step hstep, lexFrom_toDigits]
    cases integerOf? n.toInt.natAbs <;> rfl
  · rw [List.nil_append, lexFrom_toDigits]

/-- There is one integer whose absolute value is none. -/
theorem integerOf?_natAbs_eq_none_iff {n : Int64} :
    integerOf? n.toInt.natAbs = none ↔ n = Int64.minValue := by
  have hle := n.le_toInt
  have hlt := n.toInt_lt
  rw [← Int64.toInt_inj, Int64.toInt_minValue, integerOf?, minInteger, maxInteger]
  simp only [ite_eq_right_iff, reduceCtorEq, imp_false]
  omega

section Numerals

variable {m : Type → Type} [Monad m] [LawfulMonad m] [MonadExceptOf NormalizeError m]

/-- The value of a sign and an integer. -/
theorem evaluate_of_lex_signed {source : String} {n k : Int64}
    (hlex : lex source = .ok (if n.toInt < 0 then [.minus, .integer k] else [.integer k]))
    (hk : k.toInt = n.toInt.natAbs) (lookup : String → m Value) :
    evaluate source lookup = pure (.integer n) := by
  by_cases hsign : n.toInt < 0
  · have hgroup : group [.minus, .integer k] = .negate (.integer k) := rfl
    have hopposite : integerOf? (-k.toInt) = some n := integerOf?_eq_some.2 (by omega)
    rw [if_pos hsign] at hlex
    simp only [evaluate, hlex, hgroup, Term.evaluate, pure_bind, negateValue, hopposite, lift]
  · have hgroup : group [.integer k] = .integer k := rfl
    obtain rfl : k = n := Int64.toInt_inj.1 (by omega)
    rw [if_neg hsign] at hlex
    simp only [evaluate, hlex, hgroup, Term.evaluate]

end Numerals

end Expression

theorem soleExpression?_reference_integerText (n : Int64) :
    soleExpression? (reference (integerText n)) = some (integerText n) := by
  refine soleExpression?_eq_some_iff.2 ⟨pieces_reference fun h => ?_, unmarked_integerText n⟩
  rcases isDigit_or_sign_of_mem_integerText h with h | h
  · exact absurd h (by decide)
  · exact absurd h (by decide)

/-- **Which integers can be written into an expression.** Whatever names are looked up for, the
numeral of an integer has the integer for its value, on its own and between marker and brace. Only
the smallest integer is refused, because its digits are read before its sign. -/
theorem Expression.evaluate_numeral {m : Type → Type} [Monad m] [LawfulMonad m]
    [MonadExceptOf NormalizeError m] (lookup : String → m Value) {n : Int64} {source : String}
    (h : (Value.integer n).render = some source) :
    (n ≠ Int64.minValue → evaluate source lookup = pure (.integer n)) ∧
      (n = Int64.minValue → evaluate source lookup =
        throw (.expression source (.outOfRange "9223372036854775808"))) ∧
      interpolateValue lookup (.text (reference source)) = evaluate source lookup := by
  rw [Value.render] at h
  cases h
  refine ⟨fun hne => ?_, ?_, ?_⟩
  · have hsome := mt integerOf?_natAbs_eq_none_iff.1 hne
    obtain ⟨k, hk⟩ := Option.ne_none_iff_exists'.1 hsome
    refine evaluate_of_lex_signed ?_ (integerOf?_eq_some.1 hk) lookup
    rw [lex_integerText, hk]
  · rintro rfl
    have hlex : lex (integerText Int64.minValue) = .error (.outOfRange "9223372036854775808") := by
      rw [lex_integerText, integerOf?_natAbs_eq_none_iff.2 rfl]
      rfl
    rw [evaluate, hlex]
  · rw [interpolateValue, soleExpression?_reference_integerText]

/-- The opposite of the greatest integer and the integer below it, where variables are resolved on
demand. -/
theorem Expression.evaluate_numeral_ends :
    (Value.integer (-9223372036854775807)).render = some "-9223372036854775807" ∧
      (∀ lookup : String → Resolver.Memo Value,
        evaluate "-9223372036854775807" lookup = pure (.integer (-9223372036854775807))) ∧
      (Value.integer Int64.minValue).render = some "-9223372036854775808" ∧
      ∀ lookup : String → Resolver.Memo Value,
        evaluate "-9223372036854775808" lookup =
          throw (.expression "-9223372036854775808" (.outOfRange "9223372036854775808")) := by
  have hsmall : (Value.integer (-9223372036854775807)).render = some "-9223372036854775807" := by
    cbv
  have hsmallest : (Value.integer Int64.minValue).render = some "-9223372036854775808" := by cbv
  exact ⟨hsmall, fun lookup => (evaluate_numeral lookup hsmall).1 (by decide), hsmallest,
    fun lookup => (evaluate_numeral lookup hsmallest).2.1 rfl⟩

/-- **The numeral of the smallest integer has no value** as an expression, though a typed field
reads it back. -/
theorem Expression.smallest_numeral_refused :
    (Value.integer Int64.minValue).render = some "-9223372036854775808" ∧
      (Value.text "-9223372036854775808").toInteger "x" = .ok Int64.minValue ∧
      evaluate "-9223372036854775808" ({} : OrderedMap Value).lookupVariable =
        .error (.expression "-9223372036854775808" (.outOfRange "9223372036854775808")) := by
  refine ⟨?_, ?_, ?_⟩ <;> cbv

end Balancer
