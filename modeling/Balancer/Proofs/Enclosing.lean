import Balancer.Proofs.Naming

/-!
# Where an expression ends

Two readers look at what stands between `${` and `}`. Substitution comes first and knows nothing of
the expression language: an expression is what stands before the next closing brace. The scanner of
the expression language comes second, and to it a closing brace is a character like any other,
as long as it stands in a literal. So the two disagree about a literal with a brace in it.

* A closing brace begins no word of an expression and goes on none but a literal
  (`Expression.literalOnly_closing`). An expression that has a value and is cut there is cut inside
  a literal, and what is left of it is a literal without an end (`Expression.evaluate_cut`). Hence
  an expression with a value can be written into a text exactly if it holds no closing brace
  (`interpolate_enclosed`).
* Inside a value, a text that is nothing but one expression keeps the type of its result, and which
  texts are that is decided by yet another rule, which refuses an expression with a marker in it
  (`soleExpression?_eq_some_iff`). The refusal makes no difference: a marker, too, only stands in
  literals, and an expression with a literal in it has a text for its value
  (`Expression.isText_of_evaluate`). So the two ways of substituting a text always agree
  (`interpolate_typed`).
-/

namespace Balancer

open Text

namespace Expression

/-! ### Characters that only a literal holds -/

/-- **A character that no word but a literal holds**: it begins no word, and it goes on neither a
number nor a name. -/
structure LiteralOnly (c : Char) : Prop where
  begin (result : List Token × Scan) : Scan.begin c ≠ .ok result
  digit : isDigit c = false
  part : isNamePart c = false

theorem literalOnly_closing : LiteralOnly '}' where
  begin result h := by cases h
  digit := by decide
  part := by decide

theorem literalOnly_dollar : LiteralOnly '$' where
  begin result h := by cases h
  digit := by decide
  part := by decide

theorem lexFrom_of_step {scan next : Scan} {c : Char} {ended : List Token}
    (h : scan.step c = .ok (ended, next)) (cs : List Char) :
    lexFrom scan (c :: cs) = lexFrom next cs >>= fun rest => pure (ended ++ rest) := by
  rw [lexFrom, h]
  rfl

/-- The words that are found from inside a literal start with it. -/
theorem exists_text_of_lexFrom_text {mark : Char} {read cs : List Char} {tokens : List Token}
    (h : lexFrom (.text mark read) cs = .ok tokens) : ∃ s, Token.text s ∈ tokens := by
  induction cs generalizing read tokens with
  | nil => cases h
  | cons c cs ih =>
    obtain ⟨ended, next, rest, hstep, hrest, rfl⟩ := exists_step_of_lexFrom h
    rw [Scan.step] at hstep
    split at hstep
    · cases hstep
      exact ⟨_, List.mem_cons_self⟩
    · cases hstep
      exact ih hrest

namespace LiteralOnly

variable {c : Char}

/-- **The step to such a character** is only made inside a literal. -/
theorem exists_text (hc : LiteralOnly c) {scan : Scan} {result : List Token × Scan}
    (h : scan.step c = .ok result) : ∃ mark read, scan = .text mark read := by
  cases scan with
  | between => exact absurd h (hc.begin result)
  | digits read =>
    rw [Scan.step, hc.digit] at h
    obtain ⟨_, -, h⟩ := bind_eq_ok.1 h
    obtain ⟨begun, hbegun, -⟩ := bind_eq_ok.1 h
    exact absurd hbegun (hc.begin begun)
  | name read =>
    rw [Scan.step, hc.part] at h
    obtain ⟨begun, hbegun, -⟩ := bind_eq_ok.1 h
    exact absurd hbegun (hc.begin begun)
  | text mark read => exact ⟨mark, read, rfl⟩

/-- **Cutting at such a character** leaves a literal without an end; whole, the characters have the
literal among their words. -/
theorem lexFrom_cut (hc : LiteralOnly c) {scan : Scan} {before after : List Char}
    {tokens : List Token} (h : lexFrom scan (before ++ c :: after) = .ok tokens) :
    lexFrom scan before = .error .unterminatedText ∧ ∃ s, Token.text s ∈ tokens := by
  induction before generalizing scan tokens with
  | nil =>
    obtain ⟨ended, next, rest, hstep, -, -⟩ := exists_step_of_lexFrom h
    obtain ⟨mark, read, rfl⟩ := hc.exists_text hstep
    exact ⟨rfl, exists_text_of_lexFrom_text h⟩
  | cons d before ih =>
    obtain ⟨ended, next, rest, hstep, hrest, rfl⟩ := exists_step_of_lexFrom h
    obtain ⟨hbefore, s, hs⟩ := ih hrest
    refine ⟨?_, s, List.mem_append_right ended hs⟩
    rw [lexFrom_of_step hstep, hbefore, error_bind]

end LiteralOnly

/-! ### Expressions with a literal in them -/

section Values

variable {lookup : String → Except NormalizeError Value}

theorem Added.isText {a b v : Value} (h : Added a b v) (htext : a.text?.isSome ∨ b.text?.isSome) :
    v.text?.isSome := by
  cases h with
  | integers _ => simp [Value.text?] at htext
  | texts _ _ _ => rfl

theorem Subtracted.not_isText {a b v : Value} (h : Subtracted a b v) :
    ¬(a.text?.isSome ∨ b.text?.isSome) := by
  cases h
  simp [Value.text?]

theorem Negated.not_isText {a v : Value} (h : Negated a v) : ¬a.text?.isSome := by
  cases h
  simp [Value.text?]

mutual

/-- **A derivation with a literal in it has a text for its value**: a sum with a text is a text, and
nothing else can be done with one. -/
theorem SumTree.isText (d : SumTree) {s : String} {v : Value} (h : .text s ∈ d.yield)
    (hv : d.Denotes lookup v) : v.text?.isSome := by
  match d with
  | .chain first tail =>
    obtain ⟨u, hu, hv⟩ := hv
    refine tail.isText (s := s) ?_ hv
    exact (List.mem_append.1 h).imp_left fun h => first.isText h hu

theorem TailTree.isText (tail : TailTree) {s : String} {u v : Value}
    (h : u.text?.isSome ∨ .text s ∈ tail.yield) (hv : tail.Denotes lookup u v) :
    v.text?.isSome := by
  match tail with
  | .done =>
    cases hv
    exact h.resolve_right List.not_mem_nil
  | .plus operand tail =>
    obtain ⟨w, x, hw, hx, hv⟩ := hv
    refine tail.isText (s := s) ?_ hv
    rcases h with h | h
    · exact .inl (hx.isText (.inl h))
    · rcases List.mem_append.1 (List.mem_of_ne_of_mem (by simp) h) with h | h
      · exact .inl (hx.isText (.inr (operand.isText h hw)))
      · exact .inr h
  | .minus operand tail =>
    obtain ⟨w, x, hw, hx, hv⟩ := hv
    refine tail.isText (s := s) ?_ hv
    rcases h with h | h
    · exact absurd (.inl h) hx.not_isText
    · rcases List.mem_append.1 (List.mem_of_ne_of_mem (by simp) h) with h | h
      · exact absurd (.inr (operand.isText h hw)) hx.not_isText
      · exact .inr h

theorem OperandTree.isText (operand : OperandTree) {s : String} {v : Value}
    (h : .text s ∈ operand.yield) (hv : operand.Denotes lookup v) : v.text?.isSome := by
  match operand with
  | .negated operand =>
    obtain ⟨u, hu, hneg⟩ := hv
    have hoperand := operand.isText (List.mem_of_ne_of_mem (by simp) h) hu
    exact absurd hoperand hneg.not_isText
  | .primary primary => exact primary.isText h hv

theorem PrimaryTree.isText (primary : PrimaryTree) {s : String} {v : Value}
    (h : .text s ∈ primary.yield) (hv : primary.Denotes lookup v) : v.text?.isSome := by
  match primary with
  | .integer n => simp [PrimaryTree.yield] at h
  | .name s => simp [PrimaryTree.yield] at h
  | .text t =>
    cases hv
    rfl
  | .grouped sum =>
    refine sum.isText (s := s) ?_ hv
    simpa [PrimaryTree.yield] using h

end

end Values

section Evaluation

variable {lookup : String → Except NormalizeError Value} {source : String} {v : Value}

theorem evaluate_of_lex_eq_error {fault : Fault} (h : lex source = .error fault) :
    evaluate source lookup = .error (.expression source fault) := by
  rw [evaluate, h]
  rfl

theorem exists_lex_of_evaluate (h : evaluate source lookup = .ok v) :
    ∃ tokens, lex source = .ok tokens ∧ (group tokens).evaluate source lookup = .ok v := by
  cases hlex : lex source with
  | error fault =>
    rw [evaluate_of_lex_eq_error hlex] at h
    cases h
  | ok tokens =>
    simp only [evaluate, hlex] at h
    exact ⟨tokens, rfl, h⟩

/-- **An expression with a value that is cut at such a character** is left with a literal that has
no end. -/
theorem evaluate_cut {c : Char} (hc : LiteralOnly c) {before after : List Char}
    (hsource : source.toList = before ++ c :: after) (h : evaluate source lookup = .ok v) :
    evaluate (String.ofList before) lookup =
      .error (.expression (String.ofList before) .unterminatedText) := by
  obtain ⟨tokens, hlex, -⟩ := exists_lex_of_evaluate h
  rw [lex, hsource] at hlex
  refine evaluate_of_lex_eq_error ?_
  rw [lex, String.toList_ofList]
  exact (hc.lexFrom_cut hlex).1

/-- **An expression with such a character in it has a text for its value**, if it has one. -/
theorem isText_of_evaluate {c : Char} (hc : LiteralOnly c) (hmem : c ∈ source.toList)
    (h : evaluate source lookup = .ok v) : v.text?.isSome := by
  obtain ⟨tokens, hlex, heval⟩ := exists_lex_of_evaluate h
  obtain ⟨before, after, hchars⟩ := List.append_of_mem hmem
  rw [lex, hchars] at hlex
  obtain ⟨-, s, hs⟩ := hc.lexFrom_cut hlex
  obtain ⟨d, rfl, hterm⟩ := exists_sumTree_of_group (Term.sound_of_evaluate heval)
  rw [← hterm, d.evaluate_term] at heval
  exact d.isText hs heval

/-! ### Literals -/

/-- **The literal of a text** between two quotes of the given kind. -/
def literal (mark : Char) (s : String) : String := String.ofList (mark :: (s.toList ++ [mark]))

/-- A character that a literal can stand between. -/
def IsMark (mark : Char) : Prop := mark = '"' ∨ mark = '\x27'

theorem begin_of_isMark {mark : Char} (h : IsMark mark) :
    Scan.begin mark = .ok ([], .text mark []) := by
  rcases h with rfl | rfl
  · rfl
  · rfl

theorem lexFrom_text {mark : Char} {cs : List Char} (h : mark ∉ cs) (read : List Char) :
    lexFrom (.text mark read) (cs ++ [mark]) =
      .ok [.text (String.ofList (read.reverse ++ cs))] := by
  induction cs generalizing read with
  | nil =>
    rw [List.nil_append, lexFrom, Scan.step, if_pos rfl, List.append_nil]
    rfl
  | cons c cs ih =>
    obtain ⟨hc, hcs⟩ := not_or.1 (mt List.mem_cons.2 h)
    have hstep : (Scan.text mark read).step c = .ok ([], .text mark (c :: read)) := by
      rw [Scan.step, if_neg (Ne.symm hc)]
    rw [List.cons_append, lexFrom_of_step hstep, ih hcs, List.reverse_cons, List.append_assoc]
    rfl

/-- **A literal has the text between its quotes for its value**, whatever the text holds. -/
theorem evaluate_literal {mark : Char} (hmark : IsMark mark) {s : String} (hs : mark ∉ s.toList)
    (lookup : String → Except NormalizeError Value) :
    evaluate (literal mark s) lookup = .ok (.text s) := by
  have hlex : lex (literal mark s) = .ok [.text s] := by
    have hstep : Scan.between.step mark = .ok ([], .text mark []) := begin_of_isMark hmark
    rw [lex, literal, String.toList_ofList, lexFrom_of_step hstep, lexFrom_text hs,
      List.reverse_nil, List.nil_append, String.ofList_toList]
    rfl
  rw [evaluate, hlex]
  rfl

end Evaluation

end Expression

/-! ### Expressions between marker and brace -/

theorem reference_eq_iff {s source : String} :
    s = reference source ↔ s.toList = '$' :: '{' :: (source.toList ++ ['}']) := by
  rw [← String.toList_inj, toList_reference]

theorem reference_injective {source source' : String} (h : reference source = reference source') :
    source = source' := by
  rw [reference_eq_iff, toList_reference] at h
  rw [← String.toList_inj]
  simpa using h

/-- The first piece of a text that starts with a marker runs to the next closing brace. -/
theorem exists_pieces_reference {source : String} {before after : List Char}
    (hsource : source.toList = before ++ '}' :: after) (hbefore : '}' ∉ before) :
    ∃ rest, pieces (reference source) = .expression (String.ofList before) :: rest := by
  rw [pieces, toList_reference, hsource, List.append_assoc, List.cons_append, List.length_cons,
    piecesFrom, cutClosing_append hbefore]
  exact ⟨_, rfl⟩

/-- With enough fuel, only a text without characters has no pieces. -/
theorem eq_nil_of_piecesFrom {fuel : Nat} {cs : List Char} (hfuel : cs.length ≤ fuel)
    (h : piecesFrom fuel cs = []) : cs = [] := by
  fun_cases piecesFrom fuel cs with
  | case1 => exact List.length_eq_zero_iff.1 (Nat.le_zero.1 hfuel)
  | case2 => rfl
  | case3 fuel rest => simp [piecesFrom] at h
  | case4 fuel rest inner after hcut => simp [piecesFrom, hcut] at h
  | case5 fuel rest hcut => simp [piecesFrom, hcut] at h
  | case6 fuel c rest hescaped hopening => simp [piecesFrom.eq_5 _ _ _ hescaped hopening] at h

/-- **The texts that are one expression** and nothing else, as substitution reads them. -/
theorem pieces_eq_singleton_iff {s source : String} :
    pieces s = [.expression source] ↔ s = reference source ∧ '}' ∉ source.toList := by
  constructor
  · intro h
    rw [pieces] at h
    rw [reference_eq_iff]
    generalize hfuel : s.toList.length = fuel at h
    generalize s.toList = cs at h hfuel ⊢
    fun_cases piecesFrom fuel cs with
    | case1 => simp [piecesFrom] at h
    | case2 => simp [piecesFrom] at h
    | case3 fuel rest => simp [piecesFrom] at h
    | case4 fuel rest inner after hcut =>
      simp only [piecesFrom, hcut, List.cons.injEq, Piece.expression.injEq] at h
      obtain ⟨rfl, hnil⟩ := h
      have hlength := length_of_cutClosing hcut
      simp only [List.length_cons] at hfuel
      cases eq_nil_of_piecesFrom (by omega) hnil
      obtain ⟨rfl, hinner⟩ := eq_append_of_cutClosing hcut
      rw [String.toList_ofList]
      exact ⟨rfl, hinner⟩
    | case5 fuel rest hcut => simp [piecesFrom, hcut] at h
    | case6 fuel c rest hescaped hopening =>
      simp [piecesFrom.eq_5 _ _ _ hescaped hopening] at h
  · rintro ⟨rfl, h⟩
    exact pieces_reference h

/-- **The texts that keep the type of their expression** are those that are one expression without a
marker in it. -/
theorem soleExpression?_eq_some_iff {s source : String} :
    soleExpression? s = some source ↔ pieces s = [.expression source] ∧ unmarked source = true := by
  rw [pieces_eq_singleton_iff]
  constructor
  · intro h
    obtain ⟨inner, hinner, hclosing, rfl⟩ := exists_inner_of_soleExpression h
    rw [reference_eq_iff, unmarked, String.toList_ofList]
    refine ⟨⟨hinner, hclosing⟩, ?_⟩
    rw [soleExpression?, hinner] at h
    simp [stripFront?, hclosing] at h
    simpa using h
  · rintro ⟨⟨rfl, hclosing⟩, hmarked⟩
    rw [soleExpression?, toList_reference]
    simpa [stripFront?, hclosing, unmarked] using hmarked

section Substitution

variable {m : Type → Type} [Monad m] [MonadExceptOf NormalizeError m]

/-- **What a value is written as** in place of the expression `source`: its rendering, if it has
one. -/
def Value.renderFor (source : String) (value : Value) : m String :=
  match value.render with
  | some s => pure s
  | none => throw (.notInterpolatable source value.kind)

variable [LawfulMonad m] {lookup : String → m Value}

/-- A text that is one expression is substituted by the rendering of its value. -/
theorem interpolate_of_pieces_eq {s source : String} (h : pieces s = [.expression source]) :
    interpolate lookup s = Expression.evaluate source lookup >>= Value.renderFor source := by
  have hpiece : Piece.expand s lookup (.expression source) =
      Expression.evaluate source lookup >>= Value.renderFor source := rfl
  rw [interpolate, h, List.mapM_cons, List.mapM_nil, hpiece]
  simp only [pure_bind, bind_assoc, join, bind_pure]

end Substitution

section Enclosed

variable {lookup : String → Except NormalizeError Value}

/-- Substitution stops at the first piece if that fails. -/
theorem interpolate_of_first_fails {s : String} {piece : Piece} {rest : List Piece}
    {e : NormalizeError} (hpieces : pieces s = piece :: rest)
    (h : piece.expand s lookup = .error e) : interpolate lookup s = .error e := by
  rw [interpolate, hpieces, List.mapM_cons, h]
  rfl

/-- **An expression without a closing brace** is replaced by the rendering of its value. -/
theorem interpolate_of_evaluate {source s : String} {value : Value}
    (hclosing : '}' ∉ source.toList) (hvalue : Expression.evaluate source lookup = .ok value)
    (hrender : value.render = some s) : interpolate lookup (reference source) = .ok s := by
  rw [interpolate_of_pieces_eq (pieces_reference hclosing), hvalue, ok_bind, Value.renderFor,
    hrender]
  rfl

/-- **An expression with a closing brace** is cut there, inside a literal. -/
theorem interpolate_of_cut {source : String} {before after : List Char} {value : Value}
    (hvalue : Expression.evaluate source lookup = .ok value)
    (hsource : source.toList = before ++ '}' :: after) (hbefore : '}' ∉ before) :
    interpolate lookup (reference source) =
      .error (.expression (String.ofList before) .unterminatedText) := by
  obtain ⟨rest, hpieces⟩ := exists_pieces_reference hsource hbefore
  refine interpolate_of_first_fails hpieces ?_
  rw [Piece.expand, Expression.evaluate_cut Expression.literalOnly_closing hsource hvalue]
  rfl

theorem interpolate_eq_ok_iff_of_evaluate {source s : String} {value : Value}
    (hvalue : Expression.evaluate source lookup = .ok value) (hrender : value.render = some s) :
    interpolate lookup (reference source) = .ok s ↔ '}' ∉ source.toList := by
  refine ⟨fun h hmem => ?_, fun h => interpolate_of_evaluate h hvalue hrender⟩
  obtain ⟨before, after, hsource, hbefore⟩ := List.eq_append_cons_of_mem hmem
  rw [interpolate_of_cut hvalue hsource hbefore] at h
  cases h

/-- **Which expressions can be written into a text.** An expression with a value that can be
rendered is replaced by its rendering exactly if it holds no closing brace. With one, what stands
before the first of them is taken for the expression, and that is a literal without an end. So a
literal can hold any character but its quote as far as evaluation goes, and any but its quote and
the closing brace inside a text. -/
theorem interpolate_enclosed (lookup : String → Except NormalizeError Value) :
    (∀ source value, Expression.evaluate source lookup = .ok value →
        (∀ s, value.render = some s →
          (interpolate lookup (reference source) = .ok s ↔ '}' ∉ source.toList)) ∧
        ∀ before after, source = before ++ "\x7d" ++ after → '}' ∉ before.toList →
          interpolate lookup (reference source) =
            .error (.expression before .unterminatedText)) ∧
      ∀ mark s, Expression.IsMark mark → mark ∉ s.toList →
        Expression.evaluate (Expression.literal mark s) lookup = .ok (.text s) ∧
          (interpolate lookup (reference (Expression.literal mark s)) = .ok s ↔
            '}' ∉ s.toList) := by
  refine ⟨fun source value hvalue => ⟨fun s => interpolate_eq_ok_iff_of_evaluate hvalue, ?_⟩, ?_⟩
  · rintro before after rfl hbefore
    have hsource : (before ++ "\x7d" ++ after).toList = before.toList ++ '}' :: after.toList := by
      simp [String.toList_append]
    rw [interpolate_of_cut hvalue hsource hbefore, String.ofList_toList]
  · intro mark s hmark hs
    have hliteral := Expression.evaluate_literal hmark hs lookup
    have hclosing : '}' ∈ (Expression.literal mark s).toList ↔ '}' ∈ s.toList := by
      have hne : '}' ≠ mark := by rcases hmark with rfl | rfl <;> decide
      simp [Expression.literal, hne]
    refine ⟨hliteral, ?_⟩
    rw [interpolate_eq_ok_iff_of_evaluate hliteral rfl, hclosing]

/-- A number and an object under short names. -/
def braceScope : OrderedMap Value := .ofList [("n", .integer 5), ("o", .object [])]

/-- An opening brace in a literal does no harm. -/
theorem interpolate_enclosed_openBrace :
    Expression.evaluate "'\x7b' + n" braceScope.lookupVariable = .ok (.text "\x7b5") ∧
      interpolate braceScope.lookupVariable (reference "'\x7b' + n") = .ok "\x7b5" := by
  have hvalue : Expression.evaluate "'\x7b' + n" braceScope.lookupVariable =
      .ok (.text "\x7b5") := by cbv
  exact ⟨hvalue, (((interpolate_enclosed _).1 _ _ hvalue).1 _ rfl).2 (by decide)⟩

/-- **A closing brace in a literal ends the expression**: the literal alone has a value, and between
`${` and `}` it has none. -/
theorem interpolate_cuts_literal :
    Expression.evaluate "'\x7d'" braceScope.lookupVariable = .ok (.text "\x7d") ∧
      (Value.text "\x7d").render = some "\x7d" ∧
      interpolate braceScope.lookupVariable "$\x7b'\x7d'\x7d" =
        .error (.expression "'" .unterminatedText) := by
  refine ⟨?_, rfl, ?_⟩ <;> cbv

end Enclosed

/-! ### Texts that keep the type of their expression -/

section Typed

variable {m : Type → Type} [Monad m] [LawfulMonad m] [MonadExceptOf NormalizeError m]

/-- **Substitution renders what typed substitution comes to**, in whatever way variables are looked
up. -/
theorem interpolate_eq_renderFor (lookup : String → m Value) (s : String) :
    interpolate lookup s =
      interpolateValue lookup (.text s) >>= Value.renderFor ((soleExpression? s).getD s) := by
  rw [interpolateValue]
  cases hsole : soleExpression? s with
  | some source => exact interpolate_of_pieces_eq (soleExpression?_eq_some_iff.1 hsole).1
  | none =>
    -- a text is its own rendering
    have hrender (t : String) : (Value.renderFor s (.text t) : m String) = pure t := rfl
    simp only [Option.getD_none, bind_assoc, pure_bind, hrender, bind_pure]

variable {lookup : String → Except NormalizeError Value}

/-- **A text that is one expression has its value**, marked or not: with a marker in it, the
expression has a text for its value, and so loses nothing by being rendered. -/
theorem interpolateValue_of_pieces_eq {s source : String} (h : pieces s = [.expression source]) :
    interpolateValue lookup (.text s) = Expression.evaluate source lookup := by
  rw [interpolateValue]
  cases hsole : soleExpression? s with
  | some other =>
    have hother := (soleExpression?_eq_some_iff.1 hsole).1
    rw [h] at hother
    cases hother
    rfl
  | none =>
    have hmarked : unmarked source ≠ true := fun hunmarked => by
      rw [soleExpression?_eq_some_iff.2 ⟨h, hunmarked⟩] at hsole
      cases hsole
    have hdollar : '$' ∈ source.toList := by_contra fun hmem => hmarked (unmarked_of_notMem hmem)
    simp only [interpolate_of_pieces_eq h]
    cases hvalue : Expression.evaluate source lookup with
    | error e => rfl
    | ok value =>
      have htext := Expression.isText_of_evaluate Expression.literalOnly_dollar hdollar hvalue
      obtain ⟨t, rfl⟩ := Expression.eq_text_of_isSome htext
      rfl

/-- **The typed and the untyped substitution of a text agree.** Substitution is typed substitution
followed by rendering, in whatever way variables are looked up: it returns the rendering of the
value, fails for a value without one, by the name of its kind, and otherwise fails with the same
error. And a text that substitution takes for one expression has the value of the expression, with
its type. -/
theorem interpolate_typed (consult : String → m Value)
    (lookup : String → Except NormalizeError Value) (s : String) :
    interpolate consult s =
        interpolateValue consult (.text s) >>= Value.renderFor ((soleExpression? s).getD s) ∧
      (∀ value t, interpolateValue lookup (.text s) = .ok value → value.render = some t →
        interpolate lookup s = .ok t) ∧
      (∀ value, interpolateValue lookup (.text s) = .ok value → value.render = none →
        ∃ source, s = reference source ∧
          interpolate lookup s = .error (.notInterpolatable source value.kind)) ∧
      (∀ e, interpolateValue lookup (.text s) = .error e → interpolate lookup s = .error e) ∧
      ∀ source, pieces s = [.expression source] →
        interpolateValue lookup (.text s) = Expression.evaluate source lookup := by
  refine ⟨interpolate_eq_renderFor consult s, ?_, ?_, ?_,
    fun source => interpolateValue_of_pieces_eq⟩
  · intro value t hvalue hrender
    rw [interpolate_eq_renderFor, hvalue, ok_bind, Value.renderFor, hrender]
    rfl
  · intro value hvalue hrender
    cases hsole : soleExpression? s with
    | some source =>
      obtain ⟨hpieces, -⟩ := soleExpression?_eq_some_iff.1 hsole
      refine ⟨source, (pieces_eq_singleton_iff.1 hpieces).1, ?_⟩
      rw [interpolate_eq_renderFor, hvalue, ok_bind, hsole, Value.renderFor, hrender]
      rfl
    | none =>
      -- only one expression can have a value that is no text
      rw [interpolateValue] at hvalue
      simp only [hsole] at hvalue
      obtain ⟨t, -, h⟩ := bind_eq_ok.1 hvalue
      cases h
      cases hrender
  · intro e he
    rw [interpolate_eq_renderFor, he, error_bind]

theorem interpolate_typed_nestedMarker :
    interpolateValue braceScope.lookupVariable (.text (reference "o")) = .ok (.object []) ∧
      interpolate braceScope.lookupVariable (reference "o") =
        .error (.notInterpolatable "o" "object") ∧
      soleExpression? (reference "'$\x7b' + n") = none ∧
      interpolateValue braceScope.lookupVariable (.text (reference "'$\x7b' + n")) =
        .ok (.text "$\x7b5") := by
  have hobject : interpolateValue braceScope.lookupVariable (.text (reference "o")) =
      .ok (.object []) := by cbv
  obtain ⟨-, -, hfails, -⟩ := interpolate_typed Query.question braceScope.lookupVariable
    (reference "o")
  obtain ⟨source, hsource, herror⟩ := hfails _ hobject rfl
  obtain rfl := reference_injective hsource
  obtain ⟨-, -, -, -, hone⟩ := interpolate_typed Query.question braceScope.lookupVariable
    (reference "'$\x7b' + n")
  exact ⟨hobject, herror, by decide +kernel, (hone _ (pieces_reference (by decide))).trans (by cbv)⟩

end Typed

end Balancer
