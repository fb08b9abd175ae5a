import Balancer.Proofs.Grammar
import Balancer.Proofs.Query

/-!
# The names that a value refers to

A value refers to the names that stand in the expressions of its texts, however deep in arrays and
objects the text is (`Value.Mentions`). That is said of the words of the expressions alone, and not
of what substitution does with them; an expression that does not even fall into words has no names.

The two bounds of this file tie it to substitution, seen as a query.

* Substitution asks for no other name, and fails by itself only at an expression
  (`within_interpolateValue`). It may ask before it finds out that an expression is broken, so this
  is about every list of words, and not only those of a derivation.
* Substitution comes to no value without asking for every name (`needs_interpolateValue`). Here a
  broken expression is no exception because it never comes to a value.
-/

namespace Balancer

/-- The failures of substitution itself, of which no lookup is the cause. -/
def NormalizeError.IsLocal : NormalizeError → Prop
  | expression .. | notInterpolatable .. => True
  | _ => False

namespace Expression

/-- **The names of an expression**: its words that are names. -/
def Names (source name : String) : Prop :=
  ∃ tokens, lex source = .ok tokens ∧ Token.name name ∈ tokens

/-! ### The names of a term -/

/-- The names in a term. -/
def Term.names : Term → List String
  | name s => [s]
  | negate term | before term _ => term.names
  | add left right | subtract left right => left.names ++ right.names
  | integer _ | text _ | fault _ => []

theorem Term.within_evaluate {N : String → Prop} (source : String) (term : Term)
    (hN : ∀ name ∈ term.names, N name) :
    (term.evaluate source Query.question).Within N NormalizeError.IsLocal := by
  have hlift (x : Except Fault Value) :
      (lift source x : Query Value).Within N NormalizeError.IsLocal := by
    cases x <;> trivial
  induction term with
  | integer n => trivial
  | text s => trivial
  | name s => exact ⟨hN s List.mem_cons_self, fun _ => trivial⟩
  | negate term ih => exact (ih hN).bind fun _ => hlift _
  | add left right ihl ihr =>
    obtain ⟨hl, hr⟩ := List.forall_mem_append.1 hN
    exact (ihl hl).bind fun _ => (ihr hr).bind fun _ => hlift _
  | subtract left right ihl ihr =>
    obtain ⟨hl, hr⟩ := List.forall_mem_append.1 hN
    exact (ihl hl).bind fun _ => (ihr hr).bind fun _ => hlift _
  | fault reason => trivial
  | before term reason ih => exact (ih hN).bind fun _ => trivial

theorem Term.needs_evaluate {name : String} (source : String) {term : Term}
    (h : name ∈ term.names) : (term.evaluate source Query.question).Needs name := by
  induction term with
  | integer n => exact absurd h List.not_mem_nil
  | text s => exact absurd h List.not_mem_nil
  | name s => exact Or.inl (List.mem_singleton.1 h).symm
  | negate term ih => exact (ih h).bind_left _
  | add left right ihl ihr =>
    rcases List.mem_append.1 h with h | h
    · exact (ihl h).bind_left _
    · exact .bind_right _ fun _ => (ihr h).bind_left _
  | subtract left right ihl ihr =>
    rcases List.mem_append.1 h with h | h
    · exact (ihl h).bind_left _
    · exact .bind_right _ fun _ => (ihr h).bind_left _
  | fault reason => exact absurd h List.not_mem_nil
  | before term reason ih => exact (ih h).bind_left _

/-- A term with a fault comes to no value, whatever else it asks for. -/
theorem Term.needs_evaluate_of_not_sound {name : String} (source : String) {term : Term}
    (h : ¬term.Sound) : (term.evaluate source Query.question).Needs name := by
  induction term with
  | integer n => exact absurd trivial h
  | text s => exact absurd trivial h
  | name s => exact absurd trivial h
  | negate term ih => exact (ih h).bind_left _
  | add left right ihl ihr =>
    rcases not_and_or.1 h with h | h
    · exact (ihl h).bind_left _
    · exact .bind_right _ fun _ => (ihr h).bind_left _
  | subtract left right ihl ihr =>
    rcases not_and_or.1 h with h | h
    · exact (ihl h).bind_left _
    · exact .bind_right _ fun _ => (ihr h).bind_left _
  | fault reason => trivial
  | before term reason ih => exact .bind_right _ fun _ => trivial

/-! ### The names of a derivation are those of its term -/

section Derivations

variable {name : String}

mutual

theorem SumTree.mem_names_term (d : SumTree) (h : .name name ∈ d.yield) :
    name ∈ d.term.names := by
  match d with
  | .chain first tail =>
    refine tail.mem_names_term first.term ?_
    rcases List.mem_append.1 h with h | h
    · exact Or.inl (first.mem_names_term h)
    · exact Or.inr h

theorem TailTree.mem_names_term (tail : TailTree) (left : Term)
    (h : name ∈ left.names ∨ .name name ∈ tail.yield) : name ∈ (tail.term left).names := by
  match tail with
  | .done => exact h.resolve_right List.not_mem_nil
  | .plus operand tail | .minus operand tail =>
    refine tail.mem_names_term _ ?_
    rcases h with h | h
    · exact Or.inl (List.mem_append_left _ h)
    · rcases List.mem_append.1 (List.mem_of_ne_of_mem (by simp) h) with h | h
      · exact Or.inl (List.mem_append_right _ (operand.mem_names_term h))
      · exact Or.inr h

theorem OperandTree.mem_names_term (operand : OperandTree) (h : .name name ∈ operand.yield) :
    name ∈ operand.term.names := by
  match operand with
  | .negated operand => exact operand.mem_names_term (List.mem_of_ne_of_mem (by simp) h)
  | .primary primary => exact primary.mem_names_term h

theorem PrimaryTree.mem_names_term (primary : PrimaryTree) (h : .name name ∈ primary.yield) :
    name ∈ primary.term.names := by
  match primary with
  | .integer n => simp [PrimaryTree.yield] at h
  | .text s => simp [PrimaryTree.yield] at h
  | .name s => simpa [PrimaryTree.yield, PrimaryTree.term, Term.names] using h
  | .grouped sum =>
    refine sum.mem_names_term ?_
    simpa [PrimaryTree.yield] using h

end

end Derivations

/-! ### Grouping makes up no names -/

/-- Every name of the term is one of the words. -/
def Term.SpelledBy (tokens : List Token) (term : Term) : Prop :=
  ∀ name ∈ term.names, Token.name name ∈ tokens

section Grouping

variable {all : List Token}

theorem Term.SpelledBy.append {left right : Term} (hleft : left.SpelledBy all)
    (hright : right.SpelledBy all) : ∀ name ∈ left.names ++ right.names, .name name ∈ all :=
  List.forall_mem_append.2 ⟨hleft, hright⟩

mutual

theorem GroupsSum.spelledBy {tokens rest : List Token} {term : Term}
    (h : GroupsSum tokens term rest) (hsub : tokens ⊆ all) :
    term.SpelledBy all ∧ rest ⊆ all := by
  match h with
  | .exhausted => exact ⟨nofun, List.nil_subset all⟩
  | .chain hfirst htail =>
    obtain ⟨hspelled, hrest⟩ := hfirst.spelledBy hsub
    exact htail.spelledBy hspelled hrest

theorem GroupsTail.spelledBy {left term : Term} {tokens rest : List Token}
    (h : GroupsTail left tokens term rest) (hleft : left.SpelledBy all) (hsub : tokens ⊆ all) :
    term.SpelledBy all ∧ rest ⊆ all := by
  match h with
  | .done => exact ⟨hleft, hsub⟩
  | .plus hright htail =>
    obtain ⟨hspelled, hrest⟩ := hright.spelledBy (List.subset_of_cons_subset hsub)
    exact htail.spelledBy (hleft.append hspelled) hrest
  | .minus hright htail =>
    obtain ⟨hspelled, hrest⟩ := hright.spelledBy (List.subset_of_cons_subset hsub)
    exact htail.spelledBy (hleft.append hspelled) hrest

theorem GroupsOperand.spelledBy {term : Term} {tokens rest : List Token}
    (h : GroupsOperand tokens term rest) (hsub : tokens ⊆ all) :
    term.SpelledBy all ∧ rest ⊆ all := by
  match h with
  | .fault => exact ⟨nofun, List.nil_subset all⟩
  | .integer => exact ⟨nofun, List.subset_of_cons_subset hsub⟩
  | .text => exact ⟨nofun, List.subset_of_cons_subset hsub⟩
  | .name =>
    obtain ⟨hname, hrest⟩ := List.cons_subset.1 hsub
    exact ⟨List.forall_mem_singleton.2 hname, hrest⟩
  | .negate h =>
    have hspelled := h.spelledBy (List.subset_of_cons_subset hsub)
    exact hspelled
  | .grouped h =>
    obtain ⟨hspelled, hrest⟩ := h.spelledBy (List.subset_of_cons_subset hsub)
    exact ⟨hspelled, List.subset_of_cons_subset hrest⟩
  | .unclosed h =>
    obtain ⟨hspelled, -⟩ := h.spelledBy (List.subset_of_cons_subset hsub)
    exact ⟨hspelled, List.nil_subset all⟩

end

end Grouping

/-- The names of the term that words are grouped into are among the words. -/
theorem spelledBy_group (tokens : List Token) : (group tokens).SpelledBy tokens := by
  rcases group_cases tokens with hsum | ⟨term, rest, reason, hsum, hgroup⟩
  · exact (hsum.spelledBy (List.Subset.refl tokens)).1
  · rw [hgroup]
    exact (hsum.spelledBy (List.Subset.refl tokens)).1

/-! ### The names of an expression -/

theorem within_evaluate {N : String → Prop} (source : String)
    (hN : ∀ name, Names source name → N name) :
    (evaluate source Query.question).Within N NormalizeError.IsLocal := by
  rw [evaluate]
  split
  · trivial
  · rename_i tokens hlex
    refine Term.within_evaluate source _ fun name hname => hN name ⟨tokens, hlex, ?_⟩
    exact spelledBy_group tokens name hname

theorem needs_evaluate {source name : String} (h : Names source name) :
    (evaluate source Query.question).Needs name := by
  obtain ⟨tokens, hlex, hname⟩ := h
  have heval : evaluate source Query.question =
      (group tokens).evaluate source Query.question := by simp only [evaluate, hlex]
  rw [heval]
  -- without a fault all words are in the term; with one, evaluation never gets to a value
  by_cases hsound : (group tokens).Sound
  · obtain ⟨d, rfl, hterm⟩ := exists_sumTree_of_group hsound
    rw [← hterm]
    exact Term.needs_evaluate source (d.mem_names_term hname)
  · exact Term.needs_evaluate_of_not_sound source hsound

end Expression

/-! ### The names of a value -/

/-- **A value mentions a name** when the name is a word of an expression inside it: of a piece of
the value itself or of a value in it. -/
inductive Value.Mentions (name : String) : Value → Prop
  | text {s source : String} (hpiece : .expression source ∈ pieces s)
    (hname : Expression.Names source name) : Mentions name (.text s)
  | array {items : List Value} {item : Value} (hmem : item ∈ items)
    (hitem : Mentions name item) : Mentions name (.array items)
  | object {entries : List (String × Value)} {entry : String × Value} (hmem : entry ∈ entries)
    (hitem : Mentions name entry.2) : Mentions name (.object entries)

theorem eq_append_of_stripFront {pattern cs rest : List Char}
    (h : Text.stripFront? pattern cs = some rest) : cs = pattern ++ rest := by
  fun_induction Text.stripFront? pattern cs with
  | case1 cs => exact Option.some.inj h
  | case2 => exact nomatch h
  | case3 p ps cs ih => rw [List.cons_append, ih h]
  | case4 => exact nomatch h

/-- What stands before a closing brace and holds none itself is cut off there. -/
theorem cutClosing_append {inner : List Char} (h : '}' ∉ inner) (rest : List Char) :
    cutClosing (inner ++ '}' :: rest) = some (inner, rest) := by
  induction inner with
  | nil => rfl
  | cons c inner ih =>
    obtain ⟨hc, hinner⟩ := not_or.1 (mt List.mem_cons.2 h)
    rw [List.cons_append, cutClosing, if_neg (Ne.symm hc), ih hinner, Option.map_some]

/-- The form of a text that is nothing but one expression. -/
theorem exists_inner_of_soleExpression {s source : String} (h : soleExpression? s = some source) :
    ∃ inner, s.toList = '$' :: '{' :: (inner ++ ['}']) ∧ '}' ∉ inner ∧
      source = String.ofList inner := by
  unfold soleExpression? at h
  split at h
  · exact nomatch h
  · rename_i rest hstrip
    split at h
    · rename_i inner hreverse
      dsimp only at h
      split at h
      · exact nomatch h
      · rename_i hclosing
        have hrest : rest = inner.reverse ++ ['}'] := by
          rw [← List.reverse_cons, ← hreverse, List.reverse_reverse]
        refine ⟨inner.reverse, ?_, fun hmem => hclosing ?_, (Option.some.inj h).symm⟩
        · rw [← hrest]
          exact eq_append_of_stripFront hstrip
        · simp [List.mem_reverse.1 hmem]
    · exact nomatch h

/-- Such a text has one piece. -/
theorem pieces_of_soleExpression {s source : String} (h : soleExpression? s = some source) :
    pieces s = [.expression source] := by
  obtain ⟨inner, hs, hclosing, rfl⟩ := exists_inner_of_soleExpression h
  rw [pieces, hs, List.length_cons, piecesFrom, cutClosing_append hclosing]
  rfl

theorem Piece.within_expand {N : String → Prop} (input : String) (piece : Piece)
    (hN : ∀ source name, piece = .expression source → Expression.Names source name → N name) :
    (piece.expand input Query.question).Within N NormalizeError.IsLocal := by
  cases piece with
  | char c => trivial
  | escaped => trivial
  | expression source =>
    refine (Expression.within_evaluate source fun name => hN source name rfl).bind fun value => ?_
    split
    · trivial
    · trivial
  | unterminated => trivial

theorem within_interpolate {N : String → Prop} (s : String)
    (hN : ∀ name, (Value.text s).Mentions name → N name) :
    (interpolate Query.question s).Within N NormalizeError.IsLocal := by
  refine Query.Within.bind (Query.Within.mapM fun piece hpiece => ?_) fun _ => trivial
  refine piece.within_expand s fun source name heq hname => hN name ?_
  exact .text (heq ▸ hpiece) hname

theorem needs_interpolate {s source name : String} (hpiece : .expression source ∈ pieces s)
    (hname : Expression.Names source name) : (interpolate Query.question s).Needs name :=
  Query.Needs.bind_left (.mapM hpiece ((Expression.needs_evaluate hname).bind_left _)) _

mutual

/-- **Substitution asks for no name that is not mentioned.** -/
theorem within_interpolateValue {N : String → Prop} (value : Value)
    (hN : ∀ name, value.Mentions name → N name) :
    (interpolateValue Query.question value).Within N NormalizeError.IsLocal := by
  match value with
  | .boolean b => trivial
  | .integer n => trivial
  | .decimal d => trivial
  | .text s =>
    rw [interpolateValue]
    split
    · rename_i source hsole
      refine Expression.within_evaluate source fun name hname => hN name (.text ?_ hname)
      rw [pieces_of_soleExpression hsole]
      exact List.mem_cons_self
    · exact (within_interpolate s hN).bind fun _ => trivial
  | .array items =>
    refine Query.Within.bind ?_ fun _ => trivial
    exact within_interpolateValues items fun item hitem name h => hN name (.array hitem h)
  | .object entries =>
    refine Query.Within.bind ?_ fun _ => trivial
    exact within_interpolateEntries entries fun entry hentry name h => hN name (.object hentry h)

theorem within_interpolateValues {N : String → Prop} (items : List Value)
    (hN : ∀ item ∈ items, ∀ name, item.Mentions name → N name) :
    (interpolateValues Query.question items).Within N NormalizeError.IsLocal := by
  match items with
  | [] => trivial
  | item :: items =>
    obtain ⟨hitem, hitems⟩ := List.forall_mem_cons.1 hN
    refine (within_interpolateValue item hitem).bind fun _ => ?_
    exact (within_interpolateValues items hitems).bind fun _ => trivial

theorem within_interpolateEntries {N : String → Prop} (entries : List (String × Value))
    (hN : ∀ entry ∈ entries, ∀ name, entry.2.Mentions name → N name) :
    (interpolateEntries Query.question entries).Within N NormalizeError.IsLocal := by
  match entries with
  | [] => trivial
  | (key, item) :: entries =>
    obtain ⟨hitem, hentries⟩ := List.forall_mem_cons.1 hN
    refine (within_interpolateValue item hitem).bind fun _ => ?_
    exact (within_interpolateEntries entries hentries).bind fun _ => trivial

end

theorem needs_interpolateValues {name : String} {item : Value} {items : List Value}
    (hmem : item ∈ items) (h : (interpolateValue Query.question item).Needs name) :
    (interpolateValues Query.question items).Needs name := by
  induction items with
  | nil => exact absurd hmem List.not_mem_nil
  | cons first items ih =>
    rcases List.mem_cons.1 hmem with rfl | hmem
    · exact h.bind_left _
    · exact .bind_right _ fun _ => (ih hmem).bind_left _

theorem needs_interpolateEntries {name : String} {entry : String × Value}
    {entries : List (String × Value)} (hmem : entry ∈ entries)
    (h : (interpolateValue Query.question entry.2).Needs name) :
    (interpolateEntries Query.question entries).Needs name := by
  induction entries with
  | nil => exact absurd hmem List.not_mem_nil
  | cons first entries ih =>
    rcases List.mem_cons.1 hmem with rfl | hmem
    · exact h.bind_left _
    · exact .bind_right _ fun _ => (ih hmem).bind_left _

/-- **Substitution comes to no value before every mentioned name has been asked for.** -/
theorem needs_interpolateValue {name : String} {value : Value} (h : value.Mentions name) :
    (interpolateValue Query.question value).Needs name := by
  induction h with
  | @text s source hpiece hname =>
    rw [interpolateValue]
    split
    -- a text that is nothing but one expression has no other piece in which the name could be
    · rename_i source' hsole
      rw [pieces_of_soleExpression hsole, List.mem_singleton] at hpiece
      obtain rfl : source = source' := Piece.expression.inj hpiece
      exact Expression.needs_evaluate hname
    · exact (needs_interpolate hpiece hname).bind_left _
  | array hmem _ ih => exact (needs_interpolateValues hmem ih).bind_left _
  | object hmem _ ih => exact (needs_interpolateEntries hmem ih).bind_left _

end Balancer
