import Balancer.Document.OfHcl
import Balancer.Interpolation
import Balancer.Proofs.References

/-!
# Texts that stand for themselves

Substitution reads a text once, from left to right, and what it puts in is never read again. Three
kinds of texts can be told without evaluating anything:

* a text without the marker `${` is left as it is (`interpolate_of_unmarked`);
* a text in which each marker is escaped loses the escapes and nothing else, so that escaping and
  substitution cancel (`interpolate_escape`);
* a reference `${name}` is replaced by the value of the name (`interpolate_reference`), as long as
  the expression language reads the name as one word.

None of this depends on the variables, except for the last one on the variable that it names.
-/

namespace Balancer

open Text

/-! ### Escaped texts -/

/-- **A plain text with its markers escaped**, as the front end stores it. -/
def escape (s : String) : String := String.ofList (escapePlain s.toList)

/-- The pieces of an escaped text, read off the plain one. -/
def literalPieces : List Char → List Piece
  | '$' :: '{' :: cs => .escaped :: literalPieces cs
  | c :: cs => .char c :: literalPieces cs
  | [] => []

theorem escapePlain_eq_cons_brace {cs rest : List Char} (h : escapePlain cs = '{' :: rest) :
    ∃ tail, cs = '{' :: tail := by
  fun_cases escapePlain cs with
  | case1 tail => simp [escapePlain] at h
  | case2 c tail hnot =>
    rw [escapePlain.eq_2 _ _ hnot] at h
    exact ⟨tail, by rw [(List.cons.inj h).1]⟩
  | case3 => simp [escapePlain] at h

/-- An escaped text does not start with a marker. -/
theorem escapePlain_ne_marker {cs rest : List Char} : escapePlain cs ≠ '$' :: '{' :: rest := by
  intro h
  fun_cases escapePlain cs with
  | case1 tail => simp [escapePlain] at h
  | case2 c tail hnot =>
    rw [escapePlain.eq_2 _ _ hnot] at h
    obtain ⟨hc, htail⟩ := List.cons.inj h
    obtain ⟨tail', rfl⟩ := escapePlain_eq_cons_brace htail
    exact hnot tail' hc rfl
  | case3 => simp [escapePlain] at h

/-- Any fuel that is enough gives the pieces of an escaped text. -/
theorem piecesFrom_escapePlain {fuel : Nat} (cs : List Char)
    (h : (escapePlain cs).length ≤ fuel) : piecesFrom fuel (escapePlain cs) = literalPieces cs := by
  fun_induction escapePlain cs generalizing fuel with
  | case1 cs ih =>
    simp only [List.length_cons] at h
    obtain ⟨fuel, rfl⟩ : ∃ n, fuel = n + 1 := ⟨fuel - 1, by omega⟩
    have hrest : (escapePlain cs).length ≤ fuel := by omega
    rw [piecesFrom, literalPieces, ih hrest]
  | case2 c cs hnot ih =>
    simp only [List.length_cons] at h
    obtain ⟨fuel, rfl⟩ : ∃ n, fuel = n + 1 := ⟨fuel - 1, by omega⟩
    have hrest : (escapePlain cs).length ≤ fuel := by omega
    rw [literalPieces.eq_2 _ _ hnot, ← ih hrest]
    -- the character is no marker and does not make one with what follows it
    refine piecesFrom.eq_5 _ _ _ ?_ ?_
    · rintro rest rfl hrest
      exact escapePlain_ne_marker hrest
    · rintro rest rfl hrest
      obtain ⟨tail, rfl⟩ := escapePlain_eq_cons_brace hrest
      exact hnot tail rfl rfl
  | case3 => cases fuel <;> rfl

theorem pieces_escape (s : String) : pieces (escape s) = literalPieces s.toList := by
  rw [pieces, escape, String.toList_ofList, piecesFrom_escapePlain _ le_rfl]

theorem join_cons (s : String) (rest : List String) : join "" (s :: rest) = s ++ join "" rest := by
  cases rest with
  | nil => rw [join, join, String.append_empty]
  | cons t rest => rw [join, String.append_empty]

section Plain

variable {m : Type → Type} [Monad m] [LawfulMonad m] [MonadExceptOf NormalizeError m]
  (lookup : String → m Value)

/-- Plain pieces expand to the text that they were read off, and ask for nothing. -/
theorem expand_literalPieces (input : String) (cs : List Char) :
    (literalPieces cs).mapM (Piece.expand input lookup) >>= (fun texts => pure (join "" texts)) =
      pure (String.ofList cs) := by
  have hcons (s : String) (rest : List Piece) (piece : Piece)
      (hpiece : piece.expand input lookup = pure s) :
      (piece :: rest).mapM (Piece.expand input lookup) >>= (fun texts => pure (join "" texts)) =
        (rest.mapM (Piece.expand input lookup) >>= fun texts => pure (join "" texts)) >>=
          fun t => pure (s ++ t) := by
    simp only [List.mapM_cons, hpiece, pure_bind, bind_assoc, join_cons]
  fun_induction literalPieces cs with
  | case1 cs ih =>
    rw [hcons "$\x7b" _ _ rfl, ih, pure_bind, String.ofList_cons, String.ofList_cons,
      ← String.append_assoc]
    rfl
  | case2 c cs hnot ih =>
    rw [hcons c.toString _ _ rfl, ih, pure_bind, String.ofList_cons]
    rfl
  | case3 => exact pure_bind _ _

/-- **Escaping and substitution cancel**, and no variable is asked for on the way. -/
theorem interpolate_escape_eq_pure (s : String) : interpolate lookup (escape s) = pure s := by
  rw [interpolate, pieces_escape, expand_literalPieces, String.ofList_toList]

end Plain

section Substitution

variable (lookup : String → Except NormalizeError Value)

theorem interpolate_escape (s : String) : interpolate lookup (escape s) = .ok s :=
  interpolate_escape_eq_pure lookup s

theorem soleExpression?_escape (s : String) : soleExpression? (escape s) = none := by
  cases h : soleExpression? (escape s) with
  | none => rfl
  | some source =>
    obtain ⟨inner, hinner, -⟩ := exists_inner_of_soleExpression h
    rw [escape, String.toList_ofList] at hinner
    exact absurd hinner escapePlain_ne_marker

theorem interpolateValue_escape (s : String) :
    interpolateValue lookup (.text (escape s)) = .ok (.text s) := by
  rw [interpolateValue, soleExpression?_escape]
  simp only [interpolate_escape]
  rfl

end Substitution

/-! ### Texts without markers -/

/-- **Whether a text holds no marker.** -/
def unmarked (s : String) : Bool := !occursIn ['$', '{'] s.toList

theorem escapePlain_of_not_occursIn {cs : List Char} (h : occursIn ['$', '{'] cs = false) :
    escapePlain cs = cs := by
  fun_induction escapePlain cs with
  | case1 cs ih => simp [occursIn, splitFirst?, stripFront?] at h
  | case2 c cs hnot ih =>
    have hrest : occursIn ['$', '{'] cs = false := by
      rw [occursIn, splitFirst?] at h
      split at h
      · exact nomatch h
      · simpa [occursIn] using h
    rw [ih hrest]
  | case3 => rfl

theorem escape_of_unmarked {s : String} (h : unmarked s) : escape s = s := by
  rw [escape, escapePlain_of_not_occursIn (by simpa [unmarked] using h), String.ofList_toList]

/-- **A text without markers is its own substitute**, whatever the variables are. -/
theorem interpolate_of_unmarked {s : String} (h : unmarked s)
    (lookup : String → Except NormalizeError Value) : interpolate lookup s = .ok s := by
  have hescape := interpolate_escape lookup s
  rwa [escape_of_unmarked h] at hescape

mutual

/-- **Whether no text in a value holds a marker.** The keys of an object are no texts of it. -/
def Value.unmarked : Value → Bool
  | .text s => Balancer.unmarked s
  | .array items => Value.allUnmarked items
  | .object entries => Value.entriesUnmarked entries
  | _ => true

/-- Whether no text in any of the values holds a marker. -/
def Value.allUnmarked : List Value → Bool
  | [] => true
  | item :: items => item.unmarked && Value.allUnmarked items

/-- Whether no text in any of the named values holds a marker. -/
def Value.entriesUnmarked : List (String × Value) → Bool
  | [] => true
  | (_, item) :: entries => item.unmarked && Value.entriesUnmarked entries

end

theorem soleExpression?_of_unmarked {s : String} (h : unmarked s) : soleExpression? s = none := by
  have hescape := soleExpression?_escape s
  rwa [escape_of_unmarked h] at hescape

section Substitution

variable (lookup : String → Except NormalizeError Value)

mutual

/-- **A value without markers is its own substitute.** -/
theorem interpolateValue_of_unmarked (value : Value) (h : value.unmarked) :
    interpolateValue lookup value = .ok value := by
  cases value with
  | text s =>
    rw [Value.unmarked] at h
    simp only [interpolateValue, soleExpression?_of_unmarked h, interpolate_of_unmarked h]
    rfl
  | array items =>
    rw [Value.unmarked] at h
    simp only [interpolateValue, interpolateValues_of_unmarked items h]
    rfl
  | object entries =>
    rw [Value.unmarked] at h
    simp only [interpolateValue, interpolateEntries_of_unmarked entries h]
    rfl
  | boolean b => rfl
  | integer n => rfl
  | decimal d => rfl

theorem interpolateValues_of_unmarked (items : List Value) (h : Value.allUnmarked items) :
    interpolateValues lookup items = .ok items := by
  cases items with
  | nil => rfl
  | cons item items =>
    rw [Value.allUnmarked, Bool.and_eq_true] at h
    simp only [interpolateValues, interpolateValue_of_unmarked item h.1,
      interpolateValues_of_unmarked items h.2]
    rfl

theorem interpolateEntries_of_unmarked (entries : List (String × Value))
    (h : Value.entriesUnmarked entries) : interpolateEntries lookup entries = .ok entries := by
  cases entries with
  | nil => rfl
  | cons entry entries =>
    obtain ⟨key, item⟩ := entry
    rw [Value.entriesUnmarked, Bool.and_eq_true] at h
    simp only [interpolateEntries, interpolateValue_of_unmarked item h.1,
      interpolateEntries_of_unmarked entries h.2]
    rfl

end

end Substitution

/-! ### The texts of numbers -/

theorem occursIn_of_notMem {cs : List Char} (h : '$' ∉ cs) : occursIn ['$', '{'] cs = false := by
  induction cs with
  | nil => rfl
  | cons c cs ih =>
    obtain ⟨hc, hcs⟩ := not_or.1 (mt List.mem_cons.2 h)
    have hrest := ih hcs
    rw [occursIn, Option.isSome_eq_false_iff, Option.isNone_iff_eq_none] at hrest
    rw [occursIn, splitFirst?, stripFront?, if_neg hc, hrest]
    rfl

theorem unmarked_of_notMem {s : String} (h : '$' ∉ s.toList) : unmarked s := by
  rw [unmarked, occursIn_of_notMem h]
  rfl

theorem dollar_notMem_toDigits (n : Nat) : '$' ∉ Nat.toDigits 10 n := fun h =>
  absurd (Nat.isDigit_of_mem_toDigits (by decide) (by decide) h) (by decide)

theorem unmarked_integerText (n : Int64) : unmarked (integerText n) := by
  refine unmarked_of_notMem ?_
  have hdigits : '$' ∉ (natText n.toInt.natAbs).toList := by
    rw [natText, String.toList_ofList]
    exact dollar_notMem_toDigits _
  rw [integerText]
  split
  · rw [String.toList_append, List.mem_append, not_or]
    exact ⟨by decide, hdigits⟩
  · exact hdigits

theorem unmarked_positional (d : Decimal) : unmarked d.positional := by
  refine unmarked_of_notMem ?_
  have hsign : '$' ∉ d.sign := by
    rw [Decimal.sign]
    split <;> decide
  have hzeros (n : Nat) : '$' ∉ Decimal.zeros n := fun h =>
    absurd (List.eq_of_mem_replicate h) (by decide)
  have hpointed (digits : List Char) (hdigits : '$' ∉ digits) (scale : Int) :
      '$' ∉ Decimal.pointed digits scale := by
    have htake : ∀ n, '$' ∉ digits.take n := fun n h => hdigits (List.mem_of_mem_take h)
    have hdrop : ∀ n, '$' ∉ digits.drop n := fun n h => hdigits (List.mem_of_mem_drop h)
    rw [Decimal.pointed]
    split
    · simp [hzeros, hdigits]
    · split
      · simp [hzeros, hdigits]
      · simp [htake, hdrop]
  rw [Decimal.positional]
  split
  · rw [String.toList_ofList, List.mem_append, not_or]
    exact ⟨hsign, by decide⟩
  · rw [String.toList_ofList, List.mem_append, not_or]
    exact ⟨hsign, hpointed _ (dollar_notMem_toDigits _) _⟩

/-- A text read from a value without markers has none. -/
theorem unmarked_of_toText {key s : String} {value : Value} (hvalue : value.unmarked)
    (h : value.toText key = .ok s) : unmarked s := by
  cases value with
  | text t =>
    cases h
    exact hvalue
  | integer n =>
    cases h
    exact unmarked_integerText n
  | decimal d =>
    cases h
    exact unmarked_positional d
  | boolean b => exact nomatch h
  | array items => exact nomatch h
  | object entries => exact nomatch h

/-! ### References -/

/-- **Whether the expression language reads a text as one name.** -/
def isName (s : String) : Bool :=
  match s.toList with
  | [] => false
  | c :: cs => Expression.isNameStart c && cs.all Expression.isNamePart

/-- **A text that is nothing but a reference** to a name. -/
def reference (name : String) : String := "$\x7b" ++ name ++ "\x7d"

namespace Expression

theorem bounds_of_isNameStart {c : Char} (h : isNameStart c) :
    (65 ≤ c.toNat ∧ c.toNat ≤ 90) ∨ (97 ≤ c.toNat ∧ c.toNat ≤ 122) ∨ c.toNat = 95 := by
  simp only [isNameStart, Char.isAlpha, Char.isUpper, Char.isLower, Bool.or_eq_true,
    Bool.and_eq_true, decide_eq_true_eq, beq_iff_eq, ge_iff_le, UInt32.le_iff_toNat_le] at h
  rcases h with (h | h) | rfl
  · exact .inl h
  · exact .inr (.inl h)
  · exact .inr (.inr rfl)

theorem begin_of_isNameStart {c : Char} (h : isNameStart c) :
    Scan.begin c = .ok ([], .name [c]) := by
  have hbounds := bounds_of_isNameStart h
  have hblank : isBlank c = false := by
    simp only [isBlank, Bool.or_eq_false_iff, Bool.and_eq_false_iff, decide_eq_false_iff_not,
      beq_eq_false_iff_ne]
    omega
  have hdigit : isDigit c = false := by
    simp only [isDigit, Bool.and_eq_false_iff, decide_eq_false_iff_not, Char.le_def,
      UInt32.le_iff_toNat_le]
    change ¬48 ≤ c.toNat ∨ ¬c.toNat ≤ 57
    omega
  have hne (d : Char) (hd : d.toNat < 65) : c ≠ d := by
    rintro rfl
    omega
  rw [Scan.begin, hblank, hdigit, if_neg (by simp), if_neg (hne _ (by decide)),
    if_neg (hne _ (by decide)), if_neg (hne _ (by decide)), if_neg (hne _ (by decide)),
    if_neg (by simp), if_neg (not_or.2 ⟨hne _ (by decide), hne _ (by decide)⟩), if_pos h]

theorem lexFrom_name {cs : List Char} (h : cs.all isNamePart) (read : List Char) :
    lexFrom (.name read) cs = .ok [.name (String.ofList (read.reverse ++ cs))] := by
  induction cs generalizing read with
  | nil => rw [lexFrom, Scan.close, List.append_nil]
  | cons c cs ih =>
    rw [List.all_cons, Bool.and_eq_true] at h
    rw [lexFrom, Scan.step, if_pos h.1]
    simp only [ok_bind, ih h.2, List.reverse_cons, List.append_assoc, List.cons_append,
      List.nil_append]
    rfl

/-- **A name is one word.** -/
theorem lex_of_isName {name : String} (h : isName name) : lex name = .ok [.name name] := by
  rw [isName] at h
  split at h
  · exact nomatch h
  · rename_i c cs hchars
    rw [Bool.and_eq_true] at h
    rw [lex, hchars, lexFrom, Scan.step, begin_of_isNameStart h.1]
    simp only [ok_bind, lexFrom_name h.2, List.reverse_singleton, List.cons_append,
      List.nil_append, ← hchars, String.ofList_toList]
    rfl

theorem evaluate_of_isName {name : String} (h : isName name)
    (lookup : String → Except NormalizeError Value) : evaluate name lookup = lookup name := by
  rw [evaluate, lex_of_isName h]
  rfl

end Expression

theorem brace_notMem_of_isName {name : String} (h : isName name) : '}' ∉ name.toList := by
  rw [isName] at h
  split at h
  · exact nomatch h
  · rename_i c cs hchars
    rw [Bool.and_eq_true] at h
    rw [hchars, List.mem_cons, not_or]
    refine ⟨?_, fun hmem => ?_⟩
    · rintro rfl
      exact absurd h.1 (by decide)
    · exact absurd (List.all_eq_true.1 h.2 _ hmem) (by decide)

theorem toList_reference (source : String) :
    (reference source).toList = '$' :: '{' :: (source.toList ++ ['}']) := by
  simp [reference, String.toList_append]

/-- A reference is one piece. -/
theorem pieces_reference {source : String} (h : '}' ∉ source.toList) :
    pieces (reference source) = [.expression source] := by
  rw [pieces, toList_reference, List.length_cons, piecesFrom, cutClosing_append h]
  simp only [String.ofList_toList, List.length_cons, piecesFrom]

/-- **A reference is replaced by what it names.** -/
theorem interpolate_reference {name : String} (h : isName name)
    {lookup : String → Except NormalizeError Value} {value : Value}
    (hlookup : lookup name = .ok value) {s : String} (hrender : value.render = some s) :
    interpolate lookup (reference name) = .ok s := by
  have hpieces := pieces_reference (brace_notMem_of_isName h)
  rw [interpolate, hpieces, List.mapM_cons, Piece.expand, Expression.evaluate_of_isName h, hlookup]
  simp only [ok_bind, hrender]
  rfl

end Balancer
