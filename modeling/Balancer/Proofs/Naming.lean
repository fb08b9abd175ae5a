import Balancer.Proofs.Assembly
import Balancer.Proofs.Escaping
import Balancer.Proofs.Resolution
import Balancer.Proofs.Substitution

/-!
# Names that are declared and names that are referred to

A variable is declared under an identifier of the document language and referred to by a name of the
expression language. The two are decided in different places, by `Hcl.isIdStart` and `Hcl.isIdPart`
on one side and by `Expression.isNameStart` and `Expression.isNamePart` on the other, and the first
admits more: letters of any script, and dashes.

* A document declares nothing but identifiers (`Document.isIdentifier_of_parse`), which is a fact
  about what its readers yield (`Hcl.Reader.Yields`).
* The names of an expression are names (`Expression.isName_of_mem_lex`), so an identifier that is no
  name is never asked for, whatever the expression.
* An identifier is a name exactly when its characters are ASCII and no dashes
  (`isName_iff_of_isIdentifier`).

So there are two kinds of variables. A reference to one with a plain name gives its value, on its
own or inside a text; one with any other name is out of reach, because no value and no text depends
on it (`Document.reference_reads_variable`).
-/

namespace Balancer

open Text

/-! ### Identifiers -/

/-- **Whether a text is an identifier** of the document language. -/
def Hcl.isIdentifier (s : String) : Bool :=
  match s.toList with
  | [] => false
  | c :: cs => Hcl.isIdStart c && cs.all Hcl.isIdPart

namespace Hcl

theorem isIdPart_of_isIdStart {c : Char} (h : isIdStart c) : isIdPart c := by
  simp only [isIdStart, isIdPart, Char.isAlphanum, Bool.or_eq_true, Bool.and_eq_true] at h ⊢
  tauto

theorem isIdPart_of_mem {s : String} (h : isIdentifier s) {c : Char} (hc : c ∈ s.toList) :
    isIdPart c := by
  rw [isIdentifier] at h
  split at h
  · cases h
  · rename_i first rest hchars
    rw [Bool.and_eq_true, List.all_eq_true] at h
    rw [hchars] at hc
    rcases List.mem_cons.1 hc with rfl | hc
    · exact isIdPart_of_isIdStart h.1
    · exact h.2 c hc

theorem toNat_lt_of_isAlphanum {c : Char} (h : c.isAlphanum) : c.toNat < 128 := by
  simp only [Char.isAlphanum, Char.isAlpha, Char.isUpper, Char.isLower, Char.isDigit,
    Bool.or_eq_true, Bool.and_eq_true, decide_eq_true_eq, ge_iff_le, UInt32.le_iff_toNat_le] at h
  change c.val.toNat < 128
  rcases h with (⟨-, h⟩ | ⟨-, h⟩) | ⟨-, h⟩
  · exact h.trans_lt (by decide)
  · exact h.trans_lt (by decide)
  · exact h.trans_lt (by decide)

/-- Where both languages read a character, they differ in dashes and beyond ASCII. -/
theorem isNamePart_iff_of_isIdPart {c : Char} (h : isIdPart c) :
    Expression.isNamePart c ↔ c ≠ '-' ∧ c.toNat < 128 := by
  rw [Expression.isNamePart, Bool.or_eq_true, beq_iff_eq]
  constructor
  · rintro (halnum | rfl)
    · refine ⟨?_, toNat_lt_of_isAlphanum halnum⟩
      rintro rfl
      exact absurd halnum (by decide)
    · decide
  · rintro ⟨hdash, hascii⟩
    simp only [isIdPart, Bool.or_eq_true, Bool.and_eq_true, beq_iff_eq, decide_eq_true_eq] at h
    rcases h with ((h | h) | h) | ⟨hbeyond, -⟩
    · exact absurd h hdash
    · exact .inr h
    · exact .inl h
    · omega

theorem isNameStart_iff_of_isIdStart {c : Char} (h : isIdStart c) :
    Expression.isNameStart c ↔ c ≠ '-' ∧ c.toNat < 128 := by
  rw [← isNamePart_iff_of_isIdPart (isIdPart_of_isIdStart h)]
  simp only [Expression.isNameStart, Expression.isNamePart, Char.isAlphanum, Bool.or_eq_true,
    beq_iff_eq]
  constructor
  · rintro (halpha | rfl)
    · exact .inl (.inl halpha)
    · exact .inr rfl
  · simp only [isIdStart, Bool.or_eq_true, Bool.and_eq_true, beq_iff_eq, decide_eq_true_eq] at h
    rintro ((halpha | hdigit) | rfl)
    · exact .inl halpha
    · rcases h with (h | h) | ⟨hbeyond, -⟩
      · exact .inr h
      · exact .inl h
      · have := toNat_lt_of_isAlphanum (Bool.or_eq_true_iff.2 (.inr hdigit))
        omega
    · exact .inr rfl

end Hcl

/-- **The identifiers that are names** of the expression language: those whose characters are ASCII
and no dashes. -/
theorem isName_iff_of_isIdentifier {name : String} (h : Hcl.isIdentifier name) :
    isName name ↔ ∀ c ∈ name.toList, c ≠ '-' ∧ c.toNat < 128 := by
  rw [Hcl.isIdentifier] at h
  rw [isName]
  cases hchars : name.toList with
  | nil => simp [hchars] at h
  | cons first rest =>
    rw [hchars, Bool.and_eq_true, List.all_eq_true] at h
    rw [Bool.and_eq_true, List.all_eq_true, Hcl.isNameStart_iff_of_isIdStart h.1,
      List.forall_mem_cons]
    refine and_congr_right fun _ => forall₂_congr fun c hc => ?_
    exact Hcl.isNamePart_iff_of_isIdPart (h.2 c hc)

/-! ### What documents declare -/

namespace Hcl.Reader

variable {α β : Type} {P : α → Prop} {Q : β → Prop}

/-- **A reader that yields values with `P`** and no others. -/
def Yields (p : Reader α) (P : α → Prop) : Prop :=
  ∀ cs a rest, p cs = some (a, rest) → P a

theorem Yields.pure {a : α} (h : P a) : (Pure.pure a : Reader α).Yields P := by
  intro cs b rest hb
  cases hb
  exact h

theorem Yields.bind {p : Reader α} {f : α → Reader β} (hp : p.Yields P)
    (hf : ∀ a, P a → (f a).Yields Q) : (p >>= f).Yields Q := by
  intro cs b rest hb
  obtain ⟨⟨a, middle⟩, ha, hb⟩ := Option.bind_eq_some_iff.1 hb
  exact hf a (hp cs a middle ha) middle b rest hb

/-- What comes before does not matter if what follows yields values with `Q` anyhow. -/
theorem Yields.after {f : α → Reader β} (hf : ∀ a, (f a).Yields Q) (p : Reader α) :
    (p >>= f).Yields Q := by
  have hp : p.Yields fun _ => True := fun _ _ _ _ => trivial
  exact hp.bind fun a _ => hf a

theorem Yields.orElse {p q : Reader α} (hp : p.Yields P) (hq : q.Yields P) :
    (p <|> q).Yields P := by
  intro cs a rest h
  change (p cs <|> q cs) = some (a, rest) at h
  cases hcs : p cs with
  | some found =>
    rw [hcs] at h
    cases h
    exact hp cs a rest hcs
  | none =>
    rw [hcs] at h
    exact hq cs a rest h

theorem Yields.many {p : Reader α} (hp : p.Yields P) : (many p).Yields fun as => ∀ a ∈ as, P a := by
  -- the fuel is the length of the text, so the induction is on any fuel
  have hfrom : ∀ fuel, (manyFrom p fuel).Yields fun as => ∀ a ∈ as, P a := by
    intro fuel
    induction fuel with
    | zero => exact .pure (List.forall_mem_nil _)
    | succ fuel ih =>
      have hattempt : (attempt p).Yields fun found => ∀ a ∈ found, P a := by
        intro cs found rest h
        rw [attempt] at h
        split at h
        · rename_i a after ha
          cases h
          rintro b ⟨⟩
          exact hp _ _ _ ha
        · cases h
          rintro b ⟨⟩
      refine hattempt.bind fun found hfound => ?_
      cases found with
      | none => exact .pure (List.forall_mem_nil _)
      | some a =>
        refine ih.bind fun as has => .pure ?_
        exact List.forall_mem_cons.2 ⟨hfound a rfl, has⟩
  exact fun cs as rest h => hfrom _ cs as rest h

theorem yields_identifier : identifier.Yields fun name => isIdentifier name = true := by
  have hfirst : (satisfy isIdStart).Yields fun c => isIdStart c = true := by
    intro cs c rest h
    cases cs with
    | nil => cases h
    | cons d ds =>
      rw [satisfy] at h
      split at h
      · cases h
        assumption
      · cases h
  have hrest : (takeWhile isIdPart).Yields fun cs => cs.all isIdPart = true := by
    intro cs taken rest h
    cases h
    exact List.all_takeWhile
  refine hfirst.bind fun c hc => hrest.bind fun cs hcs => .pure ?_
  rw [isIdentifier, String.toList_ofList]
  exact Bool.and_eq_true_iff.2 ⟨hc, hcs⟩

end Hcl.Reader

/-- What a structure assigns is an identifier. -/
def Hcl.Structure.AssignsIdentifier (result : Structure) : Prop :=
  ∀ name ∈ result.assigned?, isIdentifier name = true

namespace Hcl

open Reader

theorem yields_assignmentRest {name : String} (h : isIdentifier name) (start : Nat) :
    (assignmentRest name start).Yields Structure.AssignsIdentifier := by
  refine .after (fun _ => .after (fun _ => .after (fun parsed => .pure ?_) _) _) _
  rintro other ⟨⟩
  exact h

theorem yields_blockRest (body : Reader (List Structure)) (name : String) (start : Nat) :
    (blockRest body name start).Yields Structure.AssignsIdentifier := by
  refine .after (fun _ => .after (fun _ => .after (fun structures => .pure ?_) _) _) _
  rintro other ⟨⟩

theorem yields_structureLine (body : Reader (List Structure)) :
    (structureLine body).Yields Structure.AssignsIdentifier := by
  refine .after (fun _ => .after (fun start => yields_identifier.bind fun name hname => ?_) _) _
  have hresult : (assignmentRest name start <|> blockRest body name start).Yields
      Structure.AssignsIdentifier :=
    (yields_assignmentRest hname start).orElse (yields_blockRest body name start)
  refine .after (fun _ => hresult.bind fun result h => ?_) _
  exact .after (fun _ => .after (fun _ => .after (fun _ => .pure h) _) _) _

theorem yields_bodyWithin (depth : Nat) :
    (bodyWithin depth).Yields fun structures =>
      ∀ result ∈ structures, result.AssignsIdentifier := by
  cases depth with
  | zero =>
    intro cs structures rest h
    cases h
  | succ depth =>
    refine (yields_structureLine (bodyWithin depth)).many.bind fun structures h => ?_
    exact .after (fun _ => .after (fun _ => .pure h) _) _

theorem assignsIdentifier_of_read? {source : String} {structures : List Structure}
    (h : read? source = some structures) :
    ∀ result ∈ structures, result.AssignsIdentifier := by
  obtain ⟨⟨found, rest⟩, hread, h⟩ := Option.bind_eq_some_iff.1 h
  cases h
  have hyields : (bodyWithin (source.toList.length + 1) <* atEnd).Yields fun structures =>
      ∀ result ∈ structures, result.AssignsIdentifier :=
    (yields_bodyWithin _).bind fun structures h => .after (fun _ => .pure h) _
  exact hyields _ _ _ hread

end Hcl

/-- Only assignments are definitions. -/
theorem Item.assigned?_of_ofStructure {place : Nat → Option Position} {result : Hcl.Structure}
    {name : String} {value : Expr} {position : Option Position}
    (h : Item.ofStructure place result = .ok (.definition name value position)) :
    result.assigned? = some name := by
  unfold Item.ofStructure at h
  split at h
  · obtain ⟨_, -, h⟩ := bind_eq_ok.1 h
    cases h
    rfl
  · obtain ⟨_, -, h⟩ := bind_eq_ok.1 h
    obtain ⟨_, -, h⟩ := bind_eq_ok.1 h
    cases h
  · obtain ⟨_, -, h⟩ := bind_eq_ok.1 h
    cases h
  · split at h
    · obtain ⟨_, -, h⟩ := map_eq_ok.1 h
      cases h
    · cases h

/-- **A document declares nothing but identifiers.** -/
theorem Document.isIdentifier_of_parse {source : String} {document : Document}
    (h : Document.parse source = .ok document) {name : String} {value : Expr}
    {position : Option Position} (hmem : .definition name value position ∈ document.items) :
    Hcl.isIdentifier name = true := by
  rw [Document.parse] at h
  cases hread : Hcl.read? source with
  | none =>
    rw [hread] at h
    cases h
  | some structures =>
    rw [hread] at h
    obtain ⟨items, hitems, h⟩ := bind_eq_ok.1 h
    cases h
    obtain ⟨i, hi⟩ := List.mem_iff_getElem?.1 hmem
    obtain ⟨result, hresult, hitem⟩ := forall₂_getElem? (mapM_eq_ok.1 hitems).flip hi
    exact Hcl.assignsIdentifier_of_read? hread result (List.mem_of_getElem? hresult) name
      (Item.assigned?_of_ofStructure hitem)

/-! ### The names of an expression -/

namespace Expression

/-- The word that the scanner is inside of is a name, if it is read as one. -/
def Scan.ReadsName : Scan → Prop
  | name read => isName (String.ofList read.reverse) = true
  | _ => True

theorem Scan.readsName_of_begin {c : Char} {tokens : List Token} {next : Scan}
    (h : Scan.begin c = .ok (tokens, next)) :
    next.ReadsName ∧ ∀ s, Token.name s ∉ tokens := by
  rw [Scan.begin] at h
  repeat' split at h
  all_goals cases h
  all_goals first
    | exact ⟨trivial, by simp⟩
    | rename_i hstart
      refine ⟨?_, by simp⟩
      simp [ReadsName, isName, hstart]

theorem isName_concat {read : List Char} {c : Char}
    (h : isName (String.ofList read.reverse) = true) (hc : isNamePart c = true) :
    isName (String.ofList (c :: read).reverse) = true := by
  rw [isName, String.toList_ofList] at h ⊢
  rw [List.reverse_cons]
  cases hread : read.reverse with
  | nil => simp [hread] at h
  | cons first rest =>
    rw [hread] at h
    simp only [List.cons_append, List.all_append, List.all_cons, List.all_nil, Bool.and_true,
      Bool.and_eq_true] at h ⊢
    exact ⟨h.1, h.2, hc⟩

theorem integerToken_ne_name (read : List Char) (s : String) :
    integerToken read ≠ .ok (.name s) := by
  rw [integerToken]
  split <;> simp

/-- **One step of the scanner**: the word that it goes on with and the words that it ends are names,
if they are read as names. -/
theorem Scan.readsName_of_step {scan next : Scan} {c : Char} {tokens : List Token}
    (hscan : scan.ReadsName) (h : scan.step c = .ok (tokens, next)) :
    next.ReadsName ∧ ∀ s, Token.name s ∈ tokens → isName s = true := by
  -- a character that does not go on a word ends it and begins the next
  cases scan with
  | between =>
    obtain ⟨hnext, hnone⟩ := readsName_of_begin h
    exact ⟨hnext, fun s hs => absurd hs (hnone s)⟩
  | digits read =>
    rw [Scan.step] at h
    split at h
    · cases h
      exact ⟨trivial, fun s hs => absurd hs List.not_mem_nil⟩
    · obtain ⟨token, htoken, h⟩ := bind_eq_ok.1 h
      obtain ⟨⟨begun, after⟩, hbegin, h⟩ := bind_eq_ok.1 h
      cases h
      obtain ⟨hnext, hnone⟩ := readsName_of_begin hbegin
      refine ⟨hnext, fun s hs => ?_⟩
      rcases List.mem_cons.1 hs with rfl | hs
      · exact absurd htoken (integerToken_ne_name read s)
      · exact absurd hs (hnone s)
  | name read =>
    rw [Scan.step] at h
    split at h
    · rename_i hpart
      cases h
      exact ⟨isName_concat hscan hpart, fun s hs => absurd hs List.not_mem_nil⟩
    · obtain ⟨⟨begun, after⟩, hbegin, h⟩ := bind_eq_ok.1 h
      cases h
      obtain ⟨hnext, hnone⟩ := readsName_of_begin hbegin
      refine ⟨hnext, fun s hs => ?_⟩
      rcases List.mem_cons.1 hs with hs | hs
      · cases hs
        exact hscan
      · exact absurd hs (hnone s)
  | text quote read =>
    rw [Scan.step] at h
    split at h
    · cases h
      refine ⟨trivial, fun s hs => ?_⟩
      cases List.mem_singleton.1 hs
    · cases h
      exact ⟨trivial, fun s hs => absurd hs List.not_mem_nil⟩

/-- The first step of a scan that succeeds. -/
theorem exists_step_of_lexFrom {scan : Scan} {c : Char} {cs : List Char} {tokens : List Token}
    (h : lexFrom scan (c :: cs) = .ok tokens) :
    ∃ ended next rest, scan.step c = .ok (ended, next) ∧ lexFrom next cs = .ok rest ∧
      tokens = ended ++ rest := by
  rw [lexFrom] at h
  obtain ⟨⟨ended, next⟩, hstep, h⟩ := bind_eq_ok.1 h
  obtain ⟨rest, hrest, h⟩ := bind_eq_ok.1 h
  cases h
  exact ⟨ended, next, rest, hstep, hrest, rfl⟩

theorem isName_of_mem_lexFrom {scan : Scan} {cs : List Char} {tokens : List Token}
    (hscan : scan.ReadsName) (h : lexFrom scan cs = .ok tokens) {s : String}
    (hs : Token.name s ∈ tokens) : isName s = true := by
  induction cs generalizing scan tokens with
  | nil =>
    rw [lexFrom] at h
    cases scan with
    | between =>
      cases h
      cases hs
    | digits read =>
      obtain ⟨token, htoken, h⟩ := bind_eq_ok.1 h
      cases h
      cases List.mem_singleton.1 hs
      exact absurd htoken (integerToken_ne_name read s)
    | name read =>
      cases h
      cases List.mem_singleton.1 hs
      exact hscan
    | text quote read => cases h
  | cons c cs ih =>
    obtain ⟨ended, next, rest, hstep, hrest, rfl⟩ := exists_step_of_lexFrom h
    obtain ⟨hnext, hended⟩ := Scan.readsName_of_step hscan hstep
    rcases List.mem_append.1 hs with hs | hs
    · exact hended s hs
    · exact ih hnext hrest hs

/-- **The names of an expression are names.** -/
theorem isName_of_names {source s : String} (h : Names source s) : isName s = true := by
  obtain ⟨tokens, hlex, hs⟩ := h
  have hstart : Scan.between.ReadsName := trivial
  exact isName_of_mem_lexFrom hstart hlex hs

end Expression

/-! ### References in texts -/

/-- What is cut off ends at the first closing brace. -/
theorem eq_append_of_cutClosing {cs inner rest : List Char}
    (h : cutClosing cs = some (inner, rest)) : cs = inner ++ '}' :: rest ∧ '}' ∉ inner := by
  induction cs generalizing inner with
  | nil => cases h
  | cons c cs ih =>
    rw [cutClosing] at h
    split at h
    · rename_i hc
      cases h
      exact ⟨by rw [hc, List.nil_append], List.not_mem_nil⟩
    · rename_i hc
      obtain ⟨⟨inner', rest'⟩, hcut, heq⟩ := Option.map_eq_some_iff.1 h
      cases heq
      obtain ⟨rfl, hinner⟩ := ih hcut
      exact ⟨rfl, fun hmem => (List.mem_cons.1 hmem).elim (fun he => hc he.symm) hinner⟩

/-- Cutting at a closing brace leaves less. -/
theorem length_of_cutClosing {cs inner rest : List Char} (h : cutClosing cs = some (inner, rest)) :
    rest.length < cs.length := by
  obtain ⟨rfl, -⟩ := eq_append_of_cutClosing h
  rw [List.length_append, List.length_cons]
  omega

/-- What is cut off is not changed by what follows, and the last character stays the last. -/
theorem cutClosing_append_right {cs inner rest : List Char}
    (h : cutClosing cs = some (inner, rest)) (tail : List Char) :
    cutClosing (cs ++ tail) = some (inner, rest ++ tail) ∧ rest <:+ cs := by
  induction cs generalizing inner with
  | nil => cases h
  | cons c cs ih =>
    rw [cutClosing] at h
    rw [List.cons_append, cutClosing]
    split at h
    · rename_i hc
      cases h
      exact ⟨if_pos hc, List.suffix_cons _ _⟩
    · rename_i hc
      obtain ⟨⟨inner', rest'⟩, hcut, heq⟩ := Option.map_eq_some_iff.1 h
      cases heq
      obtain ⟨hcut', hsuffix⟩ := ih hcut
      rw [if_neg hc, hcut']
      exact ⟨rfl, hsuffix.trans (List.suffix_cons c cs)⟩

/-- Any fuel that is enough gives the same pieces. -/
theorem piecesFrom_of_le {cs : List Char} {fuel fuel' : Nat} (h : cs.length ≤ fuel)
    (h' : cs.length ≤ fuel') : piecesFrom fuel' cs = piecesFrom fuel cs := by
  fun_induction piecesFrom fuel cs generalizing fuel' with
  | case1 cs =>
    cases List.length_eq_zero_iff.1 (Nat.le_zero.1 h)
    cases fuel' <;> rfl
  | case2 fuel hfuel => cases fuel' <;> rfl
  | case3 fuel rest ih =>
    simp only [List.length_cons] at h h'
    obtain ⟨fuel', rfl⟩ : ∃ n, fuel' = n + 1 := ⟨fuel' - 1, by omega⟩
    rw [piecesFrom, ih (by omega) (by omega)]
  | case4 fuel rest inner after hcut ih =>
    have hlength := length_of_cutClosing hcut
    simp only [List.length_cons] at h h'
    obtain ⟨fuel', rfl⟩ : ∃ n, fuel' = n + 1 := ⟨fuel' - 1, by omega⟩
    rw [piecesFrom, hcut]
    simp only [ih (by omega : after.length ≤ fuel) (by omega : after.length ≤ fuel')]
  | case5 fuel rest hcut =>
    simp only [List.length_cons] at h'
    obtain ⟨fuel', rfl⟩ : ∃ n, fuel' = n + 1 := ⟨fuel' - 1, by omega⟩
    rw [piecesFrom, hcut]
  | case6 fuel c rest hescaped hopening ih =>
    simp only [List.length_cons] at h h'
    obtain ⟨fuel', rfl⟩ : ∃ n, fuel' = n + 1 := ⟨fuel' - 1, by omega⟩
    rw [piecesFrom.eq_5 _ _ _ hescaped hopening, ih (by omega) (by omega)]

/-- The last character of a suffix is the last character. -/
theorem getLast?_ne_of_suffix {cs rest : List Char} (hsuffix : rest <:+ cs) {c : Char}
    (h : cs.getLast? ≠ some c) : rest.getLast? ≠ some c := by
  obtain ⟨front, rfl⟩ := hsuffix
  intro hlast
  rw [List.getLast?_append, hlast] at h
  exact h rfl

/-- **A text up to an opening is cut into pieces on its own**, unless its last character escapes the
opening or the opening stands inside an expression. -/
theorem piecesFrom_append_opening {cs : List Char} {fuel fuel' : Nat} (rest : List Char)
    (hlast : cs.getLast? ≠ some '$') (hfuel : cs.length ≤ fuel)
    (hfuel' : cs.length + rest.length + 2 ≤ fuel') (hclosed : .unterminated ∉ piecesFrom fuel cs) :
    piecesFrom fuel' (cs ++ '$' :: '{' :: rest) =
      piecesFrom fuel cs ++ piecesFrom (rest.length + 2) ('$' :: '{' :: rest) := by
  fun_induction piecesFrom fuel cs generalizing fuel' with
  | case1 cs =>
    cases List.length_eq_zero_iff.1 (Nat.le_zero.1 hfuel)
    have henough : rest.length + 2 ≤ fuel' := by simpa using hfuel'
    exact piecesFrom_of_le le_rfl henough
  | case2 fuel hne =>
    have henough : rest.length + 2 ≤ fuel' := by simpa using hfuel'
    exact piecesFrom_of_le le_rfl henough
  | case3 fuel cs ih =>
    simp only [List.length_cons] at hfuel hfuel'
    obtain ⟨fuel', rfl⟩ : ∃ n, fuel' = n + 1 := ⟨fuel' - 1, by omega⟩
    have hsuffix : cs <:+ '$' :: '$' :: '{' :: cs := ⟨['$', '$', '{'], rfl⟩
    rw [List.cons_append, List.cons_append, List.cons_append, piecesFrom, List.cons_append,
      ih (getLast?_ne_of_suffix hsuffix hlast) (by omega) (by omega)
        fun h => hclosed (List.mem_cons_of_mem _ h)]
  | case4 fuel cs inner after hcut ih =>
    have hlength := length_of_cutClosing hcut
    obtain ⟨hcut', hafter⟩ := cutClosing_append_right hcut ('$' :: '{' :: rest)
    simp only [List.length_cons] at hfuel hfuel'
    obtain ⟨fuel', rfl⟩ : ∃ n, fuel' = n + 1 := ⟨fuel' - 1, by omega⟩
    have hsuffix : after <:+ '$' :: '{' :: cs := hafter.trans ⟨['$', '{'], rfl⟩
    have hrest := ih (getLast?_ne_of_suffix hsuffix hlast) (by omega)
      (by omega : after.length + rest.length + 2 ≤ fuel')
      fun h => hclosed (List.mem_cons_of_mem _ h)
    rw [List.cons_append, List.cons_append, piecesFrom, hcut', List.cons_append]
    simp only [hrest]
  | case5 fuel cs hcut => exact absurd List.mem_cons_self hclosed
  | case6 fuel c cs hescaped hopening ih =>
    simp only [List.length_cons] at hfuel hfuel'
    obtain ⟨fuel', rfl⟩ : ∃ n, fuel' = n + 1 := ⟨fuel' - 1, by omega⟩
    have hrest := ih (getLast?_ne_of_suffix (List.suffix_cons c cs) hlast) (by omega)
      (by omega : cs.length + rest.length + 2 ≤ fuel') fun h => hclosed (List.mem_cons_of_mem _ h)
    rw [List.cons_append, List.cons_append, ← hrest]
    -- a dollar at the end is excluded, so the character makes no marker with what follows
    refine piecesFrom.eq_5 _ _ _ ?_ ?_
    · rintro tail rfl htail
      rcases cs with _ | ⟨d, _ | ⟨e, cs⟩⟩
      · exact hlast rfl
      · exact hlast (congrArg some (List.cons.inj htail).1)
      · cases htail
        exact hescaped cs rfl rfl
    · rintro tail rfl htail
      rcases cs with _ | ⟨d, cs⟩
      · exact hlast rfl
      · cases htail
        exact hopening cs rfl rfl

/-- **A reference inside a text is a piece of it.** -/
theorem pieces_append_reference {before name : String} (hlast : before.toList.getLast? ≠ some '$')
    (hclosed : .unterminated ∉ pieces before) (hname : '}' ∉ name.toList) (after : String) :
    pieces (before ++ reference name ++ after) =
      pieces before ++ .expression name :: pieces after := by
  have hchars : (before ++ reference name ++ after).toList =
      before.toList ++ '$' :: '{' :: (name.toList ++ '}' :: after.toList) := by
    simp [reference, String.toList_append]
  have hrest : piecesFrom ((name.toList ++ '}' :: after.toList).length + 1) after.toList =
      pieces after := piecesFrom_of_le le_rfl (by simp; omega)
  rw [pieces, hchars, piecesFrom_append_opening _ hlast le_rfl (by simp; omega) hclosed, piecesFrom,
    cutClosing_append hname]
  simp only [String.ofList_toList, hrest]
  rfl

theorem join_append (first rest : List String) :
    join "" (first ++ rest) = join "" first ++ join "" rest := by
  induction first with
  | nil => rw [List.nil_append, join, String.empty_append]
  | cons s first ih => rw [List.cons_append, join_cons, join_cons, ih, String.append_assoc]

section Substitution

variable {lookup : String → Except NormalizeError Value}

/-- What a piece stands for does not depend on the text around it. -/
theorem Piece.expand_eq_ok_of_eq_ok {piece : Piece} {input s : String}
    (h : piece.expand input lookup = .ok s) (input' : String) :
    piece.expand input' lookup = .ok s := by
  cases piece with
  | unterminated => cases h
  | _ => exact h

/-- A text is substituted piece by piece, whatever the text around it. -/
theorem interpolate_eq_ok_iff {input s : String} (input' : String) :
    interpolate lookup input = .ok s ↔
      ∃ texts, (pieces input).mapM (Piece.expand input' lookup) = .ok texts ∧
        join "" texts = s := by
  have hpieces : ∀ piece text, Piece.expand input lookup piece = .ok text ↔
      Piece.expand input' lookup piece = .ok text := fun piece text =>
    ⟨fun h => Piece.expand_eq_ok_of_eq_ok h input', fun h => Piece.expand_eq_ok_of_eq_ok h input⟩
  rw [interpolate, bind_eq_ok]
  simp only [pure_eq_ok_iff]
  refine exists_congr fun texts => and_congr_left fun _ => ?_
  exact mapM_congr_eq_ok hpieces

theorem unterminated_notMem_of_interpolate {input s : String}
    (h : interpolate lookup input = .ok s) : .unterminated ∉ pieces input := by
  intro hmem
  obtain ⟨texts, htexts, -⟩ := (interpolate_eq_ok_iff input).1 h
  obtain ⟨text, htext⟩ := returns_mapM_iff.1 ⟨texts, htexts⟩ _ hmem
  cases htext

/-- **A reference inside a text is replaced by what it names**, and the rest of the text is
substituted around it. -/
theorem interpolate_append_reference {before after name b r a : String} {value : Value}
    (hname : isName name) (hlookup : lookup name = .ok value) (hrender : value.render = some r)
    (hlast : before.toList.getLast? ≠ some '$') (hbefore : interpolate lookup before = .ok b)
    (hafter : interpolate lookup after = .ok a) :
    interpolate lookup (before ++ reference name ++ after) = .ok (b ++ r ++ a) := by
  have hpieces := pieces_append_reference hlast (unterminated_notMem_of_interpolate hbefore)
    (brace_notMem_of_isName hname) after
  obtain ⟨first, hfirst, rfl⟩ :=
    (interpolate_eq_ok_iff (before ++ reference name ++ after)).1 hbefore
  obtain ⟨rest, hrest, rfl⟩ :=
    (interpolate_eq_ok_iff (before ++ reference name ++ after)).1 hafter
  have hreference : Piece.expand (before ++ reference name ++ after) lookup (.expression name) =
      .ok r := by
    rw [Piece.expand, Expression.evaluate_of_isName hname, hlookup]
    simp only [ok_bind, hrender]
    rfl
  refine (interpolate_eq_ok_iff (before ++ reference name ++ after)).2 ⟨first ++ r :: rest, ?_, ?_⟩
  · rw [hpieces]
    exact mapM_append_eq_ok hfirst (mapM_append_eq_ok (mapM_eq_ok.2 (.cons hreference .nil)) hrest)
  · rw [join_append, join_cons, String.append_assoc]

/-- A text that is nothing but a reference to an identifier is one expression. -/
theorem soleExpression?_reference {name : String} (h : Hcl.isIdentifier name) :
    soleExpression? (reference name) = some name := by
  have hbrace : '}' ∉ name.toList := fun hmem => absurd (Hcl.isIdPart_of_mem h hmem) (by decide)
  have hdollar : '$' ∉ name.toList := fun hmem => absurd (Hcl.isIdPart_of_mem h hmem) (by decide)
  rw [soleExpression?, toList_reference]
  simp [stripFront?, hbrace, occursIn_of_notMem hdollar]

end Substitution

/-! ### References to variables -/

/-- A run depends on the answers for the names that are asked for only. -/
theorem Query.Within.run_congr {α : Type} {q : Query α} {N : String → Prop}
    {E : NormalizeError → Prop} (hq : q.Within N E)
    {lookup lookup' : String → Except NormalizeError Value}
    (h : ∀ name, N name → lookup name = lookup' name) : q.run lookup = q.run lookup' := by
  induction q with
  | done a => rfl
  | fail e => rfl
  | ask name next ih =>
    obtain ⟨hname, hnext⟩ := hq
    have hrest : (fun answer => (next answer).run lookup) =
        fun answer => (next answer).run lookup' := funext fun answer => ih answer (hnext answer)
    rw [Query.run, Query.run, h name hname, hrest]

theorem isName_of_mentions {name : String} {value : Value} (h : value.Mentions name) :
    isName name = true := by
  induction h with
  | text _ hname => exact Expression.isName_of_names hname
  | array _ _ ih => exact ih
  | object _ _ ih => exact ih

section NoName

variable {name : String} {lookup lookup' : String → Except NormalizeError Value}

/-- **No value asks for a variable whose name is no name.** -/
theorem interpolateValue_congr_of_not_isName (hname : ¬isName name)
    (h : ∀ other, other ≠ name → lookup other = lookup' other) (value : Value) :
    interpolateValue lookup value = interpolateValue lookup' value := by
  have hwithin := within_interpolateValue value fun _ hmentions => hmentions
  rw [← run_interpolateValue lookup, ← run_interpolateValue lookup']
  refine hwithin.run_congr fun other hother => h other ?_
  rintro rfl
  exact hname (isName_of_mentions hother)

/-- Nor does a text. -/
theorem interpolate_congr_of_not_isName (hname : ¬isName name)
    (h : ∀ other, other ≠ name → lookup other = lookup' other) (s : String) :
    interpolate lookup s = interpolate lookup' s := by
  have hwithin := within_interpolate s fun _ hmentions => hmentions
  rw [← run_interpolate lookup, ← run_interpolate lookup']
  refine hwithin.run_congr fun other hother => h other ?_
  rintro rfl
  exact hname (isName_of_mentions hother)

end NoName

/-- Resolution gives every declared variable a value. -/
theorem exists_get?_of_resolve {environment : Environment} {document : Document}
    {config : Configuration} {scope : OrderedMap Value}
    (hconfig : Configuration.ofDocument environment document = .ok config)
    (hscope : Resolver.resolve config.definitions = .ok scope) {name : String} {value : Expr}
    {position : Option Position} (hmem : .definition name value position ∈ document.items) :
    ∃ v, scope.get? name = some v := by
  obtain ⟨entries, hentries, hdefinitions⟩ :=
    (Configuration.assembled_of_ofDocument hconfig).definitions
  -- the name is among the declarations, so it is a key of the map made of them
  have hdeclared : name ∈ entries.map Prod.fst := by
    rw [OrderedMap.map_fst_of_readNamed hentries]
    exact List.mem_map.2 ⟨_, List.mem_filterMap.2 ⟨_, hmem, rfl⟩, rfl⟩
  rw [← OrderedMap.mem_keys_iff, ((Resolver.ends_resolve _).of_ok hscope).1]
  by_contra hkeys
  rw [← OrderedMap.get?_eq_none_iff, hdefinitions, OrderedMap.get?_ofList, OrderedMap.lastOf,
    List.lookup_eq_none_iff] at hkeys
  obtain ⟨entry, hentry, rfl⟩ := List.mem_map.1 hdeclared
  simpa using hkeys entry (List.mem_reverse.2 hentry)

/-- **Which variables can be referred to.** Every variable of a document is declared under an
identifier. Under a name that is not plain, that is, not of ASCII characters without dashes, the
variable is out of reach: no value and no text depends on what it holds. If all variables are
resolved, it has a value, and under a plain name a reference gives this value, and its text inside
another text. -/
theorem Document.reference_reads_variable {source : String} {document : Document} {name : String}
    {value : Expr} {position : Option Position} (hparse : Document.parse source = .ok document)
    (hname : .definition name value position ∈ document.items) :
    Hcl.isIdentifier name = true ∧
      (¬(∀ c ∈ name.toList, c ≠ '-' ∧ c.toNat < 128) →
        ∀ lookup lookup' : String → Except NormalizeError Value,
          (∀ other, other ≠ name → lookup other = lookup' other) →
          (∀ w, interpolateValue lookup w = interpolateValue lookup' w) ∧
            ∀ s, interpolate lookup s = interpolate lookup' s) ∧
      ∀ environment config scope, Configuration.ofDocument environment document = .ok config →
        Resolver.resolve config.definitions = .ok scope →
        ∃ v, scope.get? name = some v ∧
          ((∀ c ∈ name.toList, c ≠ '-' ∧ c.toNat < 128) →
            interpolateValue scope.lookupVariable (.text (reference name)) = .ok v ∧
            ∀ before after b r a, before.toList.getLast? ≠ some '$' → v.render = some r →
              interpolate scope.lookupVariable before = .ok b →
              interpolate scope.lookupVariable after = .ok a →
              interpolate scope.lookupVariable (before ++ reference name ++ after) =
                .ok (b ++ r ++ a)) := by
  have hidentifier := isIdentifier_of_parse hparse hname
  refine ⟨hidentifier, ?_, ?_⟩
  · intro hplain lookup lookup' hagree
    have hnoName : ¬isName name := mt (isName_iff_of_isIdentifier hidentifier).1 hplain
    exact ⟨interpolateValue_congr_of_not_isName hnoName hagree,
      interpolate_congr_of_not_isName hnoName hagree⟩
  · intro environment config scope hconfig hscope
    obtain ⟨v, hv⟩ := exists_get?_of_resolve hconfig hscope hname
    have hlookup : scope.lookupVariable name = .ok v := OrderedMap.lookupVariable_eq_ok.2 hv
    refine ⟨v, hv, fun hplain => ?_⟩
    have hisName := (isName_iff_of_isIdentifier hidentifier).2 hplain
    refine ⟨?_, fun before after b r a hlast hrender hbefore hafter =>
      interpolate_append_reference hisName hlookup hrender hlast hbefore hafter⟩
    rw [interpolateValue, soleExpression?_reference hidentifier]
    exact (Expression.evaluate_of_isName hisName _).trans hlookup

/-! ### A document with one variable -/

/-- The name, the text and the position of a definition by a text. -/
def Item.textDefinition? : Item → Option (String × String × Option Position)
  | definition name (.literal (.text s)) position => some (name, s, position)
  | _ => none

theorem Item.eq_of_textDefinition? {item : Item} {name s : String} {position : Option Position}
    (h : item.textDefinition? = some (name, s, position)) :
    item = .definition name (.literal (.text s)) position := by
  unfold Item.textDefinition? at h
  split at h
  · cases h
    rfl
  · cases h

/-- A text that declares one variable. -/
def declaringSource (name : String) : String := name ++ " = \"shop\"\n"

/-- The document in it. -/
def declaringDocument (name : String) : Document where
  items := [.definition name (.literal (.text "shop")) (some ⟨1, 1⟩)]

/-- The configuration that it describes. -/
def declaringConfiguration (name : String) : Configuration where
  definitions := .ofList [(name, .text "shop")]

/-- What a document of one definition is parsed to can be decided, although the equality of
documents cannot. -/
theorem parse_declaringSource {name : String}
    (h : (Document.parse (declaringSource name)).toOption.map
      (fun document => document.items.map Item.textDefinition?) =
        some [some (name, "shop", some ⟨1, 1⟩)]) :
    Document.parse (declaringSource name) = .ok (declaringDocument name) := by
  cases hparse : Document.parse (declaringSource name) with
  | error e =>
    rw [hparse] at h
    cases h
  | ok document =>
    rw [hparse] at h
    obtain ⟨items⟩ := document
    obtain ⟨item, rfl, hitem⟩ := List.map_eq_singleton_iff.1 (Option.some.inj h)
    rw [Item.eq_of_textDefinition? hitem]
    rfl

theorem Document.reference_reads_variable_app :
    Document.parse (declaringSource "app") = .ok (declaringDocument "app") ∧
      interpolateValue (declaringConfiguration "app").definitions.lookupVariable
        (.text (reference "app")) = .ok (.text "shop") ∧
      interpolate (declaringConfiguration "app").definitions.lookupVariable
        ("the " ++ reference "app" ++ "!") = .ok "the shop!" := by
  have hparse : Document.parse (declaringSource "app") = .ok (declaringDocument "app") :=
    parse_declaringSource (by decide +kernel)
  have hconfig : Configuration.ofDocument {} (declaringDocument "app") =
      .ok (declaringConfiguration "app") := by cbv
  have hscope : Resolver.resolve (declaringConfiguration "app").definitions =
      .ok (declaringConfiguration "app").definitions := by cbv
  obtain ⟨-, -, hresolved⟩ := Document.reference_reads_variable hparse List.mem_cons_self
  obtain ⟨v, hv, hplain⟩ := hresolved {} _ _ hconfig hscope
  cases hv
  obtain ⟨hvalue, htext⟩ := hplain (by simp)
  exact ⟨hparse, hvalue, htext "the " "!" "the " "shop" "!" (by simp) (by cbv) (by cbv) (by cbv)⟩

/-- **A variable with a dash in its name cannot be referred to**: all variables are resolved, but
the reference asks for another one, which is not declared. -/
theorem Document.reference_misses_variable :
    Document.parse (declaringSource "app-name") = .ok (declaringDocument "app-name") ∧
      Configuration.ofDocument {} (declaringDocument "app-name") =
        .ok (declaringConfiguration "app-name") ∧
      Resolver.resolve (declaringConfiguration "app-name").definitions =
        .ok (declaringConfiguration "app-name").definitions ∧
      (declaringConfiguration "app-name").definitions.get? "app-name" = some (.text "shop") ∧
      interpolateValue (declaringConfiguration "app-name").definitions.lookupVariable
        (.text (reference "app-name")) = .error (.undefinedVariable "app") := by
  refine ⟨parse_declaringSource (by decide +kernel), ?_, ?_, ?_, ?_⟩ <;> cbv

end Balancer
