import Balancer.Proofs.Paragraphs
import Balancer.Report.Condition

/-!
# Anonymous conditions

A condition is a sequence of words. Some of them stand for an anonymous condition, which runs from a
word that is an opening brace, perhaps negated, to the next word that is a closing brace; whatever
stands in between says nothing about names. The other words are names, perhaps negated, or keywords.

Names are looked for by counting braces: a word that *starts* with an opening brace goes one level
down, and inside an anonymous condition a word that *ends* with a closing brace goes one level up.
So a word inside may have a say in where the anonymous condition ends, such as a regular expression
that ends with a repetition in braces. The count is right about an anonymous condition if its
content is balanced (`Balanced`): no part at its front closes more than it opens, and the whole of
it closes what it opens. There are two other cases.

* The content closes too much. Then the anonymous condition ends at the first word that does, and
  what follows is taken for names, the closing brace included.
* The content opens too much. Then the anonymous condition does not end where it should, and names
  after it are missed.

There is no other case (`balanced_or_endsEarly_or_staysOpen`). A single word that starts with an
opening brace is taken for an anonymous condition of its own, and ends at once or stays open. So the
first part of a condition that is not read as it is meant decides what is found after it
(`names_of_anonymous`).
-/

namespace Balancer

/-! ### Words of a text -/

namespace Text

/-- **A word**: it is not empty and has no blanks. -/
def IsWord (word : String) : Prop := word ≠ "" ∧ ∀ c ∈ word.toList, isBlank c = false

instance (word : String) : Decidable (IsWord word) :=
  decidable_of_iff (word ≠ "" ∧ word.toList.all fun c => !isBlank c) <|
    and_congr_right' (by simp)

/-- One character, by definition: the equations of `wordsFrom` are slow to derive. -/
theorem wordsFrom_cons (word : List Char) (c : Char) (cs : List Char) :
    wordsFrom word (c :: cs) =
      if isBlank c then (if word = [] then [] else [word.reverse]) ++ wordsFrom [] cs
      else wordsFrom (c :: word) cs := by
  cases word <;> rfl

theorem wordsFrom_nonblank {c : Char} (h : isBlank c = false) (word cs : List Char) :
    wordsFrom word (c :: cs) = wordsFrom (c :: word) cs := by
  simp [wordsFrom_cons, h]

/-- What is not blank belongs to the word that is being read. -/
theorem wordsFrom_append {cs : List Char} (h : ∀ c ∈ cs, isBlank c = false)
    (word rest : List Char) :
    wordsFrom word (cs ++ rest) = wordsFrom (cs.reverse ++ word) rest := by
  induction cs generalizing word with
  | nil => rfl
  | cons c cs ih =>
    obtain ⟨hc, hcs⟩ := List.forall_mem_cons.1 h
    rw [List.cons_append, wordsFrom_nonblank hc, ih hcs, List.reverse_cons, List.append_assoc]
    rfl

/-- A word ends with the text, or at a blank. -/
theorem wordsFrom_of_ne_nil {word : List Char} (h : word ≠ []) :
    wordsFrom word [] = [word.reverse] ∧
      ∀ rest, wordsFrom word (' ' :: rest) = word.reverse :: wordsFrom [] rest := by
  have hspace : isBlank ' ' = true := by decide
  cases word with
  | nil => exact absurd rfl h
  | cons c word => exact ⟨rfl, fun rest => by simp [wordsFrom_cons, hspace]⟩

/-- **Words that are joined by spaces are the words of the text.** -/
theorem words_join {line : List String} (h : ∀ word ∈ line, IsWord word) :
    words (join " " line) = line := by
  have hchars : wordsFrom [] (join " " line).toList = line.map String.toList := by
    induction line with
    | nil => rfl
    | cons word line ih =>
      obtain ⟨⟨hne, hword⟩, hline⟩ := List.forall_mem_cons.1 h
      have hreverse : word.toList.reverse ++ [] ≠ [] := by simpa using hne
      obtain ⟨hend, hspace⟩ := wordsFrom_of_ne_nil hreverse
      cases line with
      | nil =>
        have happend := wordsFrom_append hword [] []
        rw [hend, List.append_nil] at happend
        simpa [join] using happend
      | cons word' line =>
        have htext : (join " " (word :: word' :: line)).toList =
            word.toList ++ ' ' :: (join " " (word' :: line)).toList := by
          simp [join]
        rw [htext, wordsFrom_append hword, hspace, ih hline]
        simp
  rw [words, hchars, List.map_map]
  simp [Function.comp_def]

end Text

namespace Condition

open Text

/-! ### Counting braces -/

/-- The number of words that open an anonymous condition. -/
def openings (line : List String) : Nat := line.countP isOpening

/-- The number of words that close one. -/
def closings (line : List String) : Nat := line.countP isClosing

/-- **What can be read inside `depth + 1` anonymous conditions** without leaving the last of
them. -/
def StaysBelow (depth : Nat) (line : List String) : Prop :=
  ∀ front, front <+: line → closings front ≤ openings front + depth

/-- **Balanced words**: as many close as open, and nowhere have more been closed than opened. -/
def Balanced (line : List String) : Prop :=
  StaysBelow 0 line ∧ closings line = openings line

instance (depth : Nat) (line : List String) : Decidable (StaysBelow depth line) :=
  decidable_of_iff (∀ front ∈ line.inits, closings front ≤ openings front + depth) <|
    forall_congr' fun front => imp_congr_left (List.mem_inits front line)

instance (line : List String) : Decidable (Balanced line) :=
  inferInstanceAs (Decidable (_ ∧ _))

theorem openings_singleton (word : String) :
    openings [word] = if isOpening word then 1 else 0 := List.countP_singleton

theorem closings_singleton (word : String) :
    closings [word] = if isClosing word then 1 else 0 := List.countP_singleton

theorem openings_cons (word : String) (line : List String) :
    openings (word :: line) = openings [word] + openings line := by
  rw [← List.singleton_append, openings, List.countP_append]
  rfl

theorem closings_cons (word : String) (line : List String) :
    closings (word :: line) = closings [word] + closings line := by
  rw [← List.singleton_append, closings, List.countP_append]
  rfl

theorem staysBelow_nil (depth : Nat) : StaysBelow depth [] := by
  intro front hfront
  rw [List.prefix_nil.1 hfront]
  exact Nat.zero_le _

theorem staysBelow_cons {depth : Nat} {word : String} {line : List String} :
    StaysBelow depth (word :: line) ↔
      closings [word] ≤ openings [word] + depth ∧
        StaysBelow (openings [word] + depth - closings [word]) line := by
  constructor
  · intro h
    have hword := h [word] ⟨line, rfl⟩
    refine ⟨hword, fun front hfront => ?_⟩
    have hfront' := h (word :: front) (List.prefix_cons_inj word |>.2 hfront)
    rw [openings_cons, closings_cons] at hfront'
    omega
  · rintro ⟨hword, hline⟩ front hfront
    rcases List.prefix_cons_iff.1 hfront with rfl | ⟨front', rfl, hfront'⟩
    · exact Nat.zero_le _
    · have hcount := hline front' hfront'
      rw [openings_cons, closings_cons]
      omega

/-! ### Names and braces -/

/-- The name that a word outside of anonymous conditions stands for, if it is not a keyword. -/
def name? (word : String) : Option String :=
  if positive word ∈ keywords then none else some (positive word)

theorem namesFrom_word {word : String} (h : isOpening word = false) (rest : List String) :
    namesFrom 0 (word :: rest) = (name? word).toList ++ namesFrom 0 rest := by
  rw [namesFrom, h, name?]
  by_cases hkeyword : positive word ∈ keywords
  · simp [hkeyword]
  · simp [hkeyword]

/-- **One word inside an anonymous condition** counts the braces at its ends. -/
theorem namesFrom_inside {depth : Nat} {word : String}
    (h : closings [word] ≤ openings [word] + depth) (rest : List String) :
    namesFrom (depth + 1) (word :: rest) =
      namesFrom (openings [word] + depth - closings [word] + 1) rest := by
  have hinside : 0 < if isOpening word then depth + 1 + 1 else depth + 1 := by
    split_ifs <;> omega
  have hnext : (if isClosing word then (if isOpening word then depth + 1 + 1 else depth + 1) - 1
      else if isOpening word then depth + 1 + 1 else depth + 1) =
      openings [word] + depth - closings [word] + 1 := by
    rw [openings_singleton, closings_singleton] at h ⊢
    split_ifs at h ⊢ <;> omega
  simp only [namesFrom, if_pos hinside, hnext]

/-- **What stays inside** is passed with the count of its braces. -/
theorem namesFrom_staysBelow {depth : Nat} {line : List String} (h : StaysBelow depth line)
    (rest : List String) :
    namesFrom (depth + 1) (line ++ rest) =
      namesFrom (openings line + depth - closings line + 1) rest := by
  induction line generalizing depth with
  | nil => simp [openings, closings]
  | cons word line ih =>
    obtain ⟨hword, hline⟩ := staysBelow_cons.1 h
    have hcount : openings line + (openings [word] + depth - closings [word]) - closings line =
        openings (word :: line) + depth - closings (word :: line) := by
      rw [openings_cons word line, closings_cons word line]
      omega
    rw [List.cons_append, namesFrom_inside hword, ih hline, hcount]

theorem namesFrom_balanced {line : List String} (h : Balanced line) (rest : List String) :
    namesFrom 1 (line ++ rest) = namesFrom 1 rest := by
  obtain ⟨hbelow, hcount⟩ := h
  have hdepth : openings line + 0 - closings line + 1 = 1 := by omega
  have hpass := namesFrom_staysBelow hbelow rest
  rw [hdepth] at hpass
  exact hpass

/-- A word that opens nothing and closes the last anonymous condition leads out of it. -/
theorem namesFrom_leaving {word : String} (hopening : isOpening word = false)
    (hclosing : isClosing word = true) (rest : List String) :
    namesFrom 1 (word :: rest) = namesFrom 0 rest := by
  simp [namesFrom, hopening, hclosing]

/-! ### Parts of a condition -/

/-- **The parts of a condition**: single words, and anonymous conditions with the words in them. -/
inductive Part where
  | word (text : String)
  | anonymous (negated : Bool) (content : List String)

namespace Part

/-- The words of a part. -/
def words : Part → List String
  | word text => [text]
  | anonymous negated content => (if negated then "!\x7b" else "\x7b") :: content ++ ["\x7d"]

/-- **A part as it is meant**: a single word does not open an anonymous condition, and an anonymous
condition ends at the first closing brace. -/
def Proper : Part → Prop
  | word text => text ≠ "\x7b" ∧ text ≠ "!\x7b"
  | anonymous _ content => "\x7d" ∉ content

/-- The name in a part: a single word without its negation, unless it is a keyword. -/
def name? : Part → Option String
  | word text => Condition.name? text
  | anonymous _ _ => none

/-- **A part that is read as it is meant**: a single word does not start like an anonymous
condition, and the content of an anonymous condition is balanced. -/
def Clear : Part → Prop
  | word text => isOpening text = false
  | anonymous _ content => Balanced content

instance : DecidablePred Proper
  | word _ => inferInstanceAs (Decidable (_ ∧ _))
  | anonymous _ _ => inferInstanceAs (Decidable (¬_))

instance : DecidablePred Clear
  | word _ => inferInstanceAs (Decidable (_ = _))
  | anonymous _ content => inferInstanceAs (Decidable (Balanced content))

end Part

theorem namesFrom_anonymous (negated : Bool) (content rest : List String) :
    namesFrom 0 ((Part.anonymous negated content).words ++ rest) =
      namesFrom 1 (content ++ "\x7d" :: rest) := by
  have hopening : isOpening "\x7b" = true ∧ isOpening "!\x7b" = true := by decide
  have hclosing : isClosing "\x7b" = false ∧ isClosing "!\x7b" = false := by decide
  cases negated <;> simp [Part.words, namesFrom, hopening, hclosing]

theorem namesFrom_clear {part : Part} (h : part.Clear) (rest : List String) :
    namesFrom 0 (part.words ++ rest) = part.name?.toList ++ namesFrom 0 rest := by
  cases part with
  | word text => exact namesFrom_word h rest
  | anonymous negated content =>
    rw [namesFrom_anonymous, namesFrom_balanced h, namesFrom_leaving (by decide) (by decide)]
    rfl

/-- **Parts that are read as they are meant** give their names, whatever follows. -/
theorem namesFrom_flatMap_words {parts : List Part} (h : ∀ part ∈ parts, part.Clear)
    (rest : List String) :
    namesFrom 0 (parts.flatMap Part.words ++ rest) =
      parts.filterMap Part.name? ++ namesFrom 0 rest := by
  induction parts with
  | nil => rfl
  | cons part parts ih =>
    obtain ⟨hpart, hparts⟩ := List.forall_mem_cons.1 h
    rw [List.flatMap_cons, List.append_assoc, namesFrom_clear hpart, ih hparts,
      List.filterMap_cons]
    cases part.name? <;> rfl

/-! ### Where an anonymous condition ends -/

/-- **Content that closes too much**: after balanced words, one closes without opening. -/
def EndsEarly (content after : List String) : Prop :=
  ∃ before word, content = before ++ word :: after ∧ Balanced before ∧
    isOpening word = false ∧ isClosing word = true

/-- **Content that opens too much.** -/
def StaysOpen (content : List String) : Prop :=
  StaysBelow 0 content ∧ closings content < openings content

/-- Where content first closes too much. -/
theorem exists_word_of_not_staysBelow {depth : Nat} {content : List String}
    (h : ¬StaysBelow depth content) :
    ∃ before word after, content = before ++ word :: after ∧ StaysBelow depth before ∧
      closings before = openings before + depth ∧ isOpening word = false ∧
      isClosing word = true := by
  induction content generalizing depth with
  | nil => exact absurd (staysBelow_nil depth) h
  | cons word content ih =>
    by_cases hword : closings [word] ≤ openings [word] + depth
    · have hcontent : ¬StaysBelow (openings [word] + depth - closings [word]) content :=
        fun hcontent => h (staysBelow_cons.2 ⟨hword, hcontent⟩)
      obtain ⟨before, last, after, rfl, hbefore, hcount, hlast⟩ := ih hcontent
      refine ⟨word :: before, last, after, rfl, staysBelow_cons.2 ⟨hword, hbefore⟩, ?_, hlast⟩
      rw [openings_cons, closings_cons]
      omega
    · rw [openings_singleton, closings_singleton] at hword
      obtain ⟨rfl, hends⟩ : depth = 0 ∧ isOpening word = false ∧ isClosing word = true := by
        revert hword
        cases isOpening word <;> cases isClosing word <;> simp
      exact ⟨[], word, content, rfl, staysBelow_nil 0, rfl, hends⟩

theorem balanced_or_endsEarly_or_staysOpen (content : List String) :
    Balanced content ∨ (∃ after, EndsEarly content after) ∨ StaysOpen content := by
  by_cases hbelow : StaysBelow 0 content
  · have hcount : closings content ≤ openings content := hbelow content List.prefix_rfl
    rcases hcount.eq_or_lt with heq | hlt
    · exact .inl ⟨hbelow, heq⟩
    · exact .inr (.inr ⟨hbelow, hlt⟩)
  · obtain ⟨before, word, after, hcontent, hbefore, hcount, hword⟩ :=
      exists_word_of_not_staysBelow hbelow
    exact .inr (.inl ⟨after, before, word, hcontent, ⟨hbefore, hcount⟩, hword⟩)

namespace Part

/-- **A part that ends early** leaves words over, which are read as if they stood outside: a single
word that is taken for an anonymous condition leaves none, and an anonymous condition whose content
closes too much leaves the rest of it with the closing brace. -/
def EndsEarly : Part → List String → Prop
  | word text, left => isOpening text = true ∧ isClosing text = true ∧ left = []
  | anonymous _ content, left =>
    ∃ after, Condition.EndsEarly content after ∧ left = after ++ ["\x7d"]

/-- **A part that stays open**, and swallows what follows. -/
def StaysOpen : Part → Prop
  | word text => isOpening text = true ∧ isClosing text = false
  | anonymous _ content => Condition.StaysOpen content

theorem clear_or_endsEarly_or_staysOpen (part : Part) :
    part.Clear ∨ (∃ left, part.EndsEarly left) ∨ part.StaysOpen := by
  cases part with
  | word text =>
    cases hopening : isOpening text with
    | false => exact .inl hopening
    | true =>
      cases hclosing : isClosing text with
      | true => exact .inr (.inl ⟨[], hopening, hclosing, rfl⟩)
      | false => exact .inr (.inr ⟨hopening, hclosing⟩)
  | anonymous negated content =>
    rcases balanced_or_endsEarly_or_staysOpen content with h | ⟨after, h⟩ | h
    · exact .inl h
    · exact .inr (.inl ⟨_, after, h, rfl⟩)
    · exact .inr (.inr h)

end Part

section Ends

variable {part : Part} {left rest : List String}

theorem namesFrom_endsEarly (h : part.EndsEarly left) :
    namesFrom 0 (part.words ++ rest) = namesFrom 0 (left ++ rest) := by
  cases part with
  | word text =>
    obtain ⟨hopening, hclosing, rfl⟩ := h
    simp [Part.words, namesFrom, hopening, hclosing]
  | anonymous negated content =>
    obtain ⟨_, ⟨before, word, rfl, hbefore, hopening, hclosing⟩, rfl⟩ := h
    rw [namesFrom_anonymous, List.append_assoc, List.cons_append, namesFrom_balanced hbefore,
      namesFrom_leaving hopening hclosing, List.append_assoc, List.singleton_append]

/-- Nothing is read inside an anonymous condition that nothing closes. -/
theorem namesFrom_eq_nil (depth : Nat) (h : ∀ word ∈ rest, isClosing word = false) :
    namesFrom (depth + 1) rest = [] := by
  have hstays : StaysBelow depth rest := by
    intro front hfront
    have hnone : closings front = 0 :=
      List.countP_eq_zero.2 fun word hword => by simp [h word (hfront.subset hword)]
    omega
  rw [← List.append_nil rest, namesFrom_staysBelow hstays, namesFrom]

theorem namesFrom_staysOpen (h : part.StaysOpen) (hrest : ∀ word ∈ rest, isClosing word = false) :
    namesFrom 0 (part.words ++ rest) = [] := by
  cases part with
  | word text =>
    obtain ⟨hopening, hclosing⟩ := h
    have hword : namesFrom 0 ((Part.word text).words ++ rest) = namesFrom 1 rest := by
      simp [Part.words, namesFrom, hopening, hclosing]
    rw [hword, namesFrom_eq_nil 0 hrest]
  | anonymous negated content =>
    obtain ⟨hbelow, hcount⟩ := h
    obtain ⟨depth, hdepth⟩ : ∃ depth, openings content + 0 - closings content = depth + 1 :=
      ⟨openings content - closings content - 1, by omega⟩
    have hbrace : openings ["\x7d"] = 0 ∧ closings ["\x7d"] = 1 := by decide
    have hclosed : openings ["\x7d"] + (depth + 1) - closings ["\x7d"] = depth := by omega
    rw [namesFrom_anonymous, namesFrom_staysBelow hbelow, hdepth, namesFrom_inside (by omega),
      hclosed, namesFrom_eq_nil depth hrest]

end Ends

/-- **Where the names of a condition are looked for.** The parts of a condition may be any words and
anonymous conditions, joined by spaces. If all of them are clear, the names are the single words
without their negations, less the keywords, in order. The first part that is not clear either ends
early, and then what it leaves over is read as if it stood outside; or it stays open, and then
nothing after it is read as long as nothing else is closed. -/
theorem names_of_anonymous (parts : List Part) :
    ((∀ word ∈ parts.flatMap Part.words, IsWord word) →
      Text.words (join " " (parts.flatMap Part.words)) = parts.flatMap Part.words) ∧
    ∀ condition, Text.words condition = parts.flatMap Part.words →
      ((∀ part ∈ parts, part.Clear) → names condition = parts.filterMap Part.name?) ∧
      ∀ before part after, parts = before ++ part :: after → (∀ part ∈ before, part.Clear) →
        part.Clear ∨
        (∃ left, part.EndsEarly left ∧ names condition =
          before.filterMap Part.name? ++ namesFrom 0 (left ++ after.flatMap Part.words)) ∨
        (part.StaysOpen ∧ ((∀ word ∈ after.flatMap Part.words, isClosing word = false) →
          names condition = before.filterMap Part.name?)) := by
  refine ⟨words_join, fun condition hwords => ⟨fun hclear => ?_, ?_⟩⟩
  · have hnames := namesFrom_flatMap_words hclear []
    rw [List.append_nil, namesFrom, List.append_nil] at hnames
    rw [names, hwords, hnames]
  · rintro before part after rfl hbefore
    have hnames : names condition = before.filterMap Part.name? ++
        namesFrom 0 (part.words ++ after.flatMap Part.words) := by
      rw [names, hwords, List.flatMap_append, List.flatMap_cons, namesFrom_flatMap_words hbefore]
    rcases part.clear_or_endsEarly_or_staysOpen with hclear | ⟨left, hearly⟩ | hopen
    · exact .inl hclear
    · exact .inr (.inl ⟨left, hearly, by rw [hnames, namesFrom_endsEarly hearly]⟩)
    · refine .inr (.inr ⟨hopen, fun hafter => ?_⟩)
      rw [hnames, namesFrom_staysOpen hopen hafter, List.append_nil]

/-- A condition with words in its anonymous conditions that start or end with braces. -/
def nestedCondition : List Part :=
  [.word "if", .word "is_api",
    .anonymous true ["path_reg", "^/\x7b2", "\x7bid", "\x7b3\x7d", "x\x7d"], .word "||",
    .word "!is_old", .anonymous false [], .word "METH_POST"]

theorem names_of_anonymous_nestedCondition :
    (∀ word ∈ nestedCondition.flatMap Part.words, IsWord word) ∧
      (∀ part ∈ nestedCondition, part.Clear) ∧
      names (join " " (nestedCondition.flatMap Part.words)) =
        ["is_api", "is_old", "METH_POST"] := by
  have hall : ∀ word ∈ nestedCondition.flatMap Part.words, IsWord word := by decide +kernel
  have hclear : ∀ part ∈ nestedCondition, part.Clear := by decide +kernel
  obtain ⟨hjoin, hnames⟩ := names_of_anonymous nestedCondition
  exact ⟨hall, hclear, (hnames _ (hjoin hall)).1 hclear⟩

/-- **Braces inside anonymous conditions are miscounted.** A regular expression that ends with a
brace makes a name of the closing brace. A word that starts with one makes the name after the
anonymous condition disappear, and a single word that has braces of its own disappears itself. -/
theorem names_miscounts_braces :
    (∃ parts : List Part, (∀ part ∈ parts, part.Proper) ∧
      Text.words "\x7b path_reg ^/v[0-9]\x7b2\x7d \x7d is_api" = parts.flatMap Part.words ∧
      parts.filterMap Part.name? = ["is_api"] ∧
      names "\x7b path_reg ^/v[0-9]\x7b2\x7d \x7d is_api" = ["\x7d", "is_api"]) ∧
    (∃ parts : List Part, (∀ part ∈ parts, part.Proper) ∧
      Text.words "\x7b path \x7bx \x7d is_api" = parts.flatMap Part.words ∧
      parts.filterMap Part.name? = ["is_api"] ∧ names "\x7b path \x7bx \x7d is_api" = []) ∧
    ∃ parts : List Part, (∀ part ∈ parts, part.Proper) ∧
      Text.words "\x7bx\x7d is_api" = parts.flatMap Part.words ∧
      parts.filterMap Part.name? = ["\x7bx\x7d", "is_api"] ∧
      names "\x7bx\x7d is_api" = ["is_api"] := by
  refine ⟨⟨[.anonymous false ["path_reg", "^/v[0-9]\x7b2\x7d"], .word "is_api"], ?_⟩,
    ⟨[.anonymous false ["path", "\x7bx"], .word "is_api"], ?_⟩,
    ⟨[.word "\x7bx\x7d", .word "is_api"], ?_⟩⟩
  · decide +kernel
  · decide +kernel
  · decide +kernel

end Condition

end Balancer
