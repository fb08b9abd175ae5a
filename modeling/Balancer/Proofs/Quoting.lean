import Balancer.Layout.Line
import Balancer.Proofs.References

/-!
# Quoted words

A value that holds a blank is written between double quotes, so that whoever reads the line takes it
for one word. Inside the quotes a backslash escapes the character after it. Whether a quote is
escaped can be said in two ways, and the proofs go from one to the other.

* From the right: an odd run of backslashes stands before it (`escapesNext`). In these terms a text
  is one word (`OneWord`) if it starts and ends with a quote, the last quote is not escaped and the
  ones in between are.
* From the left: a reader goes through the characters and skips the one after a backslash
  (`readQuoted`). A text is one word if the reader gets to its end and no further
  (`oneWord_iff_readWord?`).

Quoting escapes the quotes of a value and leaves its backslashes alone. A backslash that the value
has already in front of a quote, or at its end, is then escaped itself or escapes the closing quote.
So what is quoted is one word exactly if no quote of the value and not its end is escaped
(`oneWord_quote_iff`). A value that starts and ends with a quote is left to its author.
-/

namespace Balancer.Layout

open Text

/-! ### Escaped from the right -/

/-- **Whether what comes next is escaped**: the run of backslashes at the end is odd. -/
def escapesNext (cs : List Char) : Bool := (cs.reverse.takeWhile (· == '\\')).length % 2 == 1

/-- Whether the character after `c` is escaped, given whether `c` is. -/
def escapeStep (escaped : Bool) (c : Char) : Bool := !escaped && c == '\\'

theorem escapesNext_concat (cs : List Char) (c : Char) :
    escapesNext (cs ++ [c]) = escapeStep (escapesNext cs) c := by
  rw [escapesNext, List.reverse_append, List.reverse_singleton, List.singleton_append]
  by_cases hc : c = '\\'
  · rw [List.takeWhile_cons_of_pos (by simp [hc]), List.length_cons, escapesNext, escapeStep]
    rcases Nat.mod_two_eq_zero_or_one (cs.reverse.takeWhile (· == '\\')).length with h | h
    · simp [h, hc, Nat.add_mod]
    · simp [h, hc, Nat.add_mod]
  · rw [List.takeWhile_cons_of_neg (by simp [hc])]
    simp [escapeStep, hc]

/-- What is escaped can be told on the way, character by character. -/
theorem escapesNext_eq_foldl (cs : List Char) : escapesNext cs = cs.foldl escapeStep false := by
  induction cs using List.reverseRecOn with
  | nil => rfl
  | append_singleton cs c ih => rw [escapesNext_concat, List.foldl_concat, ih]

/-! ### Quotes and their places -/

/-- **At each quote** of the characters, `P` holds of what stands before it and after it. -/
def AtQuotes (P : List Char → List Char → Prop) (cs : List Char) : Prop :=
  ∀ before after, cs = before ++ '"' :: after → P before after

section AtQuotes

variable {P : List Char → List Char → Prop}

theorem atQuotes_nil : AtQuotes P [] := fun before after h => by simp at h

theorem atQuotes_cons {c : Char} {cs : List Char} :
    AtQuotes P (c :: cs) ↔
      (c = '"' → P [] cs) ∧ AtQuotes (fun before after => P (c :: before) after) cs := by
  constructor
  · intro h
    refine ⟨?_, ?_⟩
    · rintro rfl
      exact h [] cs rfl
    · rintro before after rfl
      exact h (c :: before) after rfl
  · rintro ⟨hfirst, hrest⟩ before after heq
    cases before with
    | nil =>
      cases heq
      exact hfirst rfl
    | cons d before =>
      cases heq
      exact hrest before after rfl

theorem atQuotes_concat {cs : List Char} :
    AtQuotes P (cs ++ ['"']) ↔
      P cs [] ∧ AtQuotes (fun before after => P before (after ++ ['"'])) cs := by
  induction cs generalizing P with
  | nil => simp [atQuotes_cons, atQuotes_nil]
  | cons c cs ih =>
    rw [List.cons_append, atQuotes_cons, ih, atQuotes_cons]
    exact and_left_comm

end AtQuotes

/-- **One word in quotes**: a quote at either end, of which the last one is not escaped, and every
quote in between escaped. -/
def OneWord (s : String) : Prop :=
  ∃ inner, s.toList = '"' :: (inner ++ ['"']) ∧ escapesNext inner = false ∧
    AtQuotes (fun before _ => escapesNext before = true) inner

/-! ### Escaped from the left -/

/-- What stands before the quote that ends a word, with the escapes taken away, and what stands
after it. -/
def readQuoted : List Char → Option (List Char × List Char)
  | [] => none
  | '"' :: rest => some ([], rest)
  | '\\' :: c :: rest => (readQuoted rest).map fun word => (c :: word.1, word.2)
  | c :: rest => (readQuoted rest).map fun word => (c :: word.1, word.2)

/-- **The quoted word** at the front of a text, and what stands after it. -/
def readWord? (s : String) : Option (String × String) :=
  match s.toList with
  | '"' :: rest => (readQuoted rest).map fun word => (String.ofList word.1, String.ofList word.2)
  | _ => none

/-- **A quote is escaped exactly if it is not the last character**, where `escaped` tells whether the
first character is. -/
def EndsAtQuote (escaped : Bool) (cs : List Char) : Prop :=
  AtQuotes (fun before after => before.foldl escapeStep escaped = true ↔ after ≠ []) cs

theorem endsAtQuote_cons {escaped : Bool} {c : Char} {cs : List Char} :
    EndsAtQuote escaped (c :: cs) ↔
      (c = '"' → (escaped = true ↔ cs ≠ [])) ∧ EndsAtQuote (escapeStep escaped c) cs :=
  atQuotes_cons

theorem endsAtQuote_concat {inner : List Char} :
    EndsAtQuote false (inner ++ ['"']) ↔
      escapesNext inner = false ∧ AtQuotes (fun before _ => escapesNext before = true) inner := by
  rw [EndsAtQuote, atQuotes_concat]
  simp [escapesNext_eq_foldl]

theorem exists_map_readQuoted_iff {c : Char} {cs : List Char} :
    (∃ content, (readQuoted cs).map (fun word => (c :: word.1, word.2)) = some (content, [])) ↔
      ∃ content, readQuoted cs = some (content, []) := by
  cases readQuoted cs with
  | none => simp
  | some word => simp [Prod.ext_iff]

/-- **The reader gets to the end exactly if the last quote is the first that is not escaped.** The
induction is on the reader, which takes two characters at a time where the first is a backslash. -/
theorem exists_readQuoted_iff {cs : List Char} (hlast : cs.getLast? = some '"') :
    (∃ content, readQuoted cs = some (content, [])) ↔ EndsAtQuote false cs := by
  fun_induction readQuoted cs with
  | case1 => cases hlast
  | case2 rest =>
    rw [endsAtQuote_cons]
    constructor
    · rintro ⟨content, h⟩
      cases h
      exact ⟨fun _ => by simp, atQuotes_nil⟩
    · rintro ⟨hends, -⟩
      have hrest : rest = [] := by simpa using hends rfl
      exact ⟨[], by rw [hrest]⟩
  | case3 c rest ih =>
    rw [exists_map_readQuoted_iff, endsAtQuote_cons, endsAtQuote_cons]
    cases rest with
    | nil =>
      -- the last quote is escaped, and the reader runs out of characters
      obtain rfl : c = '"' := by simpa using hlast
      simp [readQuoted, escapeStep]
    | cons d rest =>
      rw [List.getLast?_cons_cons, List.getLast?_cons_cons] at hlast
      rw [ih hlast]
      simp [escapeStep]
  | case4 c rest hquote hbackslash ih =>
    rw [exists_map_readQuoted_iff, endsAtQuote_cons]
    cases rest with
    | nil => exact absurd (by simpa using hlast) hquote
    | cons d rest =>
      have hc : c ≠ '\\' := fun hc => hbackslash d rest hc rfl
      have hstep : escapeStep false c = false := by simp [escapeStep, hc]
      rw [List.getLast?_cons_cons] at hlast
      rw [ih hlast, hstep]
      exact ⟨fun h => ⟨fun hc => absurd hc hquote, h⟩, And.right⟩

/-- A word ends at a quote. -/
theorem exists_eq_append_of_readQuoted {cs content rest : List Char}
    (h : readQuoted cs = some (content, rest)) : ∃ inner, cs = inner ++ '"' :: rest := by
  fun_induction readQuoted cs generalizing content with
  | case1 => cases h
  | case2 tail =>
    cases h
    exact ⟨[], rfl⟩
  | case3 c tail ih =>
    obtain ⟨word, hword, heq⟩ := Option.map_eq_some_iff.1 h
    cases heq
    obtain ⟨inner, rfl⟩ := ih hword
    exact ⟨'\\' :: c :: inner, rfl⟩
  | case4 c tail _ _ ih =>
    obtain ⟨word, hword, heq⟩ := Option.map_eq_some_iff.1 h
    cases heq
    obtain ⟨inner, rfl⟩ := ih hword
    exact ⟨c :: inner, rfl⟩

theorem exists_readWord?_iff {s : String} {cs : List Char} (hs : s.toList = '"' :: cs) :
    (∃ content, readWord? s = some (content, "")) ↔
      ∃ content, readQuoted cs = some (content, []) := by
  rw [readWord?, hs]
  constructor
  · rintro ⟨content, h⟩
    obtain ⟨word, hword, heq⟩ := Option.map_eq_some_iff.1 h
    have hrest : word.2 = [] := String.ofList_eq_empty_iff.1 (Prod.mk.inj heq).2
    exact ⟨word.1, by rw [hword, ← hrest]⟩
  · rintro ⟨content, h⟩
    exact ⟨String.ofList content, by simp [h]⟩

/-- **The two ways of telling one word agree.** -/
theorem oneWord_iff_readWord? {s : String} :
    OneWord s ↔ ∃ content, readWord? s = some (content, "") := by
  constructor
  · rintro ⟨inner, hs, hword⟩
    rw [exists_readWord?_iff hs, exists_readQuoted_iff List.getLast?_concat]
    exact endsAtQuote_concat.2 hword
  · intro h
    have hfirst : ∃ cs, s.toList = '"' :: cs := by
      obtain ⟨content, h⟩ := h
      rw [readWord?] at h
      split at h
      · rename_i cs hs
        exact ⟨cs, hs⟩
      · cases h
    obtain ⟨cs, hs⟩ := hfirst
    obtain ⟨content, hread⟩ := (exists_readWord?_iff hs).1 h
    obtain ⟨inner, rfl⟩ := exists_eq_append_of_readQuoted hread
    have hends := (exists_readQuoted_iff List.getLast?_concat).1 ⟨content, hread⟩
    exact ⟨inner, hs, endsAtQuote_concat.1 hends⟩

instance (s : String) : Decidable (OneWord s) :=
  decidable_of_iff ((readWord? s).any (·.2 == "") = true) <| by
    rw [oneWord_iff_readWord?, Option.any_eq_true]
    simp

/-! ### What quoting makes of a value -/

/-- The characters with their quotes escaped. -/
def escapeQuotes (cs : List Char) : List Char :=
  cs.flatMap fun c => if c = '"' then ['\\', '"'] else [c]

theorem escapeQuotes_quote (cs : List Char) :
    escapeQuotes ('"' :: cs) = '\\' :: '"' :: escapeQuotes cs := rfl

theorem escapeQuotes_cons {c : Char} (hc : c ≠ '"') (cs : List Char) :
    escapeQuotes (c :: cs) = c :: escapeQuotes cs := by
  rw [escapeQuotes, List.flatMap_cons, if_neg hc]
  rfl

/-- **A quote of the value has to be free to be escaped.** The induction is on the value, with a
state that tells whether the characters so far escape the next one. -/
theorem endsAtQuote_escapeQuotes {escaped : Bool} {cs : List Char} :
    EndsAtQuote escaped (escapeQuotes cs ++ ['"']) ↔
      AtQuotes (fun before _ => before.foldl escapeStep escaped = false) (cs ++ ['"']) := by
  induction cs generalizing escaped with
  | nil => simp [escapeQuotes, EndsAtQuote, atQuotes_cons, atQuotes_nil]
  | cons c cs ih =>
    by_cases hc : c = '"'
    · subst hc
      have hstep (e : Bool) : escapeStep e '"' = false := by simp [escapeStep]
      rw [escapeQuotes_quote, List.cons_append, List.cons_append, endsAtQuote_cons,
        endsAtQuote_cons, hstep, ih, List.cons_append, atQuotes_cons]
      simp [escapeStep]
    · rw [escapeQuotes_cons hc, List.cons_append, endsAtQuote_cons, ih, List.cons_append,
        atQuotes_cons]
      simp [hc]

theorem readQuoted_escapeQuotes {cs : List Char} (h : '\\' ∉ cs) (rest : List Char) :
    readQuoted (escapeQuotes cs ++ '"' :: rest) = some (cs, rest) := by
  induction cs with
  | nil => rfl
  | cons c cs ih =>
    obtain ⟨hc, hcs⟩ := not_or.1 (mt List.mem_cons.2 h)
    by_cases hquote : c = '"'
    · rw [hquote, escapeQuotes_quote, List.cons_append, List.cons_append, readQuoted, ih hcs]
      rfl
    · rw [escapeQuotes_cons hquote, List.cons_append,
        readQuoted.eq_4 _ _ hquote fun _ _ he => absurd he.symm hc, ih hcs]
      rfl

section Quote

variable {v : String}

/-- A value that is quoted already has a quote at either end. -/
theorem exists_inner_of_isQuoted (h : isQuoted v = true) :
    ∃ inner, v.toList = '"' :: (inner ++ ['"']) := by
  simp only [isQuoted, Bool.and_eq_true, decide_eq_true_eq] at h
  obtain ⟨⟨hlength, hstart⟩, hend⟩ := h
  obtain ⟨rest, hrest⟩ := Option.isSome_iff_exists.1 hstart
  obtain ⟨front, hfront⟩ := Option.isSome_iff_exists.1 hend
  have hchars : v.toList = '"' :: rest := eq_append_of_stripFront hrest
  have hreverse : v.toList.reverse = '"' :: front := eq_append_of_stripFront hfront
  rcases List.eq_nil_or_concat rest with rfl | ⟨inner, last, rfl⟩
  · simp [hchars] at hlength
  · obtain rfl : last = '"' := by
      rw [hchars, List.reverse_cons, List.concat_eq_append, List.reverse_append] at hreverse
      exact (List.cons.inj hreverse).1
    exact ⟨inner, by rw [hchars, List.concat_eq_append]⟩

theorem quote_of_isQuoted (h : isQuoted v = true) : quote v = v := by
  rw [quote, h]
  rfl

theorem toList_quote (hblank : v.toList.any isBlank = true) (h : isQuoted v = false) :
    (quote v).toList = '"' :: (escapeQuotes v.toList ++ ['"']) := by
  rw [quote, h, hblank]
  simp [replaceChar, escapeQuotes, String.toList_append]

/-- **What is quoted is one word exactly if no quote of the value and not its end is escaped.** -/
theorem oneWord_quote_iff (hblank : v.toList.any isBlank = true) (h : isQuoted v = false) :
    OneWord (quote v) ↔ escapesNext v.toList = false ∧
      AtQuotes (fun before _ => escapesNext before = false) v.toList := by
  have hchars := toList_quote hblank h
  rw [oneWord_iff_readWord?, exists_readWord?_iff hchars,
    exists_readQuoted_iff List.getLast?_concat, endsAtQuote_escapeQuotes, atQuotes_concat]
  simp only [escapesNext_eq_foldl]

theorem readWord?_quote (hblank : v.toList.any isBlank = true) (h : isQuoted v = false)
    (hbackslash : '\\' ∉ v.toList) : readWord? (quote v) = some (v, "") := by
  rw [readWord?, toList_quote hblank h]
  simp [readQuoted_escapeQuotes hbackslash]

/-- **When a value with a blank is written as one word.** It is written with a quote at either end,
and it is one word by the count of backslashes exactly if a reader that skips what a backslash
escapes gets through it at once. A value that has a quote at either end of its own is written as it
is. Any other is one word exactly if no quote in it and not its end is escaped; without backslashes,
the reader gets the value back. -/
theorem quote_oneWord (hblank : v.toList.any isBlank = true) :
    (∃ inner, (quote v).toList = '"' :: (inner ++ ['"'])) ∧
      (OneWord (quote v) ↔ ∃ content, readWord? (quote v) = some (content, "")) ∧
      (isQuoted v = true → quote v = v) ∧
      (isQuoted v = false → (OneWord (quote v) ↔ escapesNext v.toList = false ∧
        AtQuotes (fun before _ => escapesNext before = false) v.toList)) ∧
      (isQuoted v = false → '\\' ∉ v.toList → readWord? (quote v) = some (v, "")) := by
  refine ⟨?_, oneWord_iff_readWord?, quote_of_isQuoted, oneWord_quote_iff hblank,
    readWord?_quote hblank⟩
  cases h : isQuoted v with
  | true =>
    rw [quote_of_isQuoted h]
    exact exists_inner_of_isQuoted h
  | false => exact ⟨_, toList_quote hblank h⟩

theorem quote_oneWord_evenRun :
    quote "x \\\\\"y" = "\"x \\\\\\\"y\"" ∧ OneWord (quote "x \\\\\"y") := by
  have hblank : ("x \\\\\"y".toList).any isBlank = true := by decide
  obtain ⟨-, -, -, hword, -⟩ := quote_oneWord hblank
  refine ⟨by decide +kernel, (hword (by decide)).2 ⟨by decide, ?_⟩⟩
  simp [atQuotes_cons, atQuotes_nil, escapesNext]

/-- **Three values that are not written as one word**: with a backslash at its end the word does not
end, with one before a quote it ends there, and so it does where the author has put quotes of more
than one word. -/
theorem quote_breaks_word :
    readWord? (quote "a b\\") = none ∧
      readWord? (quote "a \\\" b") = some ("a \\", " b\"") ∧
      readWord? (quote "\"a\" \"b\"") = some ("a", " \"b\"") ∧
      ¬OneWord (quote "a b\\") ∧ ¬OneWord (quote "a \\\" b") ∧
      ¬OneWord (quote "\"a\" \"b\"") := by
  decide +kernel

end Quote

end Balancer.Layout
