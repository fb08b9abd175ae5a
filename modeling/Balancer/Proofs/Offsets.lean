import Balancer.Document.OfHcl
import Balancer.Proofs.Paragraphs
import Mathlib

/-!
# Positions locate offsets

The position of an offset comes from two scans of the bytes before it: one counts the line feeds,
the other goes back from the offset to the last of them. The scans know nothing of each other, of
the rest of the text, or of its characters. This file shows that together they locate the offset
(`Balancer.Position.ofOffset_faithful`): a later offset has a later position, and the offset is the
start of its line plus what the column says.

Where a line starts is told by the lines of the text (`Balancer.linesOf`), which are cut at its
characters and not at its bytes: a line starts behind the lines before it, each with its line feed.
The two views of a text agree since no other character has the byte of a line feed in its encoding
(`Balancer.Position.count_bytes`). So the bytes before an offset are whole lines followed by a part
of one, of which the scans find the number of the lines and the length of the part
(`Balancer.Position.ofOffset_of_linesOf`).

The reader of documents knows a place by the number of characters that are left. It hands over the
offset of that place, which is one of the text (`Balancer.Position.offsetOfLeft_le`), so all of this
is about the positions in a document: they come in the order in which the text is read
(`Balancer.Position.lex_ofOffset_offsetOfLeft_lt`).
-/

namespace Balancer

open Text

/-! ### Lines of a text -/

theorem notMem_of_mem_splitOn {c : Char} {cs piece : List Char} (h : piece ∈ cs.splitOn c) :
    c ∉ piece := by
  induction cs generalizing piece with
  | nil =>
    rw [List.splitOn_nil, List.mem_singleton] at h
    exact h ▸ List.not_mem_nil
  | cons d cs ih =>
    rw [List.splitOn_cons_eq_if_modifyHead] at h
    by_cases hd : d = c
    · rw [if_pos (beq_iff_eq.2 hd), List.mem_cons] at h
      rcases h with rfl | h
      · exact List.not_mem_nil
      · exact ih h
    · rw [if_neg (by simpa using hd)] at h
      -- `d` goes to the front of the first piece of the rest
      obtain ⟨first, rest, hsplit⟩ := List.exists_cons_of_ne_nil (List.splitOn_ne_nil c cs)
      rw [hsplit, List.modifyHead_cons, List.mem_cons] at h
      rcases h with rfl | h
      · exact List.not_mem_cons_of_ne_of_not_mem (Ne.symm hd) (ih (hsplit ▸ List.mem_cons_self))
      · exact ih (hsplit ▸ List.mem_cons_of_mem first h)

theorem lineFeed_notMem_of_mem_linesOf {s line : String} (h : line ∈ linesOf s) :
    '\n' ∉ line.toList := by
  obtain ⟨cs, hcs, rfl⟩ := List.mem_map.1 h
  rw [String.toList_ofList]
  exact notMem_of_mem_splitOn hcs

theorem linesOf_ne_nil (s : String) : linesOf s ≠ [] := by
  rw [linesOf, ne_eq, List.map_eq_nil_iff]
  exact List.splitOn_ne_nil '\n' s.toList

theorem join_linesOf (s : String) : join "\n" (linesOf s) = s := by
  have hlines : String.toList ∘ String.ofList = id := funext fun cs => String.toList_ofList
  rw [← String.toList_inj, toList_join, linesOf, List.map_map, hlines, List.map_id]
  exact List.intercalate_splitOn '\n'

/-- The bytes that lines take, each with its line feed. -/
def spanOf (lines : List String) : Nat := (lines.map fun line => line.utf8ByteSize + 1).sum

/-- **The offset at which a line starts**: behind the lines before it. Lines are counted from
one. -/
def lineStart (source : String) (line : Nat) : Nat := spanOf ((linesOf source).take (line - 1))

@[simp]
theorem spanOf_cons (line : String) (lines : List String) :
    spanOf (line :: lines) = line.utf8ByteSize + 1 + spanOf lines := rfl

@[simp]
theorem spanOf_append (lines lines' : List String) :
    spanOf (lines ++ lines') = spanOf lines + spanOf lines' := by
  simp [spanOf]

/-- Every place before the end of the lines is on one of them. -/
theorem exists_line_of_lt_spanOf {lines : List String} {o : Nat} (h : o < spanOf lines) :
    ∃ before line rest c, lines = before ++ line :: rest ∧ c ≤ line.utf8ByteSize ∧
      o = spanOf before + c := by
  induction lines generalizing o with
  | nil => exact absurd h (Nat.not_lt_zero o)
  | cons first lines ih =>
    by_cases hfirst : o ≤ first.utf8ByteSize
    · exact ⟨[], first, lines, o, rfl, hfirst, (Nat.zero_add o).symm⟩
    · rw [spanOf_cons] at h
      obtain ⟨before, line, rest, c, rfl, hc, ho⟩ :=
        ih (show o - (first.utf8ByteSize + 1) < spanOf lines by omega)
      refine ⟨first :: before, line, rest, c, rfl, hc, ?_⟩
      rw [spanOf_cons]
      omega

namespace Position

/-! ### Bytes of a text -/

theorem bytes_eq_flatMap (s : String) : bytes s = s.toList.flatMap String.utf8EncodeChar := by
  rw [bytes, String.toUTF8_eq_toByteArray, ← String.utf8Encode_toList, List.utf8Encode]
  simp

theorem bytes_append (s t : String) : bytes (s ++ t) = bytes s ++ bytes t := by
  simp [bytes]

theorem length_bytes (s : String) : (bytes s).length = s.utf8ByteSize := by
  simp [bytes]

theorem lineFeed_notMem_utf8EncodeChar {c : Char} (h : c ≠ '\n') :
    lineFeed ∉ String.utf8EncodeChar c := by
  have hval : c.val.toNat ≠ 10 := fun hc => h (Char.ext (UInt32.toNat_inj.1 hc))
  have hbyte {n : Nat} (hn : n % 256 ≠ 10) : lineFeed ≠ UInt8.ofNat n := fun he =>
    hn (UInt8.toNat_ofNat' ▸ congrArg UInt8.toNat he.symm)
  -- the bytes of an encoding with more than one are all from 128 on
  have hhigh {bs : List UInt8} {n k : Nat} (hk : 128 ≤ k ∧ n + k < 256) (hbs : lineFeed ∉ bs) :
      lineFeed ∉ UInt8.ofNat (n + k) :: bs :=
    List.not_mem_cons_of_ne_of_not_mem (hbyte (by omega)) hbs
  simp only [String.utf8EncodeChar]
  split
  · exact List.not_mem_cons_of_ne_of_not_mem (hbyte (by omega)) List.not_mem_nil
  split
  · exact hhigh (by omega) (hhigh (by omega) List.not_mem_nil)
  split
  · exact hhigh (by omega) (hhigh (by omega) (hhigh (by omega) List.not_mem_nil))
  · exact hhigh (by omega) (hhigh (by omega) (hhigh (by omega) (hhigh (by omega) List.not_mem_nil)))

theorem count_flatMap_utf8EncodeChar (cs : List Char) :
    (cs.flatMap String.utf8EncodeChar).count lineFeed = cs.count '\n' := by
  induction cs with
  | nil => rfl
  | cons c cs ih =>
    rw [List.flatMap_cons, List.count_append, ih]
    by_cases h : c = '\n'
    · subst h
      rw [List.count_cons_self, Nat.add_comm]
      rfl
    · rw [List.count_cons_of_ne h, List.count_eq_zero.2 (lineFeed_notMem_utf8EncodeChar h),
        Nat.zero_add]

/-- **The line feeds of a text are those among its bytes.** -/
theorem count_bytes (s : String) : (bytes s).count lineFeed = s.toList.count '\n' := by
  rw [bytes_eq_flatMap, count_flatMap_utf8EncodeChar]

theorem lineFeed_notMem_bytes {s : String} (h : '\n' ∉ s.toList) : lineFeed ∉ bytes s := by
  rw [← List.count_eq_zero, count_bytes, List.count_eq_zero]
  exact h

/-- The bytes of lines, each with its line feed. -/
def linesBytes (lines : List String) : List UInt8 :=
  lines.flatMap fun line => bytes line ++ [lineFeed]

theorem linesBytes_cons (line : String) (lines : List String) :
    linesBytes (line :: lines) = bytes line ++ lineFeed :: linesBytes lines := by
  simp [linesBytes]

theorem linesBytes_concat (lines : List String) (line : String) :
    linesBytes (lines ++ [line]) = linesBytes lines ++ bytes line ++ [lineFeed] := by
  simp [linesBytes]

theorem length_linesBytes (lines : List String) : (linesBytes lines).length = spanOf lines := by
  simp [linesBytes, spanOf, length_bytes, List.length_flatMap]

theorem count_linesBytes {lines : List String} (h : ∀ line ∈ lines, lineFeed ∉ bytes line) :
    (linesBytes lines).count lineFeed = lines.length := by
  induction lines with
  | nil => rfl
  | cons line lines ih =>
    obtain ⟨hline, hlines⟩ := List.forall_mem_cons.1 h
    rw [linesBytes_cons, List.count_append, List.count_eq_zero.2 hline, List.count_cons_self,
      ih hlines, Nat.zero_add, List.length_cons]

theorem bytes_join (before : List String) (line : String) (rest : List String) :
    bytes (join "\n" (before ++ line :: rest)) =
      linesBytes before ++ bytes (join "\n" (line :: rest)) := by
  induction before with
  | nil => rfl
  | cons first before ih =>
    have hjoin : join "\n" (first :: (before ++ line :: rest)) =
        first ++ "\n" ++ join "\n" (before ++ line :: rest) := by
      cases before <;> rfl
    have hfeed : bytes "\n" = [lineFeed] := by decide
    rw [List.cons_append, hjoin, bytes_append, bytes_append, ih, hfeed, linesBytes_cons]
    simp

/-- A text that starts with a line has its bytes at the front. -/
theorem bytes_isPrefix_join (line : String) (rest : List String) :
    bytes line <+: bytes (join "\n" (line :: rest)) := by
  cases rest with
  | nil => exact List.prefix_rfl
  | cons next rest =>
    rw [join, bytes_append, bytes_append, List.append_assoc]
    exact List.prefix_append ..

/-- The lines of a text take one byte more than the text, the line feed of the last one. -/
theorem spanOf_linesOf (source : String) : spanOf (linesOf source) = source.utf8ByteSize + 1 := by
  obtain ⟨before, last, hlines⟩ := (List.eq_nil_or_concat' _).resolve_left (linesOf_ne_nil source)
  have hbytes := bytes_join before last []
  rw [← hlines, join_linesOf] at hbytes
  rw [hlines, spanOf_append, ← length_bytes source, hbytes, List.length_append, length_linesBytes]
  change _ = _ + (bytes last).length + 1
  rw [length_bytes]
  rfl

/-! ### The two scans -/

/-- **The order of positions**: by line, and on a line by column. -/
def lex (p : Position) : ℕ ×ₗ ℕ := toLex (p.line, p.column)

/-- **One byte more is a later position.** -/
theorem lex_after_lt (before : List UInt8) (b : UInt8) :
    (after before).lex < (after (before ++ [b])).lex := by
  rw [lex, lex, Prod.Lex.toLex_lt_toLex]
  by_cases hb : b = lineFeed
  · exact Or.inl (by simp [after, hb])
  · exact Or.inr (by simp [after, hb])

/-- Without a line feed, the position is on the first line. -/
theorem after_of_notMem {bs : List UInt8} (h : lineFeed ∉ bs) : after bs = ⟨1, bs.length + 1⟩ := by
  have hall : bs.reverse.takeWhile (· != lineFeed) = bs.reverse :=
    List.takeWhile_eq_self_iff.2 fun b hb =>
      bne_iff_ne.2 (ne_of_mem_of_not_mem (List.mem_reverse.1 hb) h)
  rw [after, hall, List.length_reverse, List.count_eq_zero.2 h]

/-- The scan back stops at the last line feed. -/
theorem after_append_lineFeed (before : List UInt8) {bs : List UInt8} (h : lineFeed ∉ bs) :
    after (before ++ lineFeed :: bs) = ⟨before.count lineFeed + 2, bs.length + 1⟩ := by
  have hstop : (before ++ lineFeed :: bs).reverse.takeWhile (· != lineFeed) = bs.reverse := by
    rw [List.reverse_append, List.reverse_cons, List.append_assoc,
      List.takeWhile_append_of_pos fun b hb =>
        bne_iff_ne.2 (ne_of_mem_of_not_mem (List.mem_reverse.1 hb) h)]
    simp
  rw [after, hstop, List.length_reverse, List.count_append, List.count_cons_self,
    List.count_eq_zero.2 h]

/-- **After whole lines and a part of one**, the line is the next one, and the column tells the
part. -/
theorem after_linesBytes {lines : List String} (hlines : ∀ line ∈ lines, lineFeed ∉ bytes line)
    {bs : List UInt8} (h : lineFeed ∉ bs) :
    after (linesBytes lines ++ bs) = ⟨lines.length + 1, bs.length + 1⟩ := by
  rcases List.eq_nil_or_concat' lines with rfl | ⟨before, last, rfl⟩
  · exact after_of_notMem h
  · -- the scan back stops at the line feed of the last whole line
    obtain ⟨hbefore, hlast⟩ := List.forall_mem_append.1 hlines
    rw [linesBytes_concat, List.append_assoc, List.singleton_append, after_append_lineFeed _ h,
      List.count_append, count_linesBytes hbefore,
      List.count_eq_zero.2 (hlast last List.mem_cons_self), List.length_append]
    rfl

/-! ### Offsets in a text -/

variable {source : String}

/-- **The position of a place on a line.** -/
theorem ofOffset_of_linesOf {before rest : List String} {line : String} {c : Nat}
    (hlines : linesOf source = before ++ line :: rest) (hc : c ≤ line.utf8ByteSize) :
    ofOffset source (spanOf before + c) = ⟨before.length + 1, c + 1⟩ := by
  have hfeeds : ∀ l ∈ before ++ line :: rest, lineFeed ∉ bytes l := fun l hl =>
    lineFeed_notMem_bytes (lineFeed_notMem_of_mem_linesOf (hlines ▸ hl))
  have hbytes := bytes_join before line rest
  rw [← hlines, join_linesOf] at hbytes
  obtain ⟨tail, htail⟩ := bytes_isPrefix_join line rest
  have hlength : c ≤ (bytes line).length := by rwa [length_bytes]
  -- the offset ends inside the line, so what is taken is the lines before and `c` bytes of it
  have htake : (bytes source).take (spanOf before + c) =
      linesBytes before ++ (bytes line).take c := by
    rw [hbytes, ← htail, ← length_linesBytes, List.take_length_add_append,
      List.take_append_of_le_length hlength]
  have hpart : lineFeed ∉ (bytes line).take c := fun h =>
    hfeeds line List.mem_append_cons_self (List.mem_of_mem_take h)
  rw [ofOffset, htake, after_linesBytes (fun l hl => hfeeds l (List.mem_append_left _ hl)) hpart,
    List.length_take, Nat.min_eq_left hlength]

theorem lex_ofOffset_lt_succ {o : Nat} (h : o < source.utf8ByteSize) :
    (ofOffset source o).lex < (ofOffset source (o + 1)).lex := by
  rw [← length_bytes] at h
  rw [ofOffset, ofOffset, List.take_succ_eq_append_getElem h]
  exact lex_after_lt _ _

/-- **A later offset has a later position.** -/
theorem lex_ofOffset_lt {o₁ o₂ : Nat} (h : o₁ < o₂) (ho : o₂ ≤ source.utf8ByteSize) :
    (ofOffset source o₁).lex < (ofOffset source o₂).lex := by
  induction o₂, h using Nat.le_induction with
  | base => exact lex_ofOffset_lt_succ ho
  | succ o₂ _ ih => exact (ih (by omega)).trans (lex_ofOffset_lt_succ ho)

theorem line_ofOffset_le (source : String) (o : Nat) :
    (ofOffset source o).line ≤ source.toList.count '\n' + 1 := by
  rw [← count_bytes]
  exact Nat.succ_le_succ ((List.take_sublist o _).count_le lineFeed)

/-- **An offset is found from its position**: it is on the line of that number, as many bytes from
its start as the column says. -/
theorem exists_line_ofOffset {o : Nat} (ho : o ≤ source.utf8ByteSize) :
    ∃ text, (linesOf source)[(ofOffset source o).line - 1]? = some text ∧
      (ofOffset source o).column ≤ text.utf8ByteSize + 1 ∧
      lineStart source (ofOffset source o).line + (ofOffset source o).column - 1 = o := by
  have hspan : o < spanOf (linesOf source) := by
    rw [spanOf_linesOf]
    omega
  obtain ⟨before, line, rest, c, hlines, hc, rfl⟩ := exists_line_of_lt_spanOf hspan
  rw [ofOffset_of_linesOf hlines hc]
  refine ⟨line, ?_, Nat.succ_le_succ hc, ?_⟩
  · simp [hlines]
  · simp [lineStart, hlines]

theorem ofOffset_of_le {o : Nat} (ho : source.utf8ByteSize ≤ o) :
    ofOffset source o = ofOffset source source.utf8ByteSize := by
  rw [← length_bytes] at ho ⊢
  rw [ofOffset, ofOffset, List.take_of_length_le ho, List.take_length]

/-- **Positions locate offsets.** They come in the order of the offsets, from line one and column
one on and on no more lines than the text has; an offset up to the end of the text is on the line
that its position names, and is recovered from where that line starts; offsets beyond are taken for
the end. -/
theorem ofOffset_faithful (source : String) :
    (∀ o₁ o₂, o₁ < o₂ → o₂ ≤ source.utf8ByteSize →
        (ofOffset source o₁).lex < (ofOffset source o₂).lex) ∧
      (∀ o, 1 ≤ (ofOffset source o).line ∧ 1 ≤ (ofOffset source o).column ∧
        (ofOffset source o).line ≤ source.toList.count '\n' + 1) ∧
      (∀ o ≤ source.utf8ByteSize,
        ∃ text, (linesOf source)[(ofOffset source o).line - 1]? = some text ∧
          (ofOffset source o).column ≤ text.utf8ByteSize + 1 ∧
          lineStart source (ofOffset source o).line + (ofOffset source o).column - 1 = o) ∧
      ∀ o, source.utf8ByteSize ≤ o → ofOffset source o = ofOffset source source.utf8ByteSize := by
  refine ⟨fun o₁ o₂ => lex_ofOffset_lt, fun o => ?_, fun o => exists_line_ofOffset, fun o =>
    ofOffset_of_le⟩
  exact ⟨Nat.le_add_left 1 _, Nat.le_add_left 1 _, line_ofOffset_le source o⟩

/-- Characters of two bytes on either side of an empty line. -/
def umlautSource : String := "ü\n\nö"

theorem ofOffset_faithful_umlautSource :
    (List.range 8).map (ofOffset umlautSource) =
        [⟨1, 1⟩, ⟨1, 2⟩, ⟨1, 3⟩, ⟨2, 1⟩, ⟨3, 1⟩, ⟨3, 2⟩, ⟨3, 3⟩, ⟨3, 3⟩] ∧
      (2 < 3 ∧ (ofOffset umlautSource 2).lex < (ofOffset umlautSource 3).lex) ∧
      (∃ text, (linesOf umlautSource)[2]? = some text ∧ 2 ≤ text.utf8ByteSize + 1 ∧
        lineStart umlautSource 3 + 2 - 1 = 5) ∧
      ofOffset umlautSource 7 = ofOffset umlautSource 6 := by
  have hsize : umlautSource.utf8ByteSize = 6 := by decide
  have hpositions : (List.range 8).map (ofOffset umlautSource) =
      [⟨1, 1⟩, ⟨1, 2⟩, ⟨1, 3⟩, ⟨2, 1⟩, ⟨3, 1⟩, ⟨3, 2⟩, ⟨3, 3⟩, ⟨3, 3⟩] := by decide
  have hfive : ofOffset umlautSource 5 = ⟨3, 2⟩ := by decide
  obtain ⟨hlex, -, hline, hbeyond⟩ := ofOffset_faithful umlautSource
  rw [hsize] at hbeyond
  have hfifth := hline 5 (by rw [hsize]; decide)
  rw [hfive] at hfifth
  exact ⟨hpositions, ⟨by decide, hlex 2 3 (by decide) (by rw [hsize]; decide)⟩, hfifth,
    hbeyond 7 (by decide)⟩

/-! ### Places in a document -/

theorem offsetOfLeft_le (source : String) (left : Nat) :
    offsetOfLeft source.toList left ≤ source.utf8ByteSize := by
  have hsplit : String.ofList (source.toList.take (source.toList.length - left)) ++
      String.ofList (source.toList.drop (source.toList.length - left)) = source := by
    rw [← String.ofList_append, List.take_append_drop, String.ofList_toList]
  calc offsetOfLeft source.toList left
    _ ≤ offsetOfLeft source.toList left +
        (String.ofList (source.toList.drop (source.toList.length - left))).utf8ByteSize :=
      Nat.le_add_right _ _
    _ = source.utf8ByteSize := by rw [offsetOfLeft, ← String.utf8ByteSize_append, hsplit]

theorem offsetOfLeft_lt {cs : List Char} {left left' : Nat} (h : left' < left)
    (hleft : left ≤ cs.length) : offsetOfLeft cs left < offsetOfLeft cs left' := by
  -- the characters in between take at least a byte
  have hbetween : (cs.drop (cs.length - left)).take (left - left') ≠ [] := by
    rw [ne_eq, List.take_eq_nil_iff, List.drop_eq_nil_iff]
    omega
  have hbytes : (String.ofList ((cs.drop (cs.length - left)).take (left - left'))).utf8ByteSize ≠
      0 := by
    rwa [ne_eq, String.utf8ByteSize_eq_zero_iff, String.ofList_eq_empty_iff]
  have hlength : cs.length - left' = cs.length - left + (left - left') := by omega
  rw [offsetOfLeft, offsetOfLeft, hlength, List.take_add, String.ofList_append,
    String.utf8ByteSize_append]
  omega

/-- **What is read later has a later position.** -/
theorem lex_ofOffset_offsetOfLeft_lt {left left' : Nat} (h : left' < left)
    (hleft : left ≤ source.toList.length) :
    (ofOffset source (offsetOfLeft source.toList left)).lex <
      (ofOffset source (offsetOfLeft source.toList left')).lex :=
  lex_ofOffset_lt (offsetOfLeft_lt h hleft) (offsetOfLeft_le source left')

end Position

end Balancer
