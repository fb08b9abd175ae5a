import Balancer.Proofs.Naming

/-!
# Texts as sequences of segments

Whoever writes a text thinks of it as plain text with expressions in between. Plain text is written
with its markers escaped, an expression between `${` and `}`, and the two are put one after the
other. Reading does not look for segments: it looks for the next marker, and decides by the
character before it whether the marker is escaped. The two views meet if

* no two plain texts stand next to each other, since a dollar at the end of one and a brace at the
  start of the other would make a marker that neither of them has;
* no plain text ends in a dollar right before an expression, which would escape the expression;
* no expression holds a closing brace, which would end it.

Then the pieces of the written text are the pieces of its segments (`pieces_writtenText`), and
substitution is what it is segment by segment, put together (`interpolate_writtenText`): in whatever
way variables are looked up, with the same questions in the same order and the same failures.
-/

namespace Balancer

open Text

/-! ### Segments -/

/-- **A segment** of a text, as its author thinks of it. -/
inductive Segment where
  /-- Text that stands for itself, whatever it holds. -/
  | plain (text : String)
  /-- An expression whose rendering is meant. -/
  | expression (source : String)
deriving DecidableEq, Repr

namespace Segment

/-- How a segment is written. -/
def written : Segment → String
  | plain text => escape text
  | expression source => reference source

/-- Whether a segment may be written right before another. -/
def Joins : Segment → Segment → Prop
  | plain _, plain _ => False
  | plain text, expression _ => text.toList.getLast? ≠ some '$'
  | expression _, _ => True

/-- The pieces of a segment. -/
def pieces : Segment → List Piece
  | plain text => literalPieces text.toList
  | expression source => [.expression source]

end Segment

/-- **The text that segments are written as.** -/
def writtenText (segments : List Segment) : String := join "" (segments.map Segment.written)

/-- **Segments that can be told apart again** once they are written one after the other. -/
structure WellWritten (segments : List Segment) : Prop where
  joins : segments.IsChain Segment.Joins
  closed (source : String) : .expression source ∈ segments → '}' ∉ source.toList

theorem WellWritten.tail {segment : Segment} {segments : List Segment}
    (h : WellWritten (segment :: segments)) : WellWritten segments where
  joins := h.joins.tail
  closed source hsource := h.closed source (List.mem_cons_of_mem segment hsource)

/-! ### Pieces of segments -/

/-- Escaping does not change the last character. -/
theorem getLast?_escapePlain (cs : List Char) : (escapePlain cs).getLast? = cs.getLast? := by
  fun_induction escapePlain cs with
  | case1 cs ih => simp [List.getLast?_cons, ih]
  | case2 c cs hnot ih => simp [List.getLast?_cons, ih]
  | case3 => rfl

/-- No piece of a plain text is an opening without an end. -/
theorem unterminated_notMem_literalPieces (cs : List Char) : .unterminated ∉ literalPieces cs := by
  fun_induction literalPieces cs with
  | case1 cs ih => simpa using ih
  | case2 c cs hnot ih => simpa using ih
  | case3 => simp

theorem writtenText_cons (segment : Segment) (segments : List Segment) :
    writtenText (segment :: segments) = segment.written ++ writtenText segments :=
  join_cons _ _

/-- **The pieces of a written text are the pieces of its segments.** -/
theorem pieces_writtenText :
    {segments : List Segment} → WellWritten segments →
      pieces (writtenText segments) = segments.flatMap Segment.pieces
  | [], _ => rfl
  | [.plain text], _ => by
    rw [writtenText, List.map_singleton, join, Segment.written, pieces_escape]
    exact (List.flatMap_singleton Segment.pieces (.plain text)).symm
  | .plain text :: .plain text' :: segments, h => by
    have hjoins := h.joins
    rw [List.isChain_cons_cons] at hjoins
    exact hjoins.1.elim
  | .plain text :: .expression source :: segments, h => by
    have hjoins := h.joins
    rw [List.isChain_cons_cons] at hjoins
    have hlast : (escape text).toList.getLast? ≠ some '$' := by
      rw [escape, String.toList_ofList, getLast?_escapePlain]
      exact hjoins.1
    have hplain : .unterminated ∉ pieces (escape text) := by
      rw [pieces_escape]
      exact unterminated_notMem_literalPieces _
    have hclosed := h.closed source (List.mem_cons_of_mem _ List.mem_cons_self)
    -- the plain text and the expression are read together, since the dollar of the marker decides
    -- where the plain text ends
    rw [writtenText_cons, writtenText_cons, ← String.append_assoc, Segment.written, Segment.written,
      pieces_append_reference hlast hplain hclosed, pieces_writtenText h.tail.tail, pieces_escape]
    rfl
  | .expression source :: segments, h => by
    have hclosed := h.closed source List.mem_cons_self
    have hread := pieces_append_reference (show "".toList.getLast? ≠ some '$' by simp)
      (by simp [pieces, piecesFrom]) hclosed (writtenText segments)
    rw [String.empty_append] at hread
    rw [writtenText_cons, Segment.written, hread, pieces_writtenText h.tail]
    rfl

/-! ### Substitution, segment by segment -/

section Expansion

variable {m : Type → Type} [Monad m] [LawfulMonad m] [MonadExceptOf NormalizeError m]
  (lookup : String → m Value)

/-- What a segment stands for. -/
def Segment.expand : Segment → m String
  | plain text => pure text
  | expression source => Piece.expand source lookup (.expression source)

variable {lookup}

/-- The pieces of a segment put together are what it stands for. -/
theorem Segment.expand_pieces (input : String) (segment : Segment) :
    segment.pieces.mapM (Piece.expand input lookup) >>= (fun texts => pure (join "" texts)) =
      segment.expand lookup := by
  cases segment with
  | plain text =>
    rw [pieces, expand_literalPieces, String.ofList_toList]
    rfl
  | expression source =>
    rw [pieces, List.mapM_cons, List.mapM_nil]
    simp only [pure_bind, bind_assoc]
    exact bind_pure (Piece.expand source lookup (.expression source))

/-- **Substitution goes segment by segment.** What comes out of one segment is not looked at
again. -/
theorem interpolate_writtenText {segments : List Segment} (h : WellWritten segments) :
    interpolate lookup (writtenText segments) =
      segments.mapM (Segment.expand lookup) >>= fun texts => pure (join "" texts) := by
  rw [interpolate, pieces_writtenText h]
  generalize writtenText segments = input
  clear h
  induction segments with
  | nil => simp
  | cons segment segments ih =>
    rw [List.flatMap_cons, List.mapM_append, List.mapM_cons, ← segment.expand_pieces input]
    simp only [bind_assoc, pure_bind, join_append, join_cons]
    refine bind_congr fun first => ?_
    calc (segments.flatMap Segment.pieces).mapM (Piece.expand input lookup) >>=
          (fun rest => pure (join "" first ++ join "" rest))
        = ((segments.flatMap Segment.pieces).mapM (Piece.expand input lookup) >>=
            fun rest => pure (join "" rest)) >>= fun s => pure (join "" first ++ s) := by
          simp only [bind_assoc, pure_bind]
      _ = segments.mapM (Segment.expand lookup) >>=
            fun texts => pure (join "" first ++ join "" texts) := by
          rw [ih]
          simp only [bind_assoc, pure_bind]

end Expansion

/-! ### What a text is substituted by -/

section Rendering

variable (lookup : String → Except NormalizeError Value)

/-- **What a segment is replaced by**: plain text by itself, an expression by the rendering of its
value. -/
def Segment.Renders : Segment → String → Prop
  | plain text, s => s = text
  | expression source, s =>
    ∃ value, Expression.evaluate source lookup = .ok value ∧ value.render = some s

variable {lookup}

theorem Segment.expand_eq_ok_iff {segment : Segment} {s : String} :
    segment.expand lookup = .ok s ↔ segment.Renders lookup s := by
  cases segment with
  | plain text =>
    refine pure_eq_ok_iff.trans ?_
    exact eq_comm
  | expression source =>
    refine bind_eq_ok.trans (exists_congr fun value => and_congr_right fun _ => ?_)
    cases value.render with
    | none =>
      constructor
      · intro h
        cases h
      · intro h
        cases h
    | some text => exact pure_eq_ok_iff.trans Option.some_inj.symm

/-- A segment is replaced by something unless it is an expression without a rendering. -/
theorem Segment.exists_renders_iff {segment : Segment} :
    (∃ s, segment.Renders lookup s) ↔ ∀ source, segment = .expression source →
      ∃ value s, Expression.evaluate source lookup = .ok value ∧ value.render = some s := by
  cases segment with
  | plain text =>
    refine ⟨fun _ source h => ?_, fun _ => ⟨text, rfl⟩⟩
    cases h
  | expression source =>
    constructor
    · rintro ⟨s, value, hvalue, hs⟩ source' hsource
      cases hsource
      exact ⟨value, s, hvalue, hs⟩
    · intro h
      obtain ⟨value, s, hvalue, hs⟩ := h source rfl
      exact ⟨s, value, hvalue, hs⟩

/-- **Substitution is a homomorphism.** For segments that can be told apart once they are written,
it returns exactly if each expression has a value that can be rendered, and then it returns the
plain texts and the renderings, put together in order. In whatever way variables are looked up, it
does what its segments do one after the other, so that what is put in is not read again; and an
escaped text gives the plain one back without a question. -/
theorem interpolate_segments {segments : List Segment} (h : WellWritten segments)
    (lookup : String → Except NormalizeError Value) {m : Type → Type} [Monad m] [LawfulMonad m]
    [MonadExceptOf NormalizeError m] (consult : String → m Value) (t : String) :
    (Returns (interpolate lookup (writtenText segments)) ↔
        ∀ source, .expression source ∈ segments →
          ∃ value s, Expression.evaluate source lookup = .ok value ∧ value.render = some s) ∧
      (∀ s, interpolate lookup (writtenText segments) = .ok s ↔
        ∃ texts, List.Forall₂ (Segment.Renders lookup) segments texts ∧ s = join "" texts) ∧
      (interpolate consult (writtenText segments) = do
        return join "" (← segments.mapM (Segment.expand consult))) ∧
      interpolate consult (escape t) = pure t := by
  have hresult (s : String) : interpolate lookup (writtenText segments) = .ok s ↔
      ∃ texts, List.Forall₂ (Segment.Renders lookup) segments texts ∧ s = join "" texts := by
    rw [interpolate_writtenText h, bind_eq_ok]
    simp only [mapM_eq_ok, Segment.expand_eq_ok_iff, pure_eq_ok_iff, eq_comm (b := s)]
  refine ⟨?_, hresult, interpolate_writtenText h, interpolate_escape_eq_pure consult t⟩
  have hreturns : Returns (interpolate lookup (writtenText segments)) ↔
      ∀ segment ∈ segments, Returns (segment.expand lookup) := by
    rw [interpolate_writtenText h, returns_bind_pure_iff, returns_mapM_iff]
  rw [hreturns]
  simp only [Returns, Segment.expand_eq_ok_iff, Segment.exists_renders_iff]
  constructor
  · intro hall source hsource
    exact hall _ hsource source rfl
  · rintro hall segment hsegment source rfl
    exact hall source hsegment

/-- Two expressions in a row, and plain text with a marker and a dollar at its end. -/
def crowdedSegments : List Segment :=
  [.expression "n + 1", .expression "s", .plain "-$\x7bx\x7d$"]

/-- A variable whose text looks like a reference to another one. -/
def crowdedScope : OrderedMap Value :=
  .ofList [("n", .integer 41), ("s", .text "$\x7bn\x7d")]

theorem interpolate_segments_crowdedSegments :
    WellWritten crowdedSegments ∧
      writtenText crowdedSegments = "$\x7bn + 1\x7d$\x7bs\x7d-$$\x7bx\x7d$" ∧
      interpolate crowdedScope.lookupVariable (writtenText crowdedSegments) =
        .ok "42$\x7bn\x7d-$\x7bx\x7d$" ∧
      interpolate Query.question (escape "$$\x7b$\x7bx") = .done "$$\x7b$\x7bx" := by
  have hwritten : WellWritten crowdedSegments := by
    refine ⟨by simp [crowdedSegments, Segment.Joins], fun source hsource => ?_⟩
    simp only [crowdedSegments, List.mem_cons, Segment.expression.injEq, reduceCtorEq, or_false,
      List.not_mem_nil] at hsource
    rcases hsource with rfl | rfl
    · decide
    · decide
  have hrenders : List.Forall₂ (Segment.Renders crowdedScope.lookupVariable) crowdedSegments
      ["42", "$\x7bn\x7d", "-$\x7bx\x7d$"] :=
    .cons ⟨.integer 42, rfl, rfl⟩ (.cons ⟨.text "$\x7bn\x7d", rfl, rfl⟩ (.cons rfl .nil))
  obtain ⟨-, hresult, -, hplain⟩ := interpolate_segments hwritten crowdedScope.lookupVariable
    Query.question "$$\x7b$\x7bx"
  exact ⟨hwritten, by decide +kernel, (hresult _).2 ⟨_, hrenders, by decide +kernel⟩, hplain⟩

end Rendering

end Balancer
