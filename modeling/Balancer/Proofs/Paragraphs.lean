import Balancer.Proofs.Lines
import Balancer.Proofs.Naming
import Balancer.Report.Finding
import Mathlib

/-!
# The layout of a written configuration

The text of a configuration falls into lines at its line feeds, and its lines fall into paragraphs
at the empty ones. This file shows that the paragraphs are the blocks that were written, each with
its header and its indented lines, and that their headers name the sections of the configuration in
the fixed order of kinds.

Both cuts are made by `List.splitOn`, which undoes `List.intercalate` where no piece holds the
separator. For the first cut this is what `Balancer.Configuration.unbroken_blocks` provides. For the
second one it is the indentation: a line of a block is never empty, whatever its words are, and a
header starts with its keyword.
-/

namespace Balancer

open Layout Text

/-! ### Lines of a text -/

/-- **The lines of a text**: what stands between its line feeds. -/
def linesOf (s : String) : List String := (s.toList.splitOn '\n').map String.ofList

theorem toList_join (sep : String) (texts : List String) :
    (join sep texts).toList = sep.toList.intercalate (texts.map String.toList) := by
  induction texts with
  | nil => rfl
  | cons s texts ih =>
    cases texts with
    | nil => simp [join]
    | cons t texts =>
      rw [join, String.toList_append, String.toList_append, ih]
      simp [List.intercalate_cons_cons]

/-- Texts that are joined by a character they do not hold are what stands between its
occurrences. -/
theorem splitOn_join {c : Char} {sep : String} {texts : List String} (hsep : sep.toList = [c])
    (h : ∀ text ∈ texts, c ∉ text.toList) (hne : texts ≠ []) :
    ((join sep texts).toList.splitOn c).map String.ofList = texts := by
  have hpieces : ∀ cs ∈ texts.map String.toList, c ∉ cs := List.forall_mem_map.2 h
  have hsplit := List.splitOn_intercalate c hpieces (by simpa using hne)
  rw [toList_join, hsep, hsplit, List.map_map]
  simp [Function.comp_def]

/-- Unbroken texts, put on lines of their own, are the lines. -/
theorem linesOf_join {lines : List String} (h : Unbroken lines) (hne : lines ≠ []) :
    linesOf (join "\n" lines) = lines :=
  splitOn_join rfl (fun line hline => unbroken_text.1 (unbroken_list.1 h line hline)) hne

/-- A text of several lines ends like its last line, unless that is empty. -/
theorem getLast?_join {sep last : String} (hlast : last ≠ "") (lines : List String) :
    (join sep (lines ++ [last])).toList.getLast? = last.toList.getLast? := by
  have hsome : last.toList.getLast? ≠ none := by simpa using hlast
  obtain ⟨c, hc⟩ := Option.ne_none_iff_exists'.1 hsome
  induction lines with
  | nil => rfl
  | cons s lines ih =>
    have hjoin : join sep (s :: lines ++ [last]) = s ++ sep ++ join sep (lines ++ [last]) := by
      cases lines <;> rfl
    rw [hjoin, String.toList_append, List.getLast?_append, ih, hc, Option.some_or]

/-- Texts that are ended by line feeds have them between each other and one more at the end. -/
theorem join_lines (lines : List String) (hne : lines ≠ []) :
    join "" (lines.map (· ++ "\n")) = join "\n" lines ++ "\n" := by
  induction lines with
  | nil => exact absurd rfl hne
  | cons s lines ih =>
    cases lines with
    | nil => rfl
    | cons t lines =>
      rw [List.map_cons, join_cons, ih (List.cons_ne_nil t lines), join]
      simp [String.append_assoc]

/-! ### Paragraphs -/

namespace Layout

/-- The lines of a block as they stand in the text. -/
def Block.paragraph (block : Block) : List String :=
  block.header.text :: block.lines.map fun line => indentation ++ line.text

theorem Block.text_eq (block : Block) :
    block.text = join "" (block.paragraph.map (· ++ "\n")) := by
  rw [Block.text, Block.paragraph, List.map_cons, join_cons, List.map_map]
  rfl

/-- **The lines of a sequence of blocks**: those of the blocks, with an empty line between two
blocks. -/
theorem blocksText_eq (blocks : List Block) :
    blocksText blocks =
      join "" (([""].intercalate (blocks.map Block.paragraph)).map (· ++ "\n")) := by
  induction blocks with
  | nil => rfl
  | cons block blocks ih =>
    cases blocks with
    | nil => simp [blocksText, join, Block.text_eq]
    | cons block' blocks =>
      have htext : blocksText (block :: block' :: blocks) =
          block.text ++ "\n" ++ blocksText (block' :: blocks) := rfl
      rw [htext, ih, Block.text_eq, List.map_cons, List.map_cons, List.map_cons,
        List.intercalate_cons_cons, List.map_append, List.map_append, join_append, join_append]
      rfl

theorem Block.unbroken_paragraph {block : Block} (h : Unbroken block) :
    Unbroken block.paragraph := by
  obtain ⟨hheader, hlines⟩ := unbroken_pair.1 (unbroken_of.1 h)
  have htext (line : Line) (hline : Unbroken line) : Unbroken line.text :=
    unbroken_join (unbroken_literal (by decide)) hline
  refine unbroken_cons.2 ⟨htext _ hheader, unbroken_map (fun line hline => ?_) hlines⟩
  exact unbroken_concat.2 ⟨by decide, htext line hline⟩

/-- Indentation keeps the lines of a block from being empty. -/
theorem Block.empty_notMem_paragraph {block : Block} (h : block.header.text ≠ "") :
    "" ∉ block.paragraph := by
  rw [Block.paragraph, List.mem_cons, List.mem_map, not_or]
  refine ⟨h.symm, ?_⟩
  rintro ⟨line, -, hline⟩
  simp [indentation] at hline

theorem unbroken_intercalate {paragraphs : List (List String)} (h : Unbroken paragraphs) :
    Unbroken ([""].intercalate paragraphs) := by
  induction paragraphs with
  | nil => exact unbroken_nil
  | cons p ps ih =>
    obtain ⟨hp, hps⟩ := unbroken_cons.1 h
    cases ps with
    | nil => simpa using hp
    | cons p' ps =>
      rw [List.intercalate_cons_cons, unbroken_append, unbroken_append]
      exact ⟨⟨hp, by decide⟩, ih hps⟩

/-- Where no paragraph is empty or has an empty line, the last line of all is not empty. -/
theorem exists_last_intercalate {paragraphs : List (List String)} (hne : paragraphs ≠ [])
    (h : ∀ p ∈ paragraphs, p ≠ [] ∧ "" ∉ p) :
    ∃ front last, [""].intercalate paragraphs = front ++ [last] ∧ last ≠ "" := by
  induction paragraphs with
  | nil => exact absurd rfl hne
  | cons p ps ih =>
    obtain ⟨⟨hp, hempty⟩, hps⟩ := List.forall_mem_cons.1 h
    cases ps with
    | nil =>
      obtain ⟨front, last, rfl⟩ := List.eq_nil_or_concat' p |>.resolve_left hp
      refine ⟨front, last, List.intercalate_singleton, ?_⟩
      rintro rfl
      exact hempty (by simp)
    | cons p' ps =>
      obtain ⟨front, last, hrest, hlast⟩ := ih (List.cons_ne_nil p' ps) hps
      refine ⟨p ++ [""] ++ front, last, ?_, hlast⟩
      rw [List.intercalate_cons_cons, hrest, ← List.append_assoc]

/-- **Blocks are found again in their text.** -/
theorem splitOn_blocksText {blocks : List Block} (hne : blocks ≠ []) (h : Unbroken blocks)
    (hheaders : ∀ block ∈ blocks, block.header.text ≠ "") :
    ∃ body, blocksText blocks = body ++ "\n" ∧ body.toList.getLast? ≠ some '\n' ∧
      (linesOf body).splitOn "" = blocks.map Block.paragraph := by
  have hne' : blocks.map Block.paragraph ≠ [] := by simpa using hne
  have hparagraphs : ∀ p ∈ blocks.map Block.paragraph, p ≠ [] ∧ "" ∉ p := by
    rw [List.forall_mem_map]
    exact fun block hblock =>
      ⟨List.cons_ne_nil _ _, Block.empty_notMem_paragraph (hheaders block hblock)⟩
  have hunbroken : Unbroken ([""].intercalate (blocks.map Block.paragraph)) :=
    unbroken_intercalate (unbroken_map (fun _ => Block.unbroken_paragraph) h)
  obtain ⟨front, last, hlines, hlast⟩ := exists_last_intercalate hne' hparagraphs
  have hlines' : [""].intercalate (blocks.map Block.paragraph) ≠ [] := by simp [hlines]
  refine ⟨join "\n" ([""].intercalate (blocks.map Block.paragraph)), ?_, ?_, ?_⟩
  · rw [blocksText_eq, join_lines _ hlines']
  · -- the last line is not empty, and its last character is not a line feed
    rw [hlines, unbroken_append, unbroken_cons] at hunbroken
    rw [hlines, getLast?_join hlast]
    exact fun hfeed => unbroken_text.1 hunbroken.2.1 (List.mem_of_getLast? hfeed)
  · rw [linesOf_join hunbroken hlines']
    exact List.splitOn_intercalate "" (fun p hp => (hparagraphs p hp).2) hne'

end Layout

/-! ### Headers -/

/-- **The headers of a configuration**, one for each section that is written. -/
def Configuration.headers (config : Configuration) : List Header :=
  (if config.global = none ∧ config.scripts = [] then [] else [⟨"global", none⟩]) ++
    config.defaults.toList.map (fun defaults => ⟨"defaults", defaults.name⟩) ++
    config.peers.map (fun group => ⟨"peers", group.name⟩) ++
    config.resolvers.map (fun group => ⟨"resolvers", group.name⟩) ++
    config.mailers.map (fun group => ⟨"mailers", group.name⟩) ++
    config.frontends.map (fun frontend => ⟨"frontend", frontend.name⟩) ++
    config.backends.map (fun backend => ⟨"backend", backend.name⟩) ++
    config.listens.map (fun listen => ⟨"listen", listen.name⟩)

section Headers

variable {config : Configuration}

/-- The line of a header. -/
theorem Header.text_eq (header : Header) :
    header.text = Line.text (header.kind :: header.name.toList) := by
  obtain ⟨kind, name⟩ := header
  cases name <;> rfl

/-- **Each block is headed by its section.** -/
theorem Configuration.map_header_blocks :
    config.blocks.map (fun block => block.header.text) = config.headers.map Header.text := by
  have hglobal : config.globalBlock.map (fun block => block.header.text) =
      (if config.global = none ∧ config.scripts = [] then []
        else [Header.mk "global" none]).map Header.text := by
    rw [Configuration.globalBlock]
    cases hset : config.global <;> cases hscripts : config.scripts <;> rfl
  have hdefaults : ((config.defaults.map Defaults.block).toList.map fun block =>
      block.header.text) =
      (config.defaults.toList.map fun defaults => Header.mk "defaults" defaults.name).map
        Header.text := by
    cases config.defaults with
    | none => rfl
    | some defaults => simp [Header.text_eq, Defaults.block]
  simp only [Configuration.blocks, Configuration.headers, List.map_append, hglobal, hdefaults,
    List.map_map]
  rfl

/-- The headers are those of the sections, so there is none exactly if there is no section. -/
theorem Configuration.headers_eq_nil_iff : config.headers = [] ↔
    config.global = none ∧ config.scripts = [] ∧ config.defaults = none ∧ config.peers = [] ∧
      config.resolvers = [] ∧ config.mailers = [] ∧ config.frontends = [] ∧ config.backends = [] ∧
      config.listens = [] := by
  simp [Configuration.headers, and_assoc]

/-- The keywords of the kinds of sections. -/
def blockKinds : List String :=
  ["global", "defaults", "peers", "resolvers", "mailers", "frontend", "backend", "listen"]

theorem Configuration.kind_mem_of_mem_headers :
    ∀ header ∈ config.headers, header.kind ∈ blockKinds := by
  simp only [Configuration.headers, List.forall_mem_append, List.forall_mem_map]
  simp [blockKinds]

/-- A header starts with the keyword of its kind: it is not empty and stands at the left margin. -/
theorem Header.head?_text {header : Header} (h : header.kind ∈ blockKinds) :
    header.text.toList.head? ≠ none ∧ header.text.toList.head? ≠ some ' ' := by
  have hkinds : ∀ kind ∈ blockKinds,
      kind.toList.head? ≠ none ∧ kind.toList.head? ≠ some ' ' := by
    simp [blockKinds]
  obtain ⟨kind, name⟩ := header
  cases name with
  | none => exact hkinds kind h
  | some name =>
    have hne : kind.toList ≠ [] := by simpa using (hkinds kind h).1
    have hhead : (kind ++ " " ++ name).toList.head? = kind.toList.head? := by
      rw [String.append_assoc, String.toList_append, List.head?_append_of_ne_nil _ hne]
    rw [Header.text, hhead]
    exact hkinds kind h

/-- The blocks in the order of the headers. -/
theorem Configuration.forall₂_headers :
    List.Forall₂ (fun header block =>
      header.kind ∈ blockKinds ∧ header.text = block.header.text)
      config.headers config.blocks := by
  refine (List.forall₂_and_left _ _).2 ⟨Configuration.kind_mem_of_mem_headers, ?_⟩
  rw [← List.forall₂_map_right_iff, ← List.forall₂_map_left_iff, List.forall₂_eq_eq_eq]
  exact Configuration.map_header_blocks.symm

theorem Configuration.header_ne_empty : ∀ block ∈ config.blocks, block.header.text ≠ "" := by
  intro block hblock hempty
  have hmem : block.header.text ∈ config.headers.map Header.text := by
    rw [← Configuration.map_header_blocks]
    exact List.mem_map_of_mem hblock
  obtain ⟨header, hheader, htext⟩ := List.mem_map.1 hmem
  have hkind := Configuration.kind_mem_of_mem_headers header hheader
  exact (Header.head?_text hkind).1 (by rw [htext, hempty]; rfl)

end Headers

/-! ### The whole text -/

/-- **A paragraph of a section**: its header at the left margin, and below it any number of lines
that are indented, and so not empty. -/
structure IsParagraph (header : Header) (lines : List String) : Prop where
  head : lines.head? = some header.text
  unindented : startsWith header.text " " = false
  indented : ∀ line ∈ lines.tail, startsWith line "    " = true

theorem Layout.Block.isParagraph {header : Header} {block : Block}
    (h : header.kind ∈ blockKinds ∧ header.text = block.header.text) :
    IsParagraph header block.paragraph where
  head := congrArg some h.2.symm
  unindented := by
    obtain ⟨-, hblank⟩ := Header.head?_text h.1
    rw [startsWith]
    cases hchars : header.text.toList with
    | nil => rfl
    | cons c cs =>
      have hc : ' ' ≠ c := fun hc => hblank (by rw [hchars, List.head?_cons, hc])
      simp [stripFront?, hc]
  indented := by
    rw [Block.paragraph, List.tail_cons, List.forall_mem_map]
    intro line _
    simp [startsWith, indentation, stripFront?]

/-- **The layout of the written configuration can be read off unambiguously.** If no string of the
configuration has a line feed, its text is empty exactly if there is no section to write. Otherwise
the text ends in one line feed and no more, and its lines split at the empty ones into one paragraph
for each section, in the order of the headers: that of the block that was written for it. -/
theorem Configuration.text_paragraphs (config : Configuration)
    (h : ∀ s ∈ strings config, '\n' ∉ s.toList) :
    (config.text = "" ↔ config.global = none ∧ config.scripts = [] ∧ config.defaults = none ∧
      config.peers = [] ∧ config.resolvers = [] ∧ config.mailers = [] ∧ config.frontends = [] ∧
      config.backends = [] ∧ config.listens = []) ∧
    (config.text ≠ "" → ∃ body, config.text = body ++ "\n" ∧ body.toList.getLast? ≠ some '\n' ∧
      (linesOf body).splitOn "" = config.blocks.map Block.paragraph ∧
      List.Forall₂ IsParagraph config.headers ((linesOf body).splitOn "")) := by
  have hempty : config.blocks = [] ↔ config.headers = [] := by
    rw [← List.map_eq_nil_iff, Configuration.map_header_blocks, List.map_eq_nil_iff]
  rw [← Configuration.headers_eq_nil_iff, ← hempty, Configuration.text]
  by_cases hblocks : config.blocks = []
  · have hnone : blocksText config.blocks = "" := by rw [hblocks]; rfl
    exact ⟨iff_of_true hnone hblocks, fun hsome => absurd hnone hsome⟩
  · obtain ⟨body, htext, hend, hsplit⟩ := splitOn_blocksText hblocks
      (Configuration.unbroken_blocks h) Configuration.header_ne_empty
    have hsome : blocksText config.blocks ≠ "" := by simp [htext]
    refine ⟨iff_of_false hsome hblocks, fun _ => ⟨body, htext, hend, hsplit, ?_⟩⟩
    rw [hsplit, List.forall₂_map_right_iff]
    exact Configuration.forall₂_headers.imp fun _ _ => Block.isParagraph

/-- A configuration with a script, a group of peers and a backend without a line of its own. -/
def sparseConfiguration : Configuration where
  scripts := [{ name := "auth", path := none, source := some "local x = 1\n" }]
  peers := [{ name := "mates", peers := [{ name := "a", address := "10.0.0.1", port := some 1024 }] }]
  backends := [{ name := "app" }]

/-- The script brings the process-wide settings in, and its source, which has a line feed, does not
matter. -/
theorem Configuration.text_paragraphs_sparseConfiguration :
    (∀ s ∈ strings sparseConfiguration, '\n' ∉ s.toList) ∧
    ∃ body, sparseConfiguration.text = body ++ "\n" ∧ body.toList.getLast? ≠ some '\n' ∧
      List.Forall₂ IsParagraph
        [⟨"global", none⟩, ⟨"peers", some "mates"⟩, ⟨"backend", some "app"⟩]
        ((linesOf body).splitOn "") := by
  have hunbroken : ∀ s ∈ strings sparseConfiguration, '\n' ∉ s.toList := by decide
  obtain ⟨hempty, hparagraphs⟩ := Configuration.text_paragraphs sparseConfiguration hunbroken
  have hsome : sparseConfiguration.text ≠ "" := fun htext => by
    have hscripts := (hempty.1 htext).2.1
    cases hscripts
  obtain ⟨body, htext, hend, -, hforall⟩ := hparagraphs hsome
  exact ⟨hunbroken, body, htext, hend, hforall⟩

end Balancer
