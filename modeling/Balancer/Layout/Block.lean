import Balancer.Layout.Line

/-!
# Blocks

The written configuration is a sequence of blocks, one for each section. A block is a header at the
left margin and indented lines below it. An empty line separates two blocks.
-/

namespace Balancer.Layout

open Balancer.Text

/-- **A block**: the header of a section and its lines. -/
structure Block where
  header : Line
  lines : List Line

/-- The blanks in front of a line of a block. -/
def indentation : String := "    "

/-- The text of a block, each line ended by a line feed. -/
def Block.text (block : Block) : String :=
  block.header.text ++ "\n" ++
    join "" (block.lines.map fun line => indentation ++ line.text ++ "\n")

/-- **The text of a sequence of blocks**, with empty lines between them. -/
def blocksText (blocks : List Block) : String :=
  join "\n" (blocks.map Block.text)

end Balancer.Layout
