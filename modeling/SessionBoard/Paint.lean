import SessionBoard.Text.Cluster
import SessionBoard.Text.Width

namespace SessionBoard

open SessionBoard.Text

inductive Color
  | green
  | red
  | yellow
  | cyan
  | darkGray
  deriving DecidableEq, Repr, Inhabited

def Color.label : Color → String
  | .green => "Green"
  | .red => "Red"
  | .yellow => "Yellow"
  | .cyan => "Cyan"
  | .darkGray => "DarkGray"

structure Style where
  color : Option Color := none
  bold : Bool := false
  dim : Bool := false
  reversed : Bool := false
  deriving DecidableEq, Repr, Inhabited

namespace Style

def plain : Style := {}

def ofColor (color : Color) : Style := { color := some color }

/-- The style with what another one adds. -/
def patch (style other : Style) : Style where
  color := other.color <|> style.color
  bold := style.bold || other.bold
  dim := style.dim || other.dim
  reversed := style.reversed || other.reversed

def labels (style : Style) : List String :=
  (style.color.map Color.label).toList ++ (if style.bold then ["BOLD"] else [])
    ++ (if style.dim then ["DIM"] else []) ++ (if style.reversed then ["REVERSED"] else [])

end Style

structure Span where
  text : List Char
  style : Style := .plain
  deriving DecidableEq, Repr, Inhabited

structure Cell where
  symbol : List Char := [' ']
  style : Style := .plain
  deriving DecidableEq, Repr, Inhabited

/-- A cluster to draw: its text, its width and its style. -/
structure Glyph where
  symbol : List Char
  width : Nat
  style : Style
  deriving DecidableEq, Repr

namespace Glyph

/-- The clusters of a piece of text that can be drawn at all on a line of this width. -/
def ofSpan (lineWidth : Nat) (span : Span) : List Glyph :=
  (Cluster.split span.text).filterMap fun symbol =>
    let width := Width.ofText symbol
    if symbol.any Width.isControl ∨ width = 0 ∨ lineWidth < width then none
    else some ⟨symbol, width, span.style⟩

/-- The first glyphs that fit into `room` columns together. -/
def fitting : (room : Nat) → List Glyph → List Glyph
  | _, [] => []
  | room, glyph :: glyphs =>
    if room < glyph.width then [] else glyph :: fitting (room - glyph.width) glyphs

def cells (base : Style) (glyph : Glyph) : List Cell :=
  ⟨glyph.symbol, base.patch glyph.style⟩ ::
    List.replicate (glyph.width - 1) { style := base }

end Glyph

/-- The cells of a line of styled text. A cluster of characters takes one cell, or a cell and the blank ones it
covers, and the line stops before the first cluster that does not fit. Centered text starts half its width
before the middle. -/
def drawLine (width : Nat) (base : Style) (centered : Bool) (spans : List Span) : List Cell :=
  let glyphs := Glyph.fitting width (spans.flatMap (Glyph.ofSpan width))
  let used := glyphs.foldr (fun glyph used => glyph.width + used) 0
  let offset := if centered then width / 2 - used / 2 else 0
  let cells := List.replicate offset { style := base } ++ glyphs.flatMap (Glyph.cells base)
  cells ++ List.replicate (width - cells.length) { style := base }

def drawSpans (width : Nat) (spans : List Span) : List Cell :=
  drawLine width .plain false spans

def blankLine (width : Nat) : List Cell :=
  drawSpans width []

/-- Lines in an area, blank below the last one. -/
def fillArea (width height : Nat) (lines : List (List Cell)) : List (List Cell) :=
  let kept := lines.take height
  kept ++ List.replicate (height - kept.length) (blankLine width)

end SessionBoard
