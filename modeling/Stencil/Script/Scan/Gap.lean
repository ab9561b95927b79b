import Stencil.Script.Token
import Stencil.Text.CharClass
/-!
# Gaps between tokens

Blanks, line ends and comments. The text of every line comment is kept; comments in the style of markup count
as line comments: one that begins with an opening marker anywhere, or with a closing marker at the start of a
line.
-/

namespace Stencil.Script.Scan

/-- What stands between two tokens. -/
structure Gap where
  stop : Cursor
  /-- Whether a line ended. -/
  afterLine : Bool
  /-- The line comments, the last one first. -/
  comments : List Comment
  flaw : Option Flaw

/-- Where in a gap the scanner is. -/
inductive GapState where
  | outside
  /-- In a line comment, with the characters after its marker, the last one first. -/
  | line (offset : Nat) (body : List Char)
  | block

/-- The comment read so far. -/
def closeComment (offset : Nat) (body : List Char) : Comment := ⟨offset, String.ofList body.reverse⟩

/-- Scans a gap from a place in the text. -/
def gapFrom : GapState → Nat → Bool → List Comment → List Char → Gap
  | .outside, offset, afterLine, comments, '/' :: '/' :: rest =>
    gapFrom (.line offset []) (offset + 2) afterLine comments rest
  | .outside, offset, afterLine, comments, '/' :: '*' :: rest =>
    gapFrom .block (offset + 2) afterLine comments rest
  | .outside, offset, afterLine, comments, '<' :: '!' :: '-' :: '-' :: rest =>
    gapFrom (.line offset []) (offset + 4) afterLine comments rest
  | .outside, offset, true, comments, '-' :: '-' :: '>' :: rest =>
    gapFrom (.line offset []) (offset + 3) true comments rest
  | .outside, offset, afterLine, comments, c :: rest =>
    if Text.isLineEnd c then gapFrom .outside (offset + 1) true comments rest
    else if Text.isScriptBlank c then gapFrom .outside (offset + 1) afterLine comments rest
    else ⟨⟨offset, c :: rest⟩, afterLine, comments, none⟩
  | .outside, offset, afterLine, comments, [] => ⟨⟨offset, []⟩, afterLine, comments, none⟩
  | .line start body, offset, afterLine, comments, c :: rest =>
    if Text.isLineEnd c then gapFrom .outside (offset + 1) true (closeComment start body :: comments) rest
    else gapFrom (.line start (c :: body)) (offset + 1) afterLine comments rest
  | .line start body, offset, afterLine, comments, [] =>
    ⟨⟨offset, []⟩, afterLine, closeComment start body :: comments, none⟩
  | .block, offset, afterLine, comments, '*' :: '/' :: rest =>
    gapFrom .outside (offset + 2) afterLine comments rest
  | .block, offset, afterLine, comments, c :: rest =>
    gapFrom .block (offset + 1) (afterLine || Text.isLineEnd c) comments rest
  | .block, offset, afterLine, comments, [] =>
    ⟨⟨offset, []⟩, afterLine, comments, some ⟨offset, .unterminatedComment⟩⟩

/-- The gap in front of the next token; `afterLine` says whether the place is the start of a line. -/
def gap (cur : Cursor) (afterLine : Bool) : Gap :=
  gapFrom .outside cur.offset afterLine [] cur.rest

end Stencil.Script.Scan
