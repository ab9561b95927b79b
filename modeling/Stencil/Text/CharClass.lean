import Stencil.Text.IdentifierTable
/-!
# Character classes

Three classes decide what the library reads: identifier characters of scripts, word characters of
placeholder names, and blanks. Identifier characters are those of Unicode 15.0, word characters those of 16.0; they
are close to each other, and the two short tables below say where they differ.
-/

namespace Stencil.Text

/-! ## Identifiers -/

/-- A character that may begin an identifier: a letter, `$`, `_`, or a code point with `ID_Start`. -/
def isIdentifierStart (c : Char) : Bool :=
  if c.toNat < 0x80 then c.isAlpha || c == '$' || c == '_'
  else identifierStartRanges.has c

/-- A character that may continue an identifier. Joiners may, although they cannot begin one. -/
def isIdentifierPart (c : Char) : Bool :=
  if c.toNat < 0x80 then c.isAlphanum || c == '$' || c == '_'
  else identifierStartRanges.has c || identifierPartRanges.has c || c == '\u200c' || c == '\u200d'

/-! ## Words -/

/-- Word characters that the identifier tables do not hold: enclosing marks, joiners and circled letters, and the
letters, marks and digits that Unicode 15.1 and 16.0 added. -/
def wordOnlyRanges : Ranges :=
  [(0x488, 0x489), (0x897, 0x897), (0x1abe, 0x1abe), (0x1c89, 0x1c8a), (0x200c, 0x200d), (0x20dd, 0x20e0),
   (0x20e2, 0x20e4), (0x24b6, 0x24e9), (0x2e2f, 0x2e2f), (0xa670, 0xa672), (0xa7cb, 0xa7cd), (0xa7da, 0xa7dc),
   (0x105c0, 0x105f3), (0x10d40, 0x10d65), (0x10d69, 0x10d6d), (0x10d6f, 0x10d85), (0x10ec2, 0x10ec4),
   (0x10efc, 0x10efc), (0x11380, 0x11389), (0x1138b, 0x1138b), (0x1138e, 0x1138e), (0x11390, 0x113b5),
   (0x113b7, 0x113c0), (0x113c2, 0x113c2), (0x113c5, 0x113c5), (0x113c7, 0x113ca), (0x113cc, 0x113d3),
   (0x113e1, 0x113e2), (0x116d0, 0x116e3), (0x11bc0, 0x11be0), (0x11bf0, 0x11bf9), (0x11f5a, 0x11f5a),
   (0x13460, 0x143fa), (0x16100, 0x16139), (0x16d40, 0x16d6c), (0x16d70, 0x16d79), (0x1ccf0, 0x1ccf9),
   (0x1e5d0, 0x1e5fa), (0x1f130, 0x1f149), (0x1f150, 0x1f169), (0x1f170, 0x1f189), (0x2ebf0, 0x2ee5d)]

/-- Identifier characters that are no word characters: a few signs kept for stability. -/
def identifierOnlyRanges : Ranges :=
  [(0xb7, 0xb7), (0x387, 0x387), (0x1369, 0x1371), (0x19da, 0x19da), (0x2118, 0x2118), (0x212e, 0x212e),
   (0x309b, 0x309c)]

/-- A word character: alphabetic, a mark, a decimal digit, a connector such as `_`, or a joiner. -/
def isWord (c : Char) : Bool :=
  if c.toNat < 0x80 then c.isAlphanum || c == '_'
  else wordOnlyRanges.has c ||
    ((identifierStartRanges.has c || identifierPartRanges.has c) && !identifierOnlyRanges.has c)

/-! ## Blanks -/

/-- The blanks beyond ASCII: next line, the space separators, and the line and paragraph separators. -/
def blankRanges : Ranges :=
  [(0x85, 0x85), (0xa0, 0xa0), (0x1680, 0x1680), (0x2000, 0x200a), (0x2028, 0x2029), (0x202f, 0x202f),
   (0x205f, 0x205f), (0x3000, 0x3000)]

/-- A character with the property `White_Space`. -/
def isBlank (c : Char) : Bool :=
  if c.toNat < 0x80 then c == ' ' || (9 ≤ c.toNat && c.toNat ≤ 13)
  else blankRanges.has c

/-- A character that ends a line of a script. -/
def isLineEnd (c : Char) : Bool :=
  c == '\n' || c == '\r' || c == '\u2028' || c == '\u2029'

/-- A blank of a script: a space separator, a tab or form feed, or the byte order mark. -/
def isScriptBlank (c : Char) : Bool :=
  (isBlank c && c != '\u0085') || c == '\ufeff'

/-! ## Trimming -/

/-- The text without the blanks at its end. -/
def trimEnd (text : String) : String :=
  String.ofList (text.toList.reverse.dropWhile isBlank).reverse

end Stencil.Text
