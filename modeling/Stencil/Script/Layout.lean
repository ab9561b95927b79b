import Stencil.Text.CharClass
/-!
# Layouts

A layout is text with line breaks and nesting. A break at the start of a line adds no line, and the
indentation of a line is written with its first text, so a line without text stays empty.
-/

namespace Stencil.Script

/-- Text with line breaks and nesting. -/
inductive Layout where
  | nothing
  | text (s : String)
  /-- The end of the line, unless nothing is on it. -/
  | line
  /-- A layout one level deeper. -/
  | nested (inner : Layout)
  | append (first second : Layout)
deriving Repr

namespace Layout

instance : Append Layout := ⟨Layout.append⟩

instance : Coe String Layout := ⟨Layout.text⟩

/-- What has been written, and whether the last line is still empty. -/
structure Page where
  written : String
  isFresh : Bool

/-- The blanks in front of a line at a level. -/
def indentation (level : Nat) : String := String.ofList (List.replicate (4 * level) ' ')

/-- Writes text at a level. -/
def Page.put (page : Page) (level : Nat) (s : String) : Page :=
  if s.isEmpty then page
  else if page.isFresh then ⟨page.written ++ indentation level ++ s, false⟩
  else ⟨page.written ++ s, false⟩

/-- Ends the line unless it is empty. -/
def Page.endLine (page : Page) : Page :=
  if page.isFresh then page else ⟨page.written.push '\n', true⟩

/-- Writes a layout at a level. -/
def write : Layout → Nat → Page → Page
  | .nothing, _, page => page
  | .text s, level, page => page.put level s
  | .line, _, page => page.endLine
  | .nested inner, level, page => inner.write (level + 1) page
  | .append first second, level, page => second.write level (first.write level page)

/-- The text of a layout, without blanks at its end. -/
def render (l : Layout) : String := Text.trimEnd (l.write 0 ⟨"", true⟩).written

/-! ## Combining -/

/-- A layout that is there only under a condition. -/
def onlyIf (condition : Bool) (l : Layout) : Layout := if condition then l else .nothing

/-- One after the other. -/
def concat (items : List Layout) : Layout := items.foldr (· ++ ·) .nothing

/-- One after the other with something in between. -/
def separated (separator : Layout) : List Layout → Layout
  | [] => .nothing
  | first :: rest => first ++ concat (rest.map (separator ++ ·))

end Layout

end Stencil.Script
