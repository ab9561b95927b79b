import Stencil.Rendering
import Stencil.Script.Print.Node
/-!
# Templates

A template is a script with the placeholders that its comments declare. It is made once and rendered any number
of times; rendering does not change it.
-/

namespace Stencil

open Script

/-- A script with declared placeholders. -/
structure Template where
  script : Node
  placeholders : Registry
  options : Options

namespace Template

/-- The template of a text. -/
def make (source : String) (options : Options) : Logged Template := do
  Logged.lift options.validate
  match Script.parse source false with
  | .error fault => Logged.fail (.malformedTemplate fault)
  | .ok parsed =>
    let placeholders ← Registry.ofComments options parsed.comments
    Logged.debug ("Parsed template with " ++ toString parsed.script.parts.length ++ " top-level statements and " ++
      toString placeholders.entries.length ++ " placeholders")
    return ⟨parsed.script, placeholders, options⟩

/-- What a rendering with arguments looks at. -/
def scope (template : Template) (arguments : Arguments) : Scope :=
  ⟨template.placeholders, arguments, template.options.substitution⟩

/-- The text of a template with arguments. -/
def renderWith (template : Template) (arguments : Arguments) : Logged String := do
  let script ← (template.scope arguments).render template.script
  return script.print template.options.minify

/-- The text of a template with the arguments of a JSON value. -/
def render (template : Template) (value : Json) : Logged String := do
  template.renderWith (← Arguments.ofValue value)

end Template

end Stencil
