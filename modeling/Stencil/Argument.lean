import Stencil.Journal
import Stencil.Json.Value
import Stencil.Script.Grammar.Script
/-!
# Arguments

An argument gives texts by flavor. Where a whole statement or expression is wanted, the text is read as a script
and made to fit: several statements become a block, or the body of a function that is called at once.
-/

namespace Stencil

/-- What an argument gives for a flavor. -/
inductive Argument.Entry where
  | text (text : String)
  /-- Something that is not text. -/
  | other
deriving DecidableEq, Repr

/-- The texts of an argument by flavor. -/
structure Argument where
  entry? : Flavor → Option Argument.Entry

namespace Argument

instance : DecidableEq Argument := fun a b =>
  if h : ∀ flavor ∈ Flavor.all, a.entry? flavor = b.entry? flavor then
    isTrue (by
      have hall : ∀ flavor, flavor ∈ Flavor.all := by intro flavor; cases flavor <;> decide
      cases a; cases b
      simp only [Argument.mk.injEq]
      funext flavor
      exact h flavor (hall flavor))
  else isFalse (by rintro rfl; exact h fun _ _ => rfl)

/-- The argument that gives nothing. -/
def empty : Argument := ⟨fun _ => none⟩

/-- The argument with one entry set. -/
def set (a : Argument) (flavor : Flavor) (entry : Entry) : Argument :=
  ⟨fun f => if f = flavor then some entry else a.entry? f⟩

/-- The argument that gives one text for all flavors. -/
def ofText (text : String) : Argument := empty.set .default (.text text)

/-- The argument with texts for flavors; a later text replaces an earlier one of the same flavor. -/
def ofFlavors (texts : List (Flavor × String)) : Argument :=
  texts.foldl (fun a pair => a.set pair.1 (.text pair.2)) empty

/-- Adds a member of a mapping. Unknown names are passed over with a warning, and so is null without one. -/
def addMember (name : String) (a : Argument) (member : String × Json) : Logged Argument :=
  match Flavor.ofName? member.1 with
  | none => do
    Logged.warn ("Ignoring unknown flavor '" ++ member.1 ++ "' of argument '" ++ name ++ "'")
    return a
  | some flavor =>
    match member.2 with
    | .null => return a
    | .string text => return a.set flavor (.text text)
    | _ => return a.set flavor .other

/-- The argument of a JSON value: a text, or a mapping from flavors to texts. -/
def ofValue (name : String) : Json → Logged Argument
  | .string text => return ofText text
  | .object members => members.foldlM (addMember name) empty
  | value => Logged.fail (.illegalArgument name value.describe)

/-! ## Texts -/

/-- The text of an entry. -/
def Entry.text? : Entry → Option String
  | .text value => some value
  | .other => none

/-- The text for a flavor: the entry of the flavor itself, or else the default one. -/
def flavor? (a : Argument) (flavor : Flavor) : Option String :=
  match a.entry? flavor with
  | some entry => entry.text?
  | none => (a.entry? .default).bind Entry.text?

/-- The text for a flavor, which must be there. -/
def toText (a : Argument) (flavor : Flavor) : Except Error String :=
  match a.flavor? flavor with
  | some text => .ok text
  | none => .error (.undefinedFlavor flavor)

/-! ## Trees -/

open Script

/-- The statements that the text for a flavor holds. -/
def statements (a : Argument) (flavor : Flavor) : Except Error (List Node) := do
  let text ← a.toText flavor
  match Script.parse text true with
  | .error fault => .error (.malformedArgument flavor fault)
  | .ok parsed => .ok parsed.script.parts

/-- Statements as one: itself, or a block. -/
def asStatement : List Node → Node
  | [only] => only
  | body => .node .block body

/-- A function without a name that is called at once. -/
def invoked (body : List Node) : Node :=
  let function := .node (.functionExpression {}) [.absent, .node .parameters [], .node .block body]
  .node (.call .plain) [.parenthesized function]

/-- Statements as an expression: the expression or function that they are, or the call of a function. -/
def asExpression : List Node → Node
  | [.node .expressionStatement [value]] => value
  | [.node (.functionDeclaration calling) parts] => .node (.functionExpression calling) parts
  | body => invoked body

/-- The argument as a statement. -/
def toStatement (a : Argument) : Except Error Node := do return asStatement (← a.statements .statement)

/-- The argument as an expression. -/
def toExpression (a : Argument) : Except Error Node := do return asExpression (← a.statements .expression)

end Argument

/-- Arguments by placeholder name. -/
abbrev Arguments := List (String × Argument)

namespace Arguments

/-- The argument of that name. -/
def find? (arguments : Arguments) (name : String) : Option Argument :=
  (List.find? (fun entry => entry.1 = name) arguments).map Prod.snd

/-- Adds an argument; one of the same name is replaced. -/
def insert (arguments : Arguments) (name : String) (argument : Argument) : Arguments :=
  (name, argument) :: arguments.filter fun entry => entry.1 ≠ name

/-- The arguments of an object, in the order of its names. -/
def ofMembers (members : List (String × Json)) : Logged Arguments :=
  members.foldlM (fun arguments member => do
    return arguments.insert member.1 (← Argument.ofValue member.1 member.2)) []

/-- The arguments of a JSON value, which must be an object. -/
def ofValue : Json → Logged Arguments
  | .object members => ofMembers members
  | value => Logged.fail (.illegalArguments value.describe)

end Arguments

end Stencil
