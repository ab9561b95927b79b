import Mathlib.Data.Option.Defs
import Stencil.Proofs.Substitution
import Stencil.Proofs.Termination
import Stencil.Template
/-!
# What rendering does not look at

Of the declarations rendering looks at the names, and of an argument at the texts that it gives for a statement, an
expression, an identifier and a literal. `Agree` relates scopes that are the same in this. One visit does the same
under both (`step_eq_of_agree`), so the two walks solve the same recursion and are one (`walk_eq_of_agree`);
`renderWith_eq_of_agree` is the statement about templates. The order of declarations, descriptions, the order of
arguments, arguments that nothing declares, and the way a text came about are thereby out of sight.
-/

namespace Stencil

open Script

namespace Argument

/-- Two arguments give the same texts in the places that ask for one. -/
def SameTexts (a b : Argument) : Prop :=
  ∀ flavor ∈ [Flavor.statement, .expression, .identifier, .literal], a.flavor? flavor = b.flavor? flavor

instance (a b : Argument) : Decidable (a.SameTexts b) := List.decidableBAll _ _

variable {a b : Argument}

theorem SameTexts.toText_eq (h : a.SameTexts b) (flavor : Flavor)
    (hf : flavor ∈ [Flavor.statement, .expression, .identifier, .literal]) : a.toText flavor = b.toText flavor := by
  simp only [toText, h flavor hf]

theorem SameTexts.toStatement_eq (h : a.SameTexts b) : a.toStatement = b.toStatement := by
  simp only [toStatement, statements, h.toText_eq .statement (by simp)]

theorem SameTexts.toExpression_eq (h : a.SameTexts b) : a.toExpression = b.toExpression := by
  simp only [toExpression, statements, h.toText_eq .expression (by simp)]

end Argument

namespace Scope

/-- Two scopes declare the same names, supply the same ones of them with the same texts, and have one policy. -/
structure Agree (s t : Scope) : Prop where
  policy : s.policy = t.policy
  names : ∀ name, name ∈ s.registry.names ↔ name ∈ t.registry.names
  arguments : ∀ name ∈ s.registry.names,
    Option.Rel Argument.SameTexts (s.arguments.find? name) (t.arguments.find? name)

variable {s t : Scope}

/-! ## Declared names -/

theorem contains_eq_of_agree (h : Agree s t) : s.registry.contains = t.registry.contains := by
  funext name
  rw [Bool.eq_iff_iff]
  simpa [Registry.contains] using h.names name

theorem wholeToken?_eq_of_agree (h : Agree s t) : s.registry.wholeToken? = t.registry.wholeToken? := by
  funext text
  simp only [Registry.wholeToken?, contains_eq_of_agree h]

theorem statementPlaceholder?_eq_of_agree (h : Agree s t) : s.statementPlaceholder? = t.statementPlaceholder? := by
  funext tree
  unfold statementPlaceholder? expressionPlaceholder?
  rw [wholeToken?_eq_of_agree h]

theorem placeholder?_eq_of_agree (h : Agree s t) : s.placeholder? = t.placeholder? := by
  funext tree
  unfold placeholder? expressionPlaceholder?
  rw [statementPlaceholder?_eq_of_agree h, wholeToken?_eq_of_agree h]

/-! ## Arguments of declared names -/

/-- What depends on the texts of an argument only is the same for a declared name. -/
theorem argument_bind_eq_of_agree {α : Type} (h : Agree s t) {name : String} (hn : name ∈ s.registry.names)
    {f : Argument → Except Error α} (hf : ∀ a b : Argument, a.SameTexts b → f a = f b) :
    s.argument name >>= f = t.argument name >>= f := by
  have hrel := h.arguments name hn
  unfold argument
  generalize s.arguments.find? name = found, t.arguments.find? name = found' at hrel
  cases hrel with
  | some hab => exact hf _ _ hab
  | none => rfl

theorem expand_eq_of_agree (h : Agree s t) {tree : Node} {name : String} (hp : s.placeholder? tree = some name) :
    s.expand tree name = t.expand tree name := by
  have hn := mem_names_of_placeholder? hp
  unfold expand expandStatement expandExpression
  rw [statementPlaceholder?_eq_of_agree h,
    argument_bind_eq_of_agree h hn fun _ _ hab => hab.toStatement_eq,
    argument_bind_eq_of_agree h hn fun _ _ hab => hab.toExpression_eq]

/-! ## Texts -/

theorem textOf_eq_of_agree (h : Agree s t) {flavor : Flavor} (hf : flavor ∈ [Flavor.identifier, .literal])
    {name : String} (hn : s.registry.contains name = true) : s.textOf flavor name = t.textOf flavor name := by
  have hflavor : flavor ∈ [Flavor.statement, .expression, .identifier, .literal] := by
    simp only [List.mem_cons, List.not_mem_nil, or_false] at hf ⊢
    tauto
  exact argument_bind_eq_of_agree h (Registry.contains_iff.1 hn) fun _ _ hab => hab.toText_eq flavor hflavor

theorem substituteSegments_eq_of_agree (h : Agree s t) {flavor : Flavor} (hf : flavor ∈ [Flavor.identifier, .literal])
    (segments : List Token.Segment) : s.substituteSegments flavor segments = t.substituteSegments flavor segments := by
  induction segments with
  | nil => rfl
  | cons segment rest ih =>
    cases segment with
    | char c => simp only [substituteSegments, ih]
    | token name =>
      simp only [substituteSegments, ih, h.policy, ← contains_eq_of_agree h]
      -- the text of a name is asked for only if the name is declared
      split
      · rename_i hn
        rw [textOf_eq_of_agree h hf hn]
      · rfl

theorem substitute_eq_of_agree (h : Agree s t) (flavor : Flavor) (hf : flavor ∈ [Flavor.identifier, .literal]) :
    s.substitute flavor = t.substitute flavor := by
  funext text
  simp only [substitute, substituteSegments_eq_of_agree h hf]

theorem rename_eq_of_agree (h : Agree s t) : s.rename = t.rename := by
  funext what name
  simp only [rename, substitute_eq_of_agree h .identifier (by simp)]

theorem replaceInLiteral_eq_of_agree (h : Agree s t) : s.replaceInLiteral = t.replaceInLiteral := by
  funext value raw
  simp only [replaceInLiteral, substitute_eq_of_agree h .literal (by simp)]

/-! ## The walk -/

/-- One visit does the same under both scopes. -/
theorem step_eq_of_agree (h : Agree s t) : s.step = t.step := by
  funext visit stack tree
  unfold step renameIdentifier renameProperty
  rw [placeholder?_eq_of_agree h, rename_eq_of_agree h, replaceInLiteral_eq_of_agree h, wholeToken?_eq_of_agree h]
  split
  · rename_i hp
    rw [expand_eq_of_agree h (by rwa [placeholder?_eq_of_agree h])]
  · rfl

/-- The walks under both scopes solve the same recursion, which has one solution. -/
theorem walk_eq_of_agree (h : Agree s t) : s.walk = t.walk := by
  have hwalk : ∀ stack tree, s.walk stack tree = t.step s.walk stack tree := by
    intro stack tree
    rw [walk_eq_step, step_eq_of_agree h]
  exact fixpoint_unique hwalk walk_eq_step

/-- Rendering one script gives the same code or the same error, and the same records, whenever the declared names,
the texts supplied for them, the policy and the format are the same. -/
theorem renderWith_eq_of_agree (first second : Template) (hscript : first.script = second.script)
    (hminify : first.options.minify = second.options.minify) (args args' : Arguments)
    (h : Agree (first.scope args) (second.scope args')) : first.renderWith args = second.renderWith args' := by
  unfold Template.renderWith render
  rw [walk_eq_of_agree h, hscript, hminify]

/-- A product whose factors hold placeholders. -/
def product : Node :=
  .ofStatements [.statement (.node (.binary .mul)
    [.ref "$A$", .node (.call .plain) [.ref "get$B$", .text "$B$" (some "'$B$'")]])]

/-- Plain texts for both names. -/
def plainArguments : Arguments := [("A", .ofText "b + 1"), ("B", .ofText "Width")]

/-- The same texts by flavor, in another order, and a text for a name that is not declared. -/
def flavoredArguments : Arguments :=
  [("Z", .ofText "("), ("B", .ofFlavors [(.literal, "Width"), (.default, "Width")]),
    ("A", .ofFlavors [(.expression, "b + 1"), (.default, "b + 1")])]

theorem renderWith_flavoredArguments :
    let first : Template := ⟨product, ⟨[("A", "a factor"), ("B", "a name")]⟩, {}⟩
    let second : Template := ⟨product, ⟨[("B", ""), ("A", "")]⟩, { directive := "@slot", duplicates := .error }⟩
    Agree (first.scope plainArguments) (second.scope flavoredArguments) ∧
      (second.renderWith flavoredArguments).result = .ok "(b + 1) * getWidth('Width');" := by
  intro first second
  have hagree : Agree (first.scope plainArguments) (second.scope flavoredArguments) := by
    refine ⟨rfl, fun name => ?_, fun name hn => ?_⟩
    · simp [first, second, Template.scope, Registry.names, or_comm]
    · have hn' : name = "A" ∨ name = "B" := by simpa [first, Template.scope, Registry.names] using hn
      rcases hn' with rfl | rfl
      · exact .some (by decide)
      · exact .some (by decide)
  refine ⟨hagree, ?_⟩
  rw [← renderWith_eq_of_agree first second rfl rfl _ _ hagree, Template.renderWith, render, walk_eq_iterate 20]
  decide +kernel

end Scope

end Stencil
