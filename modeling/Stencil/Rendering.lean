import Stencil.Replacer
/-!
# Rendering

The walk over a script that puts arguments in the place of placeholders. What was put in is walked again for the
placeholders in it, with its own name on a stack, so an argument that leads back to itself is an error. Each
expansion takes a declared name that is not on the stack, so expansions nest no deeper than there are names, and
the walk ends.
-/

namespace Stencil

open Script

namespace Script.Node

mutual

/-- A measure of the size of a tree; a shorthand property counts more than the property it is short for. -/
def weight : Node → Nat
  | .shorthand _ => 6
  | .node _ parts => 1 + weights parts
  | _ => 1

/-- The measure of several trees. -/
def weights : List Node → Nat
  | [] => 0
  | part :: rest => part.weight + 1 + weights rest

end

/-- Whether a tree is one identifier, by itself or as a statement. -/
def isBareIdentifier : Node → Bool
  | .ref _ => true
  | .node .expressionStatement [.ref _] => true
  | _ => false

end Script.Node

namespace Scope

/-- The declared names that are not being expanded. -/
def unexpanded (scope : Scope) (stack : List String) : Nat :=
  (scope.registry.names.filter fun name => !stack.contains name).length

/-- A placeholder that is a whole statement or a whole expression. -/
def placeholder? (scope : Scope) (tree : Node) : Option String :=
  (scope.statementPlaceholder? tree).or (scope.expressionPlaceholder? tree)

/-- The tree for a placeholder in its place. -/
def expand (scope : Scope) (tree : Node) (name : String) : Logged Node :=
  if (scope.statementPlaceholder? tree).isSome then scope.expandStatement name else scope.expandExpression name

/-- A form after its parts have been walked. -/
def reassemble (kind : Kind) (parts : List Node) : Node :=
  match kind, parts with
  | .new _, callee :: args => .node kind (guardCallee callee :: args)
  | _, _ => .node kind parts

/-! ## The walk ends -/

/-- A name that a token names as a whole is declared. -/
theorem mem_names_of_wholeToken? {r : Registry} {text name : String} (h : r.wholeToken? text = some name) :
    name ∈ r.names :=
  Registry.contains_iff.1 (Registry.wholeToken?_eq_some_iff.1 h).1

/-- A placeholder is declared. -/
theorem mem_names_of_placeholder? {scope : Scope} {tree : Node} {name : String}
    (h : scope.placeholder? tree = some name) : name ∈ scope.registry.names := by
  have hexpr : ∀ t, scope.expressionPlaceholder? t = some name → name ∈ scope.registry.names := by
    intro t ht
    cases t <;> simp [expressionPlaceholder?] at ht
    exact mem_names_of_wholeToken? ht
  simp only [placeholder?, Option.or_eq_some_iff] at h
  rcases h with h | ⟨_, h⟩
  · unfold statementPlaceholder? at h
    split at h
    · exact hexpr _ h
    · simp at h
  · exact hexpr _ h

/-- Taking a declared name onto the stack leaves fewer to expand. -/
theorem unexpanded_cons_lt {scope : Scope} {stack : List String} {name : String}
    (declared : name ∈ scope.registry.names) (fresh : name ∉ stack) :
    scope.unexpanded (name :: stack) < scope.unexpanded stack := by
  unfold unexpanded
  have hsub : (scope.registry.names.filter fun n => !(name :: stack).contains n) =
      ((scope.registry.names.filter fun n => !stack.contains n).filter fun n => n != name) := by
    rw [List.filter_filter]
    apply List.filter_congr
    intro n _
    by_cases hn : n = name <;> simp [hn]
  rw [hsub]
  apply List.length_filter_lt_length_iff_exists.2
  exact ⟨name, by simp [declared, fresh], by simp⟩

mutual

/-- The tree with arguments in the place of placeholders; the names on the stack are being expanded. -/
def walk (scope : Scope) (stack : List String) (tree : Node) : Logged Node :=
  match h : scope.placeholder? tree with
  | some name =>
    if hs : name ∈ stack then Logged.fail (.recursiveArgument name)
    else do
      let replacement ← scope.expand tree name
      if replacement.isBareIdentifier then return replacement
      else
        have := unexpanded_cons_lt (mem_names_of_placeholder? h) hs
        scope.walk (name :: stack) replacement
  | none =>
    match tree with
    | .ref id => return .ref (← scope.renameIdentifier id)
    | .binding id => return .binding (← scope.renameIdentifier id)
    | .name id => return .name (← scope.renameProperty id)
    | .text value raw => do
      let (changed, spelling) ← scope.replaceInLiteral value raw
      return .text changed spelling
    | .shorthand id =>
      if (scope.registry.wholeToken? id).isSome then scope.walk stack (.node .property [.name id, .ref id])
      else return .shorthand (← scope.renameIdentifier id)
    | .atom a => return .atom a
    | .node kind parts => return reassemble kind (← scope.walkAll stack parts)
termination_by (scope.unexpanded stack, tree.weight)
decreasing_by
  · exact Prod.Lex.left _ _ this
  · exact Prod.Lex.right _ (by simp [Node.weight, Node.weights])
  · exact Prod.Lex.right _ (by simp [Node.weight])

/-- Walks trees in order; the first error ends the walk. -/
def walkAll (scope : Scope) (stack : List String) (trees : List Node) : Logged (List Node) :=
  match trees with
  | [] => return []
  | tree :: rest => do
    let first ← scope.walk stack tree
    return first :: (← scope.walkAll stack rest)
termination_by (scope.unexpanded stack, Node.weights trees)
decreasing_by
  · exact Prod.Lex.right _ (by simp only [Node.weights]; omega)
  · exact Prod.Lex.right _ (by simp only [Node.weights]; omega)

end

/-- The script with arguments in the place of placeholders. -/
def render (scope : Scope) (script : Node) : Logged Node := scope.walk [] script

end Scope

end Stencil
