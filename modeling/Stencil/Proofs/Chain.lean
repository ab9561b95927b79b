import Stencil.Proofs.Walk
/-!
# The walk and the chain of replacers

A tree is shown to the chain as a statement, as an expression, and as the leaf that it is; `taken?` is the first of
these that a replacer is for, with that replacer. `walk_of_taken` says that a visit does what that replacer does and
then goes on into what a placeholder became, and `walk_of_not_taken` that it does nothing itself where no replacer is
for the tree. A node has one replacer at most, so that their order does not matter (`first?_eq_some_iff`).
-/

namespace Stencil

open Script

/-! ## The replacer for a node -/

/-- The one replacer that may be for a node. -/
def Site.replacer : Site → Replacer
  | .statement _ => .statement
  | .expression _ => .expression
  | .identifier _ | .propertyName _ => .identifier
  | .literal _ _ => .stringLiteral

namespace Replacer

variable {scope : Scope}

theorem eq_replacer_of_accepts {r : Replacer} {site : Site} (h : r.accepts scope site = true) :
    r = site.replacer := by
  cases site <;> cases r <;> first | rfl | cases h

theorem accepts_of_first? {r : Replacer} {site : Site} (h : first? scope site = some r) :
    r.accepts scope site = true := by
  have haccepts := List.find?_some h
  exact haccepts

theorem first?_eq_some_iff {r : Replacer} {site : Site} :
    first? scope site = some r ↔ r.accepts scope site = true := by
  refine ⟨accepts_of_first?, fun h => ?_⟩
  cases hfirst : first? scope site with
  | none =>
    have hr : r ∈ chain := by cases r <;> simp [chain]
    exact absurd h (List.find?_eq_none.1 hfirst r hr)
  | some r' => rw [eq_replacer_of_accepts h, eq_replacer_of_accepts (accepts_of_first? hfirst)]

/-- A replacer leaves alone what it is not for. -/
theorem replace_of_not_accepts {r : Replacer} {site : Site} (h : r.accepts scope site = false) :
    r.replace scope site = pure site := by
  cases r <;> cases site <;> simp_all [accepts, replace]

end Replacer

namespace Scope

variable {scope : Scope}

/-! ## What a tree shows -/

/-- A tree as the chain sees it: as a statement, as an expression, and as the leaf that it is. -/
def sites (tree : Node) : List Site :=
  .statement tree :: .expression tree ::
    match tree with
    | .ref id | .binding id | .shorthand id => [.identifier id]
    | .name id => [.propertyName id]
    | .text value raw => [.literal value raw]
    | .atom _ | .node _ _ => []

/-- A tree with a new node in the place of what it showed. -/
def putBack (tree : Node) : Site → Node
  | .statement new | .expression new => new
  | .identifier id =>
    match tree with
    | .binding _ => .binding id
    | .shorthand _ => .shorthand id
    | _ => .ref id
  | .propertyName id => .name id
  | .literal value raw => .text value raw

/-- The first site of a tree that a replacer is for, with that replacer. -/
def taken? (scope : Scope) (tree : Node) : Option (Replacer × Site) :=
  (sites tree).findSome? fun site => (Replacer.first? scope site).map (·, site)

/-- A whole placeholder is taken as the statement or the expression that it is. -/
theorem taken?_of_isPlaceholder {tree : Node} {place : Place} {name : String}
    (h : scope.IsPlaceholder tree place name) : scope.taken? tree = some (match place with
      | .statement => (.statement, .statement tree)
      | .expression => (.expression, .expression tree)) := by
  cases h with
  | statement h =>
    simp [taken?, sites, Replacer.first?, Replacer.chain, Replacer.accepts, statementPlaceholder?,
      expressionPlaceholder?, Node.statement, h]
  | expression h =>
    simp [taken?, sites, Replacer.first?, Replacer.chain, Replacer.accepts, statementPlaceholder?,
      expressionPlaceholder?, h]

/-- A tree that is no placeholder is taken as the leaf that it is. -/
theorem taken?_of_none {tree : Node} (h : scope.placeholder? tree = none) :
    scope.taken? tree = (match tree with
      | .ref id | .binding id | .shorthand id => some (.identifier, .identifier id)
      | .name id => some (.identifier, .propertyName id)
      | .text value raw => some (.stringLiteral, .literal value raw)
      | .atom _ | .node _ _ => none) := by
  obtain ⟨hstatement, hexpression⟩ := Option.or_eq_none_iff.1 h
  cases tree <;>
    simp [taken?, sites, Replacer.first?, Replacer.chain, Replacer.accepts, hstatement, hexpression]

/-! ## The walk -/

/-- What is put in the place of a placeholder is what its replacer makes of it. -/
theorem expand_eq_replace {tree : Node} {name : String} {replacer : Replacer} {site : Site}
    (hp : scope.placeholder? tree = some name) (h : scope.taken? tree = some (replacer, site)) :
    scope.expand tree name = putBack tree <$> replacer.replace scope site := by
  obtain ⟨place, hp⟩ := placeholder?_eq_some_iff.1 hp
  rw [taken?_of_isPlaceholder hp] at h
  cases hp with
  | statement hw =>
    cases h
    simp [expand, Replacer.replace, statementPlaceholder?, expressionPlaceholder?, Node.statement, hw, putBack]
  | expression hw =>
    cases h
    simp [expand, Replacer.replace, statementPlaceholder?, expressionPlaceholder?, hw, putBack]

/-- A visit does what the replacer for its tree does, and goes on into what a placeholder became. -/
theorem walk_of_taken {stack : List String} {tree : Node} {replacer : Replacer} {site : Site}
    (h : scope.taken? tree = some (replacer, site))
    (hstack : ∀ name, scope.placeholder? tree = some name → name ∉ stack)
    (hsplit : ∀ id, tree = .shorthand id → scope.registry.wholeToken? id = none) :
    scope.walk stack tree = do
      let new ← putBack tree <$> replacer.replace scope site
      match scope.placeholder? tree with
      | some name => if new.isBareIdentifier then return new else scope.walk (name :: stack) new
      | none => return new := by
  cases hp : scope.placeholder? tree with
  | some name =>
    rw [walk_eq_step, step.eq_def, hp, ← expand_eq_replace hp h]
    exact if_neg (hstack name hp)
  | none =>
    rw [taken?_of_none hp] at h
    cases tree with
    | ref id => cases h; simp [walk_ref hp, Replacer.replace, putBack]
    | binding id => cases h; simp [walk_binding, Replacer.replace, putBack]
    | name id => cases h; simp [walk_name, Replacer.replace, putBack]
    | text value raw => cases h; simp [walk_text, Replacer.replace, putBack]
    | shorthand id => cases h; simp [walk_shorthand (hsplit id rfl), Replacer.replace, putBack]
    | atom a => cases h
    | node kind parts => cases h

/-- Where no replacer is for a tree, a visit only goes on into its parts. -/
theorem walk_of_not_taken {tree : Node} (h : scope.taken? tree = none) (stack : List String) :
    scope.walk stack tree = match tree with
      | .node kind parts => do return reassemble kind (← parts.mapM (scope.walk stack))
      | _ => return tree := by
  cases hp : scope.placeholder? tree with
  | some name =>
    obtain ⟨place, hp⟩ := placeholder?_eq_some_iff.1 hp
    rw [taken?_of_isPlaceholder hp] at h
    cases h
  | none =>
    rw [taken?_of_none hp] at h
    cases tree with
    | atom a => exact walk_atom stack a
    | node kind parts => exact walk_node hp
    | _ => cases h

end Scope

end Stencil
