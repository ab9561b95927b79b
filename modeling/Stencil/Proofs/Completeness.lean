import Stencil.Proofs.Everywhere
import Stencil.Proofs.Substitution
import Stencil.Proofs.Visits
/-!
# Nothing is left to put in

What is put in the place of a placeholder is walked again but for its root, and a single identifier is not walked
at all. Still no placeholder is left in what rendering gives, unless an argument is itself a single placeholder or
an identifier is given the name of one. `walk_settled` is the invariant of the walk: it holds wherever the visits
inside a tree give such names to no identifier; `render_settled` is the statement about scripts.
-/

namespace Stencil

open Script

namespace Scope

open Node

variable {scope : Scope}

/-- A node is no placeholder, neither as a statement nor as an expression nor as a shorthand property. -/
structure Settled (scope : Scope) (tree : Node) : Prop where
  statement : scope.statementPlaceholder? tree = none
  expression : scope.expressionPlaceholder? tree = none
  shorthand : ∀ id, tree = .shorthand id → scope.registry.wholeToken? id = none

/-- If a visit of the tree replaces tokens in an identifier, that does not make it a placeholder. -/
def NamesPlainly (scope : Scope) (tree : Node) : Prop :=
  scope.placeholder? tree = none → ∀ id, tree.identifier? = some id →
    ∀ new, scope.substitute .identifier id = .ok (some new) → scope.registry.wholeToken? new = none

/-- A script is not a single placeholder. -/
def NoSinglePlaceholder (scope : Scope) (script : Node) : Prop :=
  ∀ tree, script.parts = [tree] → scope.placeholder? tree = none

instance (scope : Scope) : DecidablePred scope.NamesPlainly := fun tree =>
  decidable_of_iff (scope.placeholder? tree = none → ∀ id ∈ tree.identifier?,
    ∀ new ∈ (scope.substitute .identifier id).toOption.join, scope.registry.wholeToken? new = none) (by
      refine imp_congr_right fun _ => forall_congr' fun id => imp_congr_right fun _ => forall_congr' fun new => ?_
      cases scope.substitute .identifier id <;> simp [Except.toOption])

instance (scope : Scope) : DecidablePred scope.NoSinglePlaceholder := fun script =>
  decidable_of_iff (∀ tree ∈ script.parts, script.parts.length = 1 → scope.placeholder? tree = none) (by
    refine forall_congr' fun tree => ⟨fun h heq => h (by simp [heq]) (by simp [heq]), fun h hm hlength => ?_⟩
    obtain ⟨only, heq⟩ := List.length_eq_one_iff.1 hlength
    rw [heq, List.mem_singleton] at hm
    exact h (hm ▸ heq))

/-! ## Nodes that are no placeholders -/

theorem settled_ref {id : String} : scope.Settled (.ref id) ↔ scope.registry.wholeToken? id = none :=
  ⟨fun h => h.expression, fun h => ⟨rfl, h, nofun⟩⟩

theorem settled_shorthand {id : String} (h : scope.registry.wholeToken? id = none) : scope.Settled (.shorthand id) :=
  ⟨rfl, rfl, fun _ hid => by cases hid; exact h⟩

/-- A form is a placeholder only through the expression that it consists of. -/
theorem settled_node {kind : Kind} {parts : List Node} (h : ∀ part ∈ parts, scope.Settled part) :
    scope.Settled (.node kind parts) := by
  refine ⟨?_, rfl, nofun⟩
  unfold statementPlaceholder?
  split
  · rename_i value heq
    cases heq
    exact (h value (by simp)).expression
  · rfl

theorem everywhere_settled_node {kind : Kind} {parts : List Node} (h : ∀ part ∈ parts, part.Everywhere scope.Settled) :
    Everywhere scope.Settled (.node kind parts) :=
  everywhere_node.2 ⟨settled_node fun part hm => (h part hm).here, h⟩

theorem settled_of_isBareIdentifier {tree : Node} (hb : tree.isBareIdentifier = true)
    (hp : scope.placeholder? tree = none) : tree.Everywhere scope.Settled := by
  simp only [placeholder?, Option.or_eq_none_iff] at hp
  unfold isBareIdentifier at hb
  split at hb
  · exact settled_ref.2 hp.2
  · exact everywhere_settled_node (List.forall_mem_singleton.2 (settled_ref.2 hp.1))
  · cases hb

/-! ## What is put in -/

theorem wholeToken?_of_asExpression {body : List Node} {id : String} (h : Argument.asExpression body = .ref id)
    (hnone : ∀ tree, body = [tree] → scope.placeholder? tree = none) : scope.registry.wholeToken? id = none := by
  unfold Argument.asExpression at h
  split at h
  · cases h
    have := hnone _ rfl
    simp only [placeholder?, Option.or_eq_none_iff] at this
    exact this.1
  · cases h
  · cases h

/-- Only an identifier is still a single identifier after it got the parentheses that it needs. -/
theorem eq_ref_of_guardPrecedence_bare {e : Node} (h : (guardPrecedence e).isBareIdentifier = true) :
    ∃ id, e = .ref id := by
  unfold guardPrecedence at h
  split at h
  · rename_i hself
    unfold isBareIdentifier at h
    split at h
    · exact ⟨_, rfl⟩
    · cases hself
    · cases h
  · cases h

/-- A single identifier that is put in, which is not walked again, is no placeholder. -/
theorem placeholder?_spliced_bare (hargs : scope.ArgumentScripts scope.NoSinglePlaceholder) {place : Place}
    {name : String} {r : Node} (hr : scope.spliced place name = .ok r) (hb : r.isBareIdentifier = true) :
    scope.placeholder? r = none := by
  obtain ⟨script, hscript, ⟨-, rfl⟩ | ⟨-, rfl⟩⟩ := spliced_script hargs hr
  · unfold Argument.asStatement
    split
    · rename_i only heq
      exact hscript only heq
    · rfl
  · obtain ⟨id, he⟩ := eq_ref_of_guardPrecedence_bare hb
    rw [he]
    exact wholeToken?_of_asExpression he hscript

/-! ## The walk -/

/-- A name that stays is no token of a declared placeholder, and a new one is none by assumption. -/
theorem wholeToken?_renamed {what id new : String} (h : (scope.rename what id).result = .ok new)
    (hid : scope.registry.wholeToken? id = none)
    (hnew : ∀ new, scope.substitute .identifier id = .ok (some new) → scope.registry.wholeToken? new = none) :
    scope.registry.wholeToken? new = none := by
  rcases rename_ok_cases h with ⟨-, rfl⟩ | h
  · exact hid
  · exact hnew new h

/-- What a walk gives holds no placeholder, if no visit inside it makes one of an identifier. -/
theorem walk_settled (hargs : scope.ArgumentScripts scope.NoSinglePlaceholder) {stack : List String} {tree out : Node}
    (h : (scope.walk stack tree).result = .ok out)
    (hnames : ∀ w, Relation.ReflTransGen scope.Descends ⟨stack, tree⟩ w → scope.NamesPlainly w.tree) :
    out.Everywhere scope.Settled := by
  revert hnames
  refine walk_ok_induction (P := fun stack tree out =>
    (∀ w, Relation.ReflTransGen scope.Descends ⟨stack, tree⟩ w → scope.NamesPlainly w.tree) →
      out.Everywhere scope.Settled)
    ?leaf ?splice ?ref ?binding ?name ?text ?split ?shorthand ?atom ?node h
  all_goals clear h
  case leaf =>
    intro stack tree place name r _ _ hr hb _
    exact settled_of_isBareIdentifier hb (placeholder?_spliced_bare hargs hr hb)
  case splice =>
    intro stack tree place name r out hp hs hr hb _ ih hnames
    exact ih ((forall_visits_iff.1 hnames).2 _ (.replacement hp hs hr hb))
  case split =>
    intro stack id out hw _ ih hnames
    exact ih ((forall_visits_iff.1 hnames).2 _ (.shorthand hw))
  case node =>
    intro stack kind parts outs hp hall hnames
    refine everywhere_reassemble_of_parts (fun _ _ => settled_node) fun out hm => ?_
    obtain ⟨part, hpart, -, ih⟩ := forall₂_mem_right hall hm
    exact ih ((forall_visits_iff.1 hnames).2 _ (.part hp hpart))
  case ref =>
    intro stack id new hp hnew hnames
    have hid : scope.registry.wholeToken? id = none := by
      simp only [placeholder?, Option.or_eq_none_iff] at hp
      exact hp.2
    exact settled_ref.2 (wholeToken?_renamed hnew hid (hnames _ .refl hp id rfl))
  case shorthand =>
    intro stack id new hid hnew hnames
    exact settled_shorthand (wholeToken?_renamed hnew hid (hnames _ .refl rfl id rfl))
  -- the other leaves are neither statements nor expressions
  all_goals
    intros
    refine ⟨rfl, rfl, ?_⟩
    intro _ hid
    cases hid

/-- If no argument is a single placeholder and no identifier is given the name of one, then no placeholder is left
anywhere in what rendering gives. -/
theorem render_settled (scope : Scope) (script out : Node) (h : (scope.render script).result = .ok out)
    (hargs : scope.ArgumentScripts scope.NoSinglePlaceholder)
    (hnames : ∀ v, scope.Reaches script v → scope.NamesPlainly v.tree) : out.Everywhere scope.Settled :=
  walk_settled hargs h hnames

/-- An instance of a placeholder, with an object that holds another one in three roles. -/
def instanceOfPlaceholder : Node :=
  .ofStatements [.statement (.node (.new true) [.ref "$A$",
    .node .object [.shorthand "$B$", .node .property [.name "get$B$", .node (.template ["", ""]) [.ref "$B$"]]]])]

/-- An argument that leads to the other one. -/
def nestedArguments : Scope :=
  ⟨⟨[("A", ""), ("B", "")]⟩,
    [("A", .ofText "f($B$).Kind"), ("B", .ofFlavors [(.identifier, "width"), (.expression, "[w]")])], .all⟩

/-- The same with the arguments in their places. -/
def instanceOfArgument : Node :=
  .ofStatements [.statement (.node (.new true)
    [.parenthesized (.node (.dot .plain)
      [.node (.call .plain) [.ref "f", .node .array [.ref "w"]], .name "Kind"]),
    .node .object [.node .property [.name "width", .node .array [.ref "w"]],
      .node .property [.name "getwidth", .node (.template ["", ""]) [.node .array [.ref "w"]]]]])]

theorem render_instanceOfPlaceholder :
    nestedArguments.ArgumentScripts nestedArguments.NoSinglePlaceholder ∧
      (∀ v, nestedArguments.Reaches instanceOfPlaceholder v → nestedArguments.NamesPlainly v.tree) ∧
      (nestedArguments.render instanceOfPlaceholder).result = .ok instanceOfArgument ∧
      instanceOfArgument.Everywhere nestedArguments.Settled := by
  have hargs : nestedArguments.ArgumentScripts nestedArguments.NoSinglePlaceholder :=
    argumentScripts_of_entries (by decide +kernel)
  have hnames : ∀ v, nestedArguments.Reaches instanceOfPlaceholder v → nestedArguments.NamesPlainly v.tree := by
    intro v hv
    have hall : nestedArguments.everyVisit (fun v => decide (nestedArguments.NamesPlainly v.tree)) 20
        ⟨[], instanceOfPlaceholder⟩ = true := by decide +kernel
    simpa using forall_visits_of_everyVisit hall v hv
  have hout : (nestedArguments.render instanceOfPlaceholder).result = .ok instanceOfArgument := by
    rw [render, walk_eq_iterate 20]
    decide +kernel
  exact ⟨hargs, hnames, hout, render_settled _ _ _ hout hargs hnames⟩

end Scope

end Stencil
