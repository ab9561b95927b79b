import Stencil.Proofs.Everywhere
import Stencil.Proofs.Substitution
/-!
# Trees without placeholders

A tree in which no token names a declared placeholder is walked without a look at the arguments. It stays as it
is, but for the callees of `new` that hold a call: they get parentheses whether or not something was put in. With
them it stays as it is (`guarded_guarded`, `everywhere_untouched_guarded`). `guardsCallees_guarded` says which callees
these are without the functions of the walk.
-/

namespace Stencil

open Script

namespace Script.Node

mutual

/-- The tree with parentheses around the callees of `new` in which a call stands. -/
def guarded : Node → Node
  | .node kind parts => Scope.reassemble kind (guardedAll parts)
  | tree => tree

/-- The trees with such parentheses. -/
def guardedAll : List Node → List Node
  | [] => []
  | tree :: rest => tree.guarded :: guardedAll rest

end

theorem guarded_of_ne_new {kind : Kind} (h : ∀ hasArguments, kind ≠ .new hasArguments) (parts : List Node) :
    (Node.node kind parts).guarded = .node kind (guardedAll parts) := by
  rw [guarded, Scope.reassemble]
  intro hasArguments _ _ hkind
  exact absurd hkind (h hasArguments)

/-- Parentheses inside a chain do not change whether a call stands in it. -/
theorem callsInChain_guarded : (tree : Node) → callsInChain tree.guarded = callsInChain tree
  | .ref _ | .binding _ | .name _ | .text _ _ | .shorthand _ | .atom _ => rfl
  | .node kind [] => by cases kind <;> rfl
  | .node kind (first :: rest) => by
    have ih := callsInChain_guarded first
    cases kind with
    | new hasArguments => rfl
    | _ =>
      rw [guarded_of_ne_new (by simp)]
      exact Scope.callsInChain_congr _ _ ih

theorem guarded_new (hasArguments : Bool) (callee : Node) (args : List Node) :
    (Node.node (.new hasArguments) (callee :: args)).guarded = .node (.new hasArguments)
      ((if callsInChain callee then .parenthesized callee.guarded else callee.guarded) :: guardedAll args) := by
  rw [guarded, guardedAll, Scope.reassemble, guardCallee, callsInChain_guarded]

mutual

/-- Callees that have their parentheses get no more. -/
theorem guarded_guarded : (tree : Node) → tree.guarded.guarded = tree.guarded
  | .ref _ | .binding _ | .name _ | .text _ _ | .shorthand _ | .atom _ => rfl
  | .node kind parts => by
    have hparts := guardedAll_guardedAll parts
    cases kind with
    | new hasArguments =>
      cases parts with
      | nil => rfl
      | cons callee args =>
        simp only [guardedAll, List.cons.injEq] at hparts
        obtain ⟨hcallee, hargs⟩ := hparts
        rw [guarded_new]
        split <;> rename_i hcall
        · rw [guarded_new, hargs, parenthesized, guarded_of_ne_new (by simp)]
          simp [guardedAll, hcallee, callsInChain]
        · rw [guarded_new, callsInChain_guarded, hargs, hcallee]
          simp [hcall]
    | _ => rw [guarded_of_ne_new (by simp), guarded_of_ne_new (by simp), hparts]

theorem guardedAll_guardedAll : (trees : List Node) → guardedAll (guardedAll trees) = guardedAll trees
  | [] => rfl
  | tree :: rest => by rw [guardedAll, guardedAll, guarded_guarded tree, guardedAll_guardedAll rest]

end

/-! ## Which callees get parentheses -/

/-- A call, a `new` or a link of an optional chain stands among the objects and tags that an expression begins with. -/
inductive CallInChain : Node → Prop
  | call {link first rest} : CallInChain (.node (.call link) (first :: rest))
  | new {hasArguments first rest} : CallInChain (.node (.new hasArguments) (first :: rest))
  | optionalDot {link first rest} (h : link ≠ .plain) : CallInChain (.node (.dot link) (first :: rest))
  | optionalIndex {link first rest} (h : link ≠ .plain) : CallInChain (.node (.index link) (first :: rest))
  | dot {object rest} (h : CallInChain object) : CallInChain (.node (.dot .plain) (object :: rest))
  | index {object rest} (h : CallInChain object) : CallInChain (.node (.index .plain) (object :: rest))
  | tagged {texts tag rest} (h : CallInChain tag) : CallInChain (.node (.tagged texts) (tag :: rest))

theorem callInChain_of_callsInChain : (tree : Node) → callsInChain tree = true → tree.CallInChain
  | .ref _, h | .binding _, h | .name _, h | .text _ _, h | .shorthand _, h | .atom _, h | .node _ [], h => by
    simp [callsInChain] at h
  | .node kind (first :: rest), h => by
    have ih := callInChain_of_callsInChain first
    cases kind with
    | call link => exact .call
    | new hasArguments => exact .new
    | dot link =>
      cases link with
      | plain => exact .dot (ih h)
      | _ => exact .optionalDot (by simp)
    | index link =>
      cases link with
      | plain => exact .index (ih h)
      | _ => exact .optionalIndex (by simp)
    | tagged texts => exact .tagged (ih h)
    | _ => simp [callsInChain] at h

theorem callsInChain_iff {tree : Node} : callsInChain tree = true ↔ tree.CallInChain := by
  refine ⟨callInChain_of_callsInChain tree, fun h => ?_⟩
  induction h with
  | call | new => rfl
  | @optionalDot link _ _ h | @optionalIndex link _ _ h => cases link <;> first | rfl | exact absurd rfl h
  | dot _ ih | index _ ih | tagged _ ih => exact ih

/-- The second tree is the first one with parentheses around the callees of `new` that have a call in their chain, and
with no other change. -/
inductive GuardsCallees : Node → Node → Prop
  | leaf {tree} (h : tree.kind? = none) : GuardsCallees tree tree
  | form {kind parts outs} (hkind : ∀ hasArguments, kind = .new hasArguments → parts = [])
      (h : List.Forall₂ GuardsCallees parts outs) : GuardsCallees (.node kind parts) (.node kind outs)
  | calling {hasArguments callee out args outs} (hcall : CallInChain callee) (h : GuardsCallees callee out)
      (hargs : List.Forall₂ GuardsCallees args outs) :
      GuardsCallees (.node (.new hasArguments) (callee :: args)) (.node (.new hasArguments) (.parenthesized out :: outs))
  | plain {hasArguments callee out args outs} (hcall : ¬ CallInChain callee) (h : GuardsCallees callee out)
      (hargs : List.Forall₂ GuardsCallees args outs) :
      GuardsCallees (.node (.new hasArguments) (callee :: args)) (.node (.new hasArguments) (out :: outs))

mutual

theorem guardsCallees_guarded : (tree : Node) → tree.GuardsCallees tree.guarded
  | .ref _ | .binding _ | .name _ | .text _ _ | .shorthand _ | .atom _ => .leaf rfl
  | .node kind parts => by
    have hparts := guardsCallees_guardedAll parts
    cases kind with
    | new hasArguments =>
      cases parts with
      | nil => exact .form (by simp) .nil
      | cons callee args =>
        obtain _ | ⟨hcallee, hargs⟩ := hparts
        rw [guarded_new]
        split <;> rename_i hcall
        · exact .calling (callsInChain_iff.1 hcall) hcallee hargs
        · exact .plain (fun h => hcall (callsInChain_iff.2 h)) hcallee hargs
    | _ =>
      rw [guarded_of_ne_new (by simp)]
      exact .form (by simp) hparts

theorem guardsCallees_guardedAll : (trees : List Node) → List.Forall₂ GuardsCallees trees (guardedAll trees)
  | [] => .nil
  | tree :: rest => .cons (guardsCallees_guarded tree) (guardsCallees_guardedAll rest)

end

end Script.Node

namespace Scope

open Node

variable {scope : Scope}

/-- A visit of the tree asks for no argument. -/
structure Untouched (scope : Scope) (tree : Node) : Prop where
  placeholder : scope.placeholder? tree = none
  shorthand : ∀ id, tree = .shorthand id → scope.registry.wholeToken? id = none
  identifier : ∀ id, tree.identifier? = some id → scope.substitute .identifier id = .ok none
  literal : ∀ value raw, tree = .text value raw → scope.substitute .literal value = .ok none

theorem rename_unchanged {what id : String} (h : scope.substitute .identifier id = .ok none) :
    scope.rename what id = pure id := by
  simp [rename, h, Logged.lift, bind, Logged.andThen, pure, Logged.ok]

theorem replaceInLiteral_unchanged {value : String} {raw : Option String}
    (h : scope.substitute .literal value = .ok none) : scope.replaceInLiteral value raw = pure (value, raw) := by
  simp [replaceInLiteral, h, Logged.lift, bind, Logged.andThen, pure, Logged.ok]

mutual

/-- The walk leaves a tree that nowhere asks for an argument as it is, with the parentheses for callees. -/
theorem walk_untouched {stack : List String} :
    (tree : Node) → tree.Everywhere scope.Untouched → scope.walk stack tree = pure tree.guarded
  | .ref id, h => by
    simp [walk_eq_step, step, h.placeholder, renameIdentifier, rename_unchanged (h.identifier id rfl), guarded]
  | .binding id, h => by
    simp [walk_eq_step, step, h.placeholder, renameIdentifier, rename_unchanged (h.identifier id rfl), guarded]
  | .name id, h => by
    simp [walk_eq_step, step, h.placeholder, renameProperty, rename_unchanged (h.identifier id rfl), guarded]
  | .text value raw, h => by
    simp [walk_eq_step, step, h.placeholder, replaceInLiteral_unchanged (h.literal value raw rfl), guarded]
  | .shorthand id, h => by
    simp [walk_eq_step, step, h.placeholder, h.shorthand id rfl, renameIdentifier,
      rename_unchanged (h.identifier id rfl), guarded]
  | .atom a, h => by
    simp [walk_eq_step, step, h.placeholder, guarded]
  | .node kind parts, h => by
    simp [walk_eq_step, step, h.1.placeholder, walk_untouched_all parts h.2, guarded]

theorem walk_untouched_all {stack : List String} : (trees : List Node) → EverywhereIn scope.Untouched trees →
    trees.mapM (scope.walk stack) = pure (guardedAll trees)
  | [], _ => rfl
  | tree :: rest, h => by
    rw [List.mapM_cons, walk_untouched tree h.1, walk_untouched_all rest h.2]
    simp [guardedAll]

end

/-- A form is a placeholder only through the expression that it consists of. -/
theorem untouched_node {kind : Kind} {parts : List Node} (h : ∀ part ∈ parts, scope.Untouched part) :
    scope.Untouched (.node kind parts) := by
  refine ⟨Option.eq_none_iff_forall_ne_some.2 fun name hname => ?_, nofun, nofun, nofun⟩
  obtain ⟨place, hp⟩ := placeholder?_eq_some_iff.1 hname
  cases hp with
  | @statement id _ hw =>
    have hpart := (h (.ref id) (by simp)).placeholder
    rw [placeholder?_eq_some_iff.2 ⟨.expression, .expression hw⟩] at hpart
    cases hpart

mutual

/-- Parentheses around callees ask for no argument. -/
theorem everywhere_untouched_guarded :
    (tree : Node) → tree.Everywhere scope.Untouched → tree.guarded.Everywhere scope.Untouched
  | .ref _, h | .binding _, h | .name _, h | .text _ _, h | .shorthand _, h | .atom _, h => h
  | .node _ parts, h =>
    everywhere_reassemble_of_parts (fun _ _ => untouched_node)
      (everywhereIn_iff.1 (everywhereIn_untouched_guardedAll parts h.2))

theorem everywhereIn_untouched_guardedAll :
    (trees : List Node) → EverywhereIn scope.Untouched trees → EverywhereIn scope.Untouched (guardedAll trees)
  | [], _ => trivial
  | tree :: rest, h => ⟨everywhere_untouched_guarded tree h.1, everywhereIn_untouched_guardedAll rest h.2⟩

end

/-! ## Nothing declared -/

/-- Where no placeholder is declared, no visit asks for an argument. -/
theorem untouched_of_nothing_declared (h : scope.registry.names = []) (tree : Node) : scope.Untouched tree := by
  have hcontains : ∀ name, scope.registry.contains name = false := by simp [Registry.contains, h]
  have hwhole : ∀ id, scope.registry.wholeToken? id = none := by
    intro id
    simp [Registry.wholeToken?, hcontains]
  refine ⟨?_, fun id _ => hwhole id, fun id _ => ?_, fun value raw _ => ?_⟩
  · refine Option.eq_none_iff_forall_ne_some.2 fun name hname => ?_
    have := mem_names_of_placeholder? hname
    rw [h] at this
    cases this
  · exact substitute_undeclared fun name _ => hcontains name
  · exact substitute_undeclared fun name _ => hcontains name

theorem render_of_nothing_declared (h : scope.registry.names = []) (script : Node) :
    scope.render script = pure script.guarded :=
  walk_untouched script (everywhere_of_forall (untouched_of_nothing_declared h) script)

end Scope

end Stencil
