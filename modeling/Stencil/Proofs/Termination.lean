import Mathlib.Data.Finset.Card
import Stencil.Proofs.Walk
/-!
# The walk ends

An argument is read anew wherever its placeholder stands, so the tree grows while it is walked. The walk ends all
the same: each expansion takes a declared name that is not on the stack, and between two expansions the tree gets
lighter. `stackOk_descends` is the step, `stackOk_reaches` the run, and `walk_terminates` the statement: visits
do not nest forever, what they do is settled by the visits inside them, and expansions nest no deeper than there
are declared names.
-/

namespace Stencil.Scope

open Script

variable {scope : Scope}

/-! ## One solution -/

/-- Two recursions that do at each visit what `step` says agree. -/
theorem fixpoint_unique {f g : List String → Node → Logged Node}
    (hf : ∀ stack tree, f stack tree = scope.step f stack tree)
    (hg : ∀ stack tree, g stack tree = scope.step g stack tree) : f = g := by
  suffices ∀ v : Visit, f v.stack v.tree = g v.stack v.tree from
    funext fun stack => funext fun tree => this ⟨stack, tree⟩
  intro v
  induction v using (descends_wf scope).induction with
  | _ v ih =>
  rw [hf, hg]
  exact step_congr ih

/-! ## How deep expansions nest -/

/-- The stack of a visit holds declared names, each once. -/
structure StackOk (scope : Scope) (stack : List String) : Prop where
  nodup : stack.Nodup
  declared : ∀ name ∈ stack, name ∈ scope.registry.names

theorem stackOk_nil : scope.StackOk [] := ⟨by simp, by simp⟩

theorem stackOk_cons {stack : List String} {tree : Node} {place : Place} {name : String} (h : scope.StackOk stack)
    (hp : scope.IsPlaceholder tree place name) (hs : name ∉ stack) : scope.StackOk (name :: stack) := by
  refine ⟨List.nodup_cons.2 ⟨hs, h.nodup⟩, ?_⟩
  intro n hn
  rcases List.mem_cons.1 hn with rfl | hn
  · exact mem_names_of_placeholder? (placeholder?_eq_some_iff.2 ⟨place, hp⟩)
  · exact h.declared n hn

/-- Going inside keeps the stack in order. -/
theorem stackOk_descends {v w : Visit} (hv : scope.StackOk v.stack) (h : scope.Descends v w) :
    scope.StackOk w.stack := by
  cases h with
  | replacement hp hs => exact stackOk_cons hv hp hs
  | shorthand => exact hv
  | part => exact hv

theorem stackOk_reaches {script : Node} {v : Visit} (h : scope.Reaches script v) : scope.StackOk v.stack := by
  induction h with
  | refl => exact stackOk_nil
  | tail _ hd ih => exact stackOk_descends ih hd

theorem stackOk_length {stack : List String} (h : scope.StackOk stack) :
    stack.length ≤ scope.registry.names.toFinset.card := by
  rw [← List.toFinset_card_of_nodup h.nodup]
  apply Finset.card_le_card
  intro name hn
  exact List.mem_toFinset.2 (h.declared name (List.mem_toFinset.1 hn))

/-! ## Main theorem -/

/-- The walk of any script under any scope ends. Visits do not nest forever, and what a visit does is settled by
the visits that it descends to, so the recursion has exactly one solution, which is `walk`. Wherever the walk
gets, the names on the stack are distinct and declared; even the expansion of a single identifier, which is not
put on the stack, is no deeper than there are declared names. -/
theorem walk_terminates (scope : Scope) :
    (WellFounded fun inner outer => scope.Descends outer inner) ∧
    (∀ f g v, (∀ w, scope.Descends v w → f w.stack w.tree = g w.stack w.tree) →
      scope.step f v.stack v.tree = scope.step g v.stack v.tree) ∧
    (∀ f, (∀ stack tree, f stack tree = scope.step f stack tree) ↔ f = scope.walk) ∧
    ∀ script v, scope.Reaches script v →
      v.stack.Nodup ∧ v.stack.length ≤ scope.registry.names.toFinset.card ∧
        ∀ place name, scope.IsPlaceholder v.tree place name → name ∉ v.stack →
          v.stack.length < scope.registry.names.toFinset.card := by
  refine ⟨descends_wf scope, fun f g v h => step_congr h, fun f => ?_, fun script v hv => ?_⟩
  · constructor
    · intro hf
      exact fixpoint_unique hf walk_eq_step
    · rintro rfl
      exact walk_eq_step
  · have hok := stackOk_reaches hv
    refine ⟨hok.nodup, stackOk_length hok, fun place name hp hs => ?_⟩
    have := stackOk_length (stackOk_cons hok hp hs)
    exact this

end Stencil.Scope
