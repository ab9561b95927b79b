import Stencil.Proofs.Walk
/-!
# Visits, listed

The visits inside a visit as a list, so that a property of all visits of a script can be checked by going through
them (`forall_visits_of_everyVisit`).
-/

namespace Stencil.Scope

open Script

variable {scope : Scope}

/-- The visits that take place directly inside another one. -/
def inside (scope : Scope) (v : Visit) : List Visit :=
  match scope.placeholder? v.tree with
  | some name =>
    if name ∈ v.stack then []
    else match (scope.expand v.tree name).result with
      | .ok r => if r.isBareIdentifier then [] else [⟨name :: v.stack, r⟩]
      | .error _ => []
  | none =>
    match v.tree with
    | .shorthand id =>
      if (scope.registry.wholeToken? id).isSome then [⟨v.stack, .node .property [.name id, .ref id]⟩] else []
    | .node _ parts => parts.map (⟨v.stack, ·⟩)
    | _ => []

theorem mem_inside_of_descends {v w : Visit} (h : scope.Descends v w) : w ∈ scope.inside v := by
  cases h with
  | replacement hp hs hr hb =>
    have hname := placeholder?_eq_some_iff.2 ⟨_, hp⟩
    have hexpand := expand_result hp
    rw [hr] at hexpand
    simp [inside, hname, hs, hexpand, hb]
  | shorthand h =>
    have hnone : ∀ id, scope.placeholder? (.shorthand id) = none := fun _ => rfl
    simp [inside, hnone, h]
  | part hp hm =>
    simp only [inside, hp, List.mem_map]
    exact ⟨_, hm, rfl⟩

/-- Whether a test holds at a visit and at all visits inside it, which nest no deeper than a number. -/
def everyVisit (scope : Scope) (test : Visit → Bool) : Nat → Visit → Bool
  | 0, _ => false
  | depth + 1, v => test v && (scope.inside v).all (scope.everyVisit test depth)

theorem forall_visits_of_everyVisit {test : Visit → Bool} {depth : Nat} {v : Visit}
    (h : scope.everyVisit test depth v = true) :
    ∀ w, Relation.ReflTransGen scope.Descends v w → test w = true := by
  induction depth generalizing v with
  | zero => cases h
  | succ depth ih =>
    simp only [everyVisit, Bool.and_eq_true, List.all_eq_true] at h
    refine forall_visits_iff.2 ⟨h.1, fun w hw => ?_⟩
    exact ih (h.2 w (mem_inside_of_descends hw))

end Stencil.Scope
