import Stencil.Proofs.Errors
import Stencil.Proofs.Termination
/-!
# The traversal in place

A script is rewritten in place by a traversal that keeps the names being expanded and the first error, and that never
breaks off: after an error it still goes on to the siblings and takes the names off again, and what it visits then
stays. `Visited` is this traversal, with the visits that are entered on the way. Which forms ask for an error before
they are gone into is left open, so that all answers are covered.

`visited_walk` ties it to the walk, which does break off: from a state without an error both come to the same.
`visited_of_error`, `visited_firstFailure` and `visited_orderly` are what the traversal keeps: nothing changes after an
error, the error is that of the first visit that fails, and the names being expanded are distinct, declared and have
arguments.
-/

namespace Stencil

open Script

/-- The error that a computation ends with, if there is one. -/
def Logged.error? {α : Type} (x : Logged α) : Option Error :=
  match x.result with
  | .ok _ => none
  | .error e => some e

/-! ## States -/

/-- What a traversal keeps: the names that are being expanded, the error, and the records. -/
structure Progress where
  expanding : List String := []
  error : Option Error := none
  records : List Record := []

namespace Progress

variable {α β : Type}

/-- After a step, whose error is noted if it has one. -/
def after (s : Progress) (x : Logged α) : Progress :=
  { s with error := x.error?.or s.error, records := s.records ++ x.records }

/-- With one more name being expanded. -/
def push (s : Progress) (name : String) : Progress := { s with expanding := name :: s.expanding }

/-- Without the name that was pushed last. -/
def pop (s : Progress) : Progress := { s with expanding := s.expanding.tail }

@[simp] theorem after_expanding (s : Progress) (x : Logged α) : (s.after x).expanding = s.expanding := rfl

/-- What happens between a push and the pop that belongs to it is all that is left of it. -/
theorem pop_after_push (s : Progress) (name : String) (x : Logged α) : ((s.push name).after x).pop = s.after x := rfl

theorem after_error_of_ok {s : Progress} {x : Logged α} {a : α} (h : x.result = .ok a) :
    (s.after x).error = s.error := by
  simp [after, Logged.error?, h]

theorem push_after_error {s : Progress} {x : Logged α} {a : α} (h : x.result = .ok a) (hs : s.error = none)
    (name : String) : ((s.after x).push name).error = none :=
  (after_error_of_ok h).trans hs

theorem after_error_of_error {s : Progress} {x : Logged α} {e : Error} (h : x.result = .error e) :
    (s.after x).error = some e := by
  simp [after, Logged.error?, h]

@[simp] theorem after_pure (s : Progress) (a : α) : s.after (pure a : Logged α) = s := by
  simp [after, Logged.error?, show (pure a : Logged α).records = [] from rfl]

theorem after_bind_of_ok {s : Progress} {x : Logged α} {a : α} (f : α → Logged β) (h : x.result = .ok a) :
    s.after (x >>= f) = (s.after x).after (f a) := by
  have hbind : x >>= f = ⟨(f a).result, x.records ++ (f a).records⟩ := by
    show Logged.andThen x f = _
    simp only [Logged.andThen, h]
  simp [hbind, after, Logged.error?, h]

theorem after_bind_of_error {s : Progress} {x : Logged α} {e : Error} (f : α → Logged β) (h : x.result = .error e) :
    s.after (x >>= f) = s.after x := by
  have hbind : x >>= f = ⟨.error e, x.records⟩ := by
    show Logged.andThen x f = _
    simp only [Logged.andThen, h]
  simp [hbind, after, Logged.error?, h]

theorem after_bind_pure (s : Progress) (x : Logged α) (f : α → β) :
    s.after (x >>= fun a => pure (f a)) = s.after x := by
  cases h : x.result with
  | error e => exact after_bind_of_error _ h
  | ok a => rw [after_bind_of_ok _ h, after_pure]

/-- A computation that breaks off at its error leads to a state, with a value that is its result if it has one. -/
def Follows (s : Progress) (x : Logged α) (out : α) (t : Progress) : Prop :=
  t = s.after x ∧ ∀ a, x.result = .ok a → out = a

theorem follows_of_error {s : Progress} {x : Logged α} {e : Error} (out : α) (h : x.result = .error e) :
    s.Follows x out (s.after x) :=
  ⟨rfl, fun a ha => by rw [h] at ha; cases ha⟩

theorem Follows.pure (s : Progress) (a : α) : s.Follows (Pure.pure a : Logged α) a s :=
  ⟨(after_pure s a).symm, fun b hb => by cases hb; rfl⟩

theorem Follows.stop {s : Progress} {x : Logged α} {e : Error} {f : α → Logged β} (out : β) (h : x.result = .error e) :
    s.Follows (x >>= f) out (s.after x) := by
  rw [← after_bind_of_error f h]
  exact follows_of_error out (by rw [Logged.bind_result, h]; rfl)

theorem Follows.map {s t : Progress} {x : Logged α} {out : α} (f : α → β) (h : s.Follows x out t) :
    s.Follows (x >>= fun a => Pure.pure (f a)) (f out) t := by
  refine ⟨h.1.trans (after_bind_pure s x f).symm, fun b hb => ?_⟩
  rw [Logged.bind_result, Logged.except_bind_ok_iff] at hb
  obtain ⟨a, ha, hb⟩ := hb
  cases hb
  rw [h.2 a ha]

/-- What is done with the value only where there is no error. -/
theorem Follows.mapUnless {s t : Progress} {x : Logged α} {out : α} (h : s.Follows x out t) (hs : s.error = none)
    (f g : α → β) : s.Follows (x >>= fun a => Pure.pure (f a)) (if t.error.isSome then g out else f out) t := by
  obtain ⟨rfl, hout⟩ := h
  cases hx : x.result with
  | error e => exact .stop _ hx
  | ok a =>
    rw [after_error_of_ok hx, hs]
    exact Follows.map f ⟨rfl, hout⟩

theorem Follows.bind {s t : Progress} {x : Logged α} {a : α} {f : α → Logged β} {out : β} (hx : x.result = .ok a)
    (h : (s.after x).Follows (f a) out t) : s.Follows (x >>= f) out t := by
  refine ⟨h.1.trans (after_bind_of_ok f hx).symm, fun b hb => h.2 b ?_⟩
  rwa [Logged.bind_result, hx] at hb

/-- What a traversal reports: its error, or else a value. -/
def outcome (s : Progress) (out : α) : Except Error α :=
  match s.error with
  | some e => .error e
  | none => .ok out

theorem Follows.outcome_eq {s t : Progress} {x : Logged α} {out : α} (h : s.Follows x out t) (hs : s.error = none) :
    x.result = t.outcome out := by
  obtain ⟨rfl, hout⟩ := h
  cases hx : x.result with
  | error e => rw [outcome, after_error_of_error hx]
  | ok a => rw [outcome, after_error_of_ok hx, hs, hout a hx]

theorem Follows.expanding_eq {s t : Progress} {x : Logged α} {out : α} (h : s.Follows x out t) :
    t.expanding = s.expanding := by
  rw [h.1, after_expanding]

/-- One value and then more, which are not looked for after an error. -/
theorem Follows.cons {s t u : Progress} {x : Logged α} {xs : Logged (List α)} {out : α} {outs : List α}
    (hs : s.error = none) (h : s.Follows x out t) (hstay : t.error.isSome = true → u = t)
    (hrest : t.error = none → t.Follows xs outs u) :
    s.Follows (x >>= fun a => xs >>= fun as => Pure.pure (a :: as)) (out :: outs) u := by
  obtain ⟨rfl, hout⟩ := h
  cases hx : x.result with
  | error e =>
    rw [hstay (by simp [after_error_of_error hx])]
    exact .stop _ hx
  | ok a =>
    obtain rfl := hout a hx
    exact .bind hx ((hrest (by rw [after_error_of_ok hx, hs])).map _)

end Progress

namespace Scope

variable {scope : Scope}

/-! ## The traversal -/

/-- A visit as it is entered. -/
structure Entrance where
  progress : Progress
  tree : Node

/-- The visit without what the traversal keeps beside the names. -/
def Entrance.visit (v : Entrance) : Visit := ⟨v.progress.expanding, v.tree⟩

/-- What becomes of a leaf that is no placeholder; none if the tree is a form or is split. -/
def leaf? (scope : Scope) : Node → Option (Logged Node)
  | .ref id => some do return .ref (← scope.renameIdentifier id)
  | .binding id => some do return .binding (← scope.renameIdentifier id)
  | .name id => some do return .name (← scope.renameProperty id)
  | .text value raw => some do
    let new ← scope.replaceInLiteral value raw
    return .text new.1 new.2
  | .shorthand id =>
    if (scope.registry.wholeToken? id).isSome then none
    else some do return .shorthand (← scope.renameIdentifier id)
  | .atom a => some (pure (.atom a))
  | .node _ _ => none

mutual

/-- A visit of a tree in a state, with the visits that are entered, the tree that comes out and the state after it. -/
inductive Visited (scope : Scope) : Progress → Node → List Entrance → Node → Progress → Prop
  /-- After an error a visit may be over at once. -/
  | skipped {s tree} (he : s.error.isSome) : Visited scope s tree [⟨s, tree⟩] tree s
  /-- The placeholder is being expanded already. -/
  | recursive {s tree place name} (he : s.error = none) (hp : scope.IsPlaceholder tree place name)
      (hs : name ∈ s.expanding) :
      Visited scope s tree [⟨s, tree⟩] tree (s.after (Logged.fail (.recursiveArgument name) : Logged Node))
  /-- The argument cannot be put in. -/
  | unspliced {s tree place name e} (he : s.error = none) (hp : scope.IsPlaceholder tree place name)
      (hs : name ∉ s.expanding) (hr : (scope.expand tree name).result = .error e) :
      Visited scope s tree [⟨s, tree⟩] tree (s.after (scope.expand tree name))
  /-- A single identifier is put in, which is a leaf. -/
  | bare {s tree place name r} (he : s.error = none) (hp : scope.IsPlaceholder tree place name)
      (hs : name ∉ s.expanding) (hr : (scope.expand tree name).result = .ok r) (hb : r.isBareIdentifier = true) :
      Visited scope s tree [⟨s, tree⟩] r (s.after (scope.expand tree name))
  /-- Another tree is put in and gone into, with the name pushed before and popped after that. -/
  | spliced {s tree place name r entered out t} (he : s.error = none) (hp : scope.IsPlaceholder tree place name)
      (hs : name ∉ s.expanding) (hr : (scope.expand tree name).result = .ok r) (hb : r.isBareIdentifier = false)
      (h : GoneInto scope ((s.after (scope.expand tree name)).push name) r entered out t) :
      Visited scope s tree (⟨s, tree⟩ :: entered) out t.pop
  /-- What is no placeholder is gone into, whether there is an error or not. -/
  | plain {s tree entered out t} (hp : scope.placeholder? tree = none) (h : GoneInto scope s tree entered out t) :
      Visited scope s tree (⟨s, tree⟩ :: entered) out t

/-- The same for what is inside a tree. -/
inductive GoneInto (scope : Scope) : Progress → Node → List Entrance → Node → Progress → Prop
  /-- The text of a leaf, which stays if its tokens cannot be replaced. -/
  | leaf {s tree x} (he : s.error = none) (hx : scope.leaf? tree = some x) :
      GoneInto scope s tree [⟨s, tree⟩] (match x.result with | .ok out => out | .error _ => tree) (s.after x)
  /-- The text of a leaf after an error. -/
  | spared {s tree x} (he : s.error.isSome) (hx : scope.leaf? tree = some x) :
      GoneInto scope s tree [⟨s, tree⟩] tree s
  /-- A shorthand property that is a placeholder is split first. -/
  | split {s id entered outs t} (he : s.error = none) (hw : (scope.registry.wholeToken? id).isSome)
      (h : VisitedAll scope s [.name id, .ref id] entered outs t) :
      GoneInto scope s (.shorthand id) entered (.node .property outs) t
  /-- The parts of a form; the callee of `new` is given parentheses only if there is no error. -/
  | form {s kind parts entered outs t} (h : VisitedAll scope s parts entered outs t) :
      GoneInto scope s (.node kind parts) entered
        (if t.error.isSome then .node kind outs else reassemble kind outs) t

/-- The same for several trees, one after the other. -/
inductive VisitedAll (scope : Scope) : Progress → List Node → List Entrance → List Node → Progress → Prop
  | nil {s} : VisitedAll scope s [] [] [] s
  | cons {s tree rest entered entered' out outs t u} (h : Visited scope s tree entered out t)
      (hrest : VisitedAll scope t rest entered' outs u) :
      VisitedAll scope s (tree :: rest) (entered ++ entered') (out :: outs) u

end

/-! ## After an error nothing changes -/

mutual

/-- After an error a visit leaves the tree and the state as they are, and so does every visit inside it. -/
theorem visited_of_error {s t : Progress} {tree out : Node} {entered : List Entrance} (he : s.error.isSome = true) :
    scope.Visited s tree entered out t → out = tree ∧ t = s ∧ ∀ v ∈ entered, v.progress = s
  | .skipped _ => ⟨rfl, rfl, by simp⟩
  | .recursive hnone .. | .unspliced hnone .. | .bare hnone .. | .spliced hnone .. => by simp [hnone] at he
  | .plain _ h => by
    obtain ⟨rfl, rfl, hentered⟩ := goneInto_of_error he h
    exact ⟨rfl, rfl, List.forall_mem_cons.2 ⟨rfl, hentered⟩⟩

theorem goneInto_of_error {s t : Progress} {tree out : Node} {entered : List Entrance} (he : s.error.isSome = true) :
    scope.GoneInto s tree entered out t → out = tree ∧ t = s ∧ ∀ v ∈ entered, v.progress = s
  | .leaf hnone _ | .split hnone .. => by simp [hnone] at he
  | .spared _ _ => ⟨rfl, rfl, by simp⟩
  | .form h => by
    obtain ⟨rfl, rfl, hentered⟩ := visitedAll_of_error he h
    exact ⟨if_pos he, rfl, hentered⟩

theorem visitedAll_of_error {s t : Progress} {trees outs : List Node} {entered : List Entrance}
    (he : s.error.isSome = true) :
    scope.VisitedAll s trees entered outs t → outs = trees ∧ t = s ∧ ∀ v ∈ entered, v.progress = s
  | .nil => ⟨rfl, rfl, by simp⟩
  | .cons h hrest => by
    obtain ⟨rfl, rfl, hentered⟩ := visited_of_error he h
    obtain ⟨rfl, rfl, hentered'⟩ := visitedAll_of_error he hrest
    exact ⟨rfl, rfl, List.forall_mem_append.2 ⟨hentered, hentered'⟩⟩

end

/-! ## The traversal and the walk -/

theorem walk_leaf {stack : List String} {tree : Node} {x : Logged Node} (hp : scope.placeholder? tree = none)
    (hx : scope.leaf? tree = some x) : scope.walk stack tree = x := by
  cases tree with
  | ref id => exact (walk_ref hp).trans (Option.some.inj hx)
  | binding id => exact (walk_binding stack id).trans (Option.some.inj hx)
  | name id => exact (walk_name stack id).trans (Option.some.inj hx)
  | text value raw => exact (walk_text stack value raw).trans (Option.some.inj hx)
  | shorthand id =>
    simp only [leaf?] at hx
    split at hx
    · cases hx
    · rename_i hw
      exact (walk_shorthand (by simpa using hw)).trans (Option.some.inj hx)
  | atom a => exact (walk_atom stack a).trans (Option.some.inj hx)
  | node kind parts => cases hx

theorem placeholder?_of_not_bare {tree : Node} (hb : tree.isBareIdentifier = false) :
    scope.placeholder? tree = none := by
  cases h : scope.placeholder? tree with
  | none => rfl
  | some name =>
    obtain ⟨place, hp⟩ := placeholder?_eq_some_iff.1 h
    cases hp <;> cases hb

mutual

/-- From a state without an error the traversal and the walk come to the same. -/
theorem visited_walk {s t : Progress} {tree out : Node} {entered : List Entrance} (he : s.error = none) :
    scope.Visited s tree entered out t → s.Follows (scope.walk s.expanding tree) out t
  | .skipped hsome => by simp [he] at hsome
  | .recursive _ hp hs => by
    rw [walk_recursive hp hs]
    exact Progress.follows_of_error _ rfl
  | .unspliced _ hp hs hr => by
    rw [walk_expand hp hs]
    exact .stop _ hr
  | .bare _ hp hs hr hb => by
    rw [walk_expand hp hs]
    refine .bind hr ?_
    rw [if_pos hb]
    exact .pure _ _
  | .spliced _ hp hs hr hb h => by
    rw [walk_expand hp hs]
    refine .bind hr ?_
    rw [if_neg (by simp [hb])]
    have hinside := goneInto_walk (Progress.push_after_error hr he _) (placeholder?_of_not_bare hb) h
    exact ⟨(congrArg Progress.pop hinside.1).trans (Progress.pop_after_push _ _ _), hinside.2⟩
  | .plain hp h => goneInto_walk he hp h

theorem goneInto_walk {s t : Progress} {tree out : Node} {entered : List Entrance} (he : s.error = none)
    (hp : scope.placeholder? tree = none) :
    scope.GoneInto s tree entered out t → s.Follows (scope.walk s.expanding tree) out t
  | .leaf _ hx => by
    rw [walk_leaf hp hx]
    exact ⟨rfl, fun a ha => by rw [ha]⟩
  | .spared hsome _ => by simp [he] at hsome
  | .split _ hw h => by
    rw [walk_split hw, walk_node rfl]
    exact (visitedAll_walk he h).map _
  | .form h => by
    rw [walk_node hp]
    exact (visitedAll_walk he h).mapUnless he _ _

theorem visitedAll_walk {s t : Progress} {trees outs : List Node} {entered : List Entrance} (he : s.error = none) :
    scope.VisitedAll s trees entered outs t → s.Follows (trees.mapM (scope.walk s.expanding)) outs t
  | .nil => .pure _ _
  | .cons (t := t) h hrest => by
    -- the walk breaks off where the visits after the first one find an error and change nothing
    have hhead := visited_walk he h
    have htail := fun ht => visitedAll_walk (s := t) ht hrest
    rw [List.mapM_cons]
    rw [hhead.expanding_eq] at htail
    exact hhead.cons he (fun ht => (visitedAll_of_error ht hrest).2.1) htail

end

/-- The names that are being expanded are the same after a visit as before it. -/
theorem visited_expanding {s t : Progress} {tree out : Node} {entered : List Entrance}
    (h : scope.Visited s tree entered out t) : t.expanding = s.expanding := by
  cases he : s.error with
  | none => exact (visited_walk he h).expanding_eq
  | some e => rw [(visited_of_error (by simp [he]) h).2.1]

/-! ## The first error -/

/-- An error is that of the first visit that fails: up to this visit there is no error, and after it that one. -/
def FirstFailure (scope : Scope) (e : Error) (entered : List Entrance) : Prop :=
  ∃ before v after, entered = before ++ v :: after ∧ (∀ u ∈ before, u.progress.error = none) ∧
    v.progress.error = none ∧ scope.FailsAt v.visit e ∧ ∀ u ∈ after, u.progress.error = some e

/-- The error with which visits end is that of the first one that fails, or there is none. -/
def Accounted (scope : Scope) (entered : List Entrance) : Option Error → Prop
  | none => ∀ v ∈ entered, v.progress.error = none
  | some e => scope.FirstFailure e entered

theorem accounted_cons {v : Entrance} {entered : List Entrance} {error : Option Error}
    (hv : v.progress.error = none) (h : scope.Accounted entered error) : scope.Accounted (v :: entered) error := by
  cases error with
  | none => exact List.forall_mem_cons.2 ⟨hv, h⟩
  | some e =>
    obtain ⟨before, u, after, rfl, hbefore, hu⟩ := h
    exact ⟨v :: before, u, after, rfl, List.forall_mem_cons.2 ⟨hv, hbefore⟩, hu⟩

theorem accounted_append {entered entered' : List Entrance} {error error' : Option Error}
    (h : scope.Accounted entered error) (hnone : error = none → scope.Accounted entered' error')
    (hsome : error.isSome = true → error' = error ∧ ∀ v ∈ entered', v.progress.error = error) :
    scope.Accounted (entered ++ entered') error' := by
  cases error with
  | none =>
    cases error' with
    | none => exact List.forall_mem_append.2 ⟨h, hnone rfl⟩
    | some e =>
      obtain ⟨before, v, after, rfl, hbefore, hv⟩ := hnone rfl
      exact ⟨entered ++ before, v, after, by simp, List.forall_mem_append.2 ⟨h, hbefore⟩, hv⟩
  | some e =>
    obtain ⟨rfl, hrest⟩ := hsome rfl
    obtain ⟨before, v, after, rfl, hbefore, hv, hfails, hafter⟩ := h
    exact ⟨before, v, after ++ entered', by simp, hbefore, hv, hfails, List.forall_mem_append.2 ⟨hafter, hrest⟩⟩

/-- The one visit that is entered fails, or it does not. -/
theorem accounted_singleton {s : Progress} {tree : Node} {x : Logged Node} (he : s.error = none)
    (h : ∀ e, x.result = .error e → scope.FailsAt ⟨s.expanding, tree⟩ e) :
    scope.Accounted [⟨s, tree⟩] (s.after x).error := by
  cases hx : x.result with
  | ok a =>
    rw [Progress.after_error_of_ok hx, he]
    simp [Accounted, he]
  | error e =>
    rw [Progress.after_error_of_error hx]
    exact ⟨[], ⟨s, tree⟩, [], rfl, by simp, he, h e hx, by simp⟩

theorem failsAt_of_leaf {stack : List String} {tree : Node} {x : Logged Node} {e : Error}
    (hx : scope.leaf? tree = some x) (he : x.result = .error e) : scope.FailsAt ⟨stack, tree⟩ e := by
  cases tree with
  | ref id | binding id | name id =>
    cases hx
    exact .identifier rfl (rename_error (result_error_of_bind he))
  | text value raw =>
    cases hx
    exact .literal (replaceInLiteral_error (result_error_of_bind he))
  | shorthand id =>
    simp only [leaf?] at hx
    split at hx
    · cases hx
    · cases hx
      exact .identifier rfl (rename_error (result_error_of_bind he))
  | atom a =>
    cases hx
    cases he
  | node kind parts => cases hx

mutual

/-- Visits that begin without an error account for the one they end with. -/
theorem visited_accounted {s t : Progress} {tree out : Node} {entered : List Entrance} (he : s.error = none) :
    scope.Visited s tree entered out t → scope.Accounted entered t.error
  | .skipped hsome => by simp [he] at hsome
  | .recursive _ hp hs => accounted_singleton he fun e h => by cases h; exact .recursion hp hs
  | .unspliced _ hp _ _ => accounted_singleton he fun e h => .splice hp (by rwa [← expand_result hp])
  | .bare _ _ _ hr _ => accounted_singleton he fun e h => by rw [hr] at h; cases h
  | .spliced _ _ _ hr _ h => by
    have hinside := goneInto_accounted (Progress.push_after_error hr he _) h
    exact accounted_cons he hinside
  | .plain _ h => accounted_cons he (goneInto_accounted he h)

theorem goneInto_accounted {s t : Progress} {tree out : Node} {entered : List Entrance} (he : s.error = none) :
    scope.GoneInto s tree entered out t → scope.Accounted entered t.error
  | .leaf _ hx => accounted_singleton he fun e h => failsAt_of_leaf hx h
  | .spared hsome _ => by simp [he] at hsome
  | .split _ _ h => visitedAll_accounted he h
  | .form h => visitedAll_accounted he h

theorem visitedAll_accounted {s t : Progress} {trees outs : List Node} {entered : List Entrance}
    (he : s.error = none) : scope.VisitedAll s trees entered outs t → scope.Accounted entered t.error
  | .nil => by simp [Accounted, he]
  | .cons (t := u) h hrest =>
    accounted_append (visited_accounted he h) (fun hu => visitedAll_accounted (s := u) hu hrest) fun hu => by
      obtain ⟨-, rfl, hentered⟩ := visitedAll_of_error hu hrest
      exact ⟨rfl, fun v hv => by rw [hentered v hv]⟩

end

/-! ## The names being expanded -/

/-- The names are distinct and declared, and they have arguments. -/
structure Orderly (scope : Scope) (stack : List String) : Prop extends StackOk scope stack where
  supplied : ∀ name ∈ stack, ∃ a, scope.arguments.find? name = some a

theorem orderly_nil : scope.Orderly [] := ⟨stackOk_nil, by simp⟩

theorem orderly_cons {stack : List String} {tree : Node} {place : Place} {name : String} {r : Node}
    (h : scope.Orderly stack) (hp : scope.IsPlaceholder tree place name) (hs : name ∉ stack)
    (hr : (scope.expand tree name).result = .ok r) : scope.Orderly (name :: stack) := by
  rw [expand_result hp] at hr
  exact ⟨stackOk_cons h.toStackOk hp hs,
    List.forall_mem_cons.2 ⟨Option.isSome_iff_exists.1 (supplied_of_spliced hr), h.supplied⟩⟩

mutual

/-- If the names are in order where a visit begins, they are in order wherever a tree inside is visited. -/
theorem visited_orderly {s t : Progress} {tree out : Node} {entered : List Entrance}
    (ho : scope.Orderly s.expanding) :
    scope.Visited s tree entered out t → ∀ v ∈ entered, scope.Orderly v.progress.expanding
  | .skipped _ | .recursive .. | .unspliced .. | .bare .. => List.forall_mem_singleton.2 ho
  | .spliced _ hp hs hr _ h => List.forall_mem_cons.2 ⟨ho, goneInto_orderly (orderly_cons ho hp hs hr) h⟩
  | .plain _ h => List.forall_mem_cons.2 ⟨ho, goneInto_orderly ho h⟩

theorem goneInto_orderly {s t : Progress} {tree out : Node} {entered : List Entrance}
    (ho : scope.Orderly s.expanding) :
    scope.GoneInto s tree entered out t → ∀ v ∈ entered, scope.Orderly v.progress.expanding
  | .leaf .. | .spared .. => List.forall_mem_singleton.2 ho
  | .split _ _ h => visitedAll_orderly ho h
  | .form h => visitedAll_orderly ho h

theorem visitedAll_orderly {s t : Progress} {trees outs : List Node} {entered : List Entrance}
    (ho : scope.Orderly s.expanding) :
    scope.VisitedAll s trees entered outs t → ∀ v ∈ entered, scope.Orderly v.progress.expanding
  | .nil => by simp
  | .cons h hrest => List.forall_mem_append.2
      ⟨visited_orderly ho h, visitedAll_orderly (by rwa [visited_expanding h]) hrest⟩

end

/-! ## Every visit ends -/

theorem exists_visitedAll {trees : List Node} {s : Progress}
    (h : ∀ tree ∈ trees, ∀ t : Progress, t.expanding = s.expanding →
      ∃ entered out u, scope.Visited t tree entered out u) :
    ∃ entered outs t, scope.VisitedAll s trees entered outs t := by
  induction trees generalizing s with
  | nil => exact ⟨_, _, _, .nil⟩
  | cons tree rest ih =>
    obtain ⟨entered, out, t, hfirst⟩ := h tree (by simp) s rfl
    have hstack := visited_expanding hfirst
    obtain ⟨entered', outs, u, hrest⟩ := ih fun part hm v hv => h part (by simp [hm]) v (hv.trans hstack)
    exact ⟨_, _, _, .cons hfirst hrest⟩

/-- What is no placeholder is gone into when it is visited without an error. -/
theorem goneInto_of_visited {s t : Progress} {tree out : Node} {entered : List Entrance} (he : s.error = none)
    (hp : scope.placeholder? tree = none) (h : scope.Visited s tree entered out t) :
    ∃ inside, scope.GoneInto s tree inside out t := by
  cases h with
  | skipped hsome => simp [he] at hsome
  | recursive _ hp' | unspliced _ hp' | bare _ hp' | spliced _ hp' =>
    rw [placeholder?_eq_some_iff.2 ⟨_, hp'⟩] at hp
    cases hp
  | plain _ h => exact ⟨_, h⟩

/-- A tree that is no placeholder can be gone into if the visits inside it end. -/
theorem exists_goneInto {s : Progress} {tree : Node} (he : s.error = none) (hp : scope.placeholder? tree = none)
    (h : ∀ w, scope.Descends ⟨s.expanding, tree⟩ w → ∀ t : Progress, t.expanding = w.stack →
      ∃ entered out u, scope.Visited t w.tree entered out u) :
    ∃ entered out t, scope.GoneInto s tree entered out t := by
  cases hx : scope.leaf? tree with
  | some x => exact ⟨_, _, _, .leaf he hx⟩
  | none =>
    cases tree with
    | node kind parts =>
      obtain ⟨entered, outs, t, hall⟩ := exists_visitedAll fun part hm => h ⟨_, part⟩ (.part hp hm)
      exact ⟨_, _, _, .form hall⟩
    | shorthand id =>
      have hw : (scope.registry.wholeToken? id).isSome = true := by
        by_contra hw
        rw [leaf?, if_neg hw] at hx
        cases hx
      -- the property that it is split into is visited as a form elsewhere
      obtain ⟨_, _, _, hproperty⟩ := h _ (.shorthand hw) s rfl
      obtain ⟨_, hinside⟩ := goneInto_of_visited he rfl hproperty
      cases hinside with
      | leaf _ hx' | spared _ hx' => cases hx'
      | form hall => exact ⟨_, _, _, .split he hw hall⟩
    | _ => cases hx

/-- Every visit ends, in whatever state it is entered. -/
theorem exists_visited (scope : Scope) (s : Progress) (tree : Node) :
    ∃ entered out t, scope.Visited s tree entered out t := by
  suffices ∀ v : Visit, ∀ s : Progress, s.expanding = v.stack → ∃ entered out t, scope.Visited s v.tree entered out t
    from this ⟨s.expanding, tree⟩ s rfl
  intro v
  -- the names decide which trees are put in, so the induction is on names and tree together
  induction v using (descends_wf scope).induction with
  | _ v ih =>
  obtain ⟨stack, tree⟩ := v
  rintro s rfl
  cases he : s.error with
  | some e => exact ⟨_, _, _, .skipped (by simp [he])⟩
  | none =>
    cases hp : scope.placeholder? tree with
    | none =>
      obtain ⟨entered, out, t, h⟩ := exists_goneInto he hp ih
      exact ⟨_, _, _, .plain hp h⟩
    | some name =>
      obtain ⟨place, hp⟩ := placeholder?_eq_some_iff.1 hp
      by_cases hs : name ∈ s.expanding
      · exact ⟨_, _, _, .recursive he hp hs⟩
      cases hr : (scope.expand tree name).result with
      | error e => exact ⟨_, _, _, .unspliced he hp hs hr⟩
      | ok r =>
        cases hb : r.isBareIdentifier with
        | true => exact ⟨_, _, _, .bare he hp hs hr hb⟩
        | false =>
          obtain ⟨_, _, _, hvisit⟩ := ih _ (.replacement hp hs (by rwa [← expand_result hp]) hb)
            ((s.after (scope.expand tree name)).push name) rfl
          obtain ⟨_, hinside⟩ :=
            goneInto_of_visited (Progress.push_after_error hr he name) (placeholder?_of_not_bare hb) hvisit
          exact ⟨_, _, _, .spliced he hp hs hr hb hinside⟩

/-! ## Main theorem -/

/-- Every visit ends, in whatever state it is entered, and leaves the names that are being expanded as they were. After
an error it changes nothing. Without one it comes to the same as the walk, and if it ends with an error, this is the
error of the first visit that fails. If the names on entry are distinct and declared and have arguments, so are they
wherever a tree inside is visited. For a whole script the outcome is that of its rendering. -/
theorem visited_invariant (scope : Scope) :
    (∀ s tree, ∃ entered out t, scope.Visited s tree entered out t) ∧
    (∀ s tree entered out t, scope.Visited s tree entered out t →
      t.expanding = s.expanding ∧
      (s.error.isSome = true → out = tree ∧ t = s ∧ ∀ v ∈ entered, v.progress = s) ∧
      (s.error = none → s.Follows (scope.walk s.expanding tree) out t ∧ scope.Accounted entered t.error) ∧
      (scope.Orderly s.expanding → ∀ v ∈ entered, scope.Orderly v.progress.expanding)) ∧
    ∀ script entered out t, scope.Visited {} script entered out t →
      (scope.render script).result = t.outcome out ∧
      (∀ e, (scope.render script).result = .error e → scope.FirstFailure e entered) ∧
      ∀ v ∈ entered, scope.Orderly v.progress.expanding := by
  refine ⟨exists_visited scope, fun s tree entered out t h => ?_, fun script entered out t h => ?_⟩
  · exact ⟨visited_expanding h, fun he => visited_of_error he h,
      fun he => ⟨visited_walk he h, visited_accounted he h⟩, fun ho => visited_orderly ho h⟩
  · have houtcome : (scope.render script).result = t.outcome out := (visited_walk rfl h).outcome_eq rfl
    refine ⟨houtcome, fun e he => ?_, visited_orderly orderly_nil h⟩
    have herror : t.error = some e := by
      rw [houtcome, Progress.outcome] at he
      split at he <;> cases he
      assumption
    have haccounted := visited_accounted rfl h
    rwa [herror] at haccounted

/-- A placeholder that is made with `new`, and a name behind it. -/
def madeWithNew : Node := .node (.new true) [.ref "$A$", .ref "x"]

/-- An argument that holds its own placeholder. -/
def ownPlaceholder : Scope := ⟨⟨[("A", "")]⟩, [("A", .ofText "[$A$]")], .all⟩

theorem visited_madeWithNew : ∃ entered t,
    ownPlaceholder.Visited {} madeWithNew entered (.node (.new true) [.node .array [.ref "$A$"], .ref "x"]) t ∧
    t.expanding = [] ∧ ownPlaceholder.FirstFailure (.recursiveArgument "A") entered ∧
    (∀ v ∈ entered, ownPlaceholder.Orderly v.progress.expanding) ∧
    ∀ entered' out u, ownPlaceholder.Visited t (.ref "$A$") entered' out u → out = .ref "$A$" ∧ u = t := by
  have hp : ownPlaceholder.IsPlaceholder (.ref "$A$") .expression "A" := .expression (by decide +kernel)
  have hr : (ownPlaceholder.expand (.ref "$A$") "A").result = .ok (.node .array [.ref "$A$"]) := by decide +kernel
  -- the inner placeholder fails, and the name behind the outer one is visited all the same
  have hplaceholder := Visited.spliced (s := {}) rfl hp List.not_mem_nil hr rfl
    (.form (.cons (.recursive (Progress.push_after_error hr rfl "A") hp List.mem_cons_self) .nil))
  have hvisited := Visited.plain (by decide +kernel : ownPlaceholder.placeholder? madeWithNew = none)
    (.form (.cons hplaceholder (.cons (.skipped rfl) .nil)))
  obtain ⟨-, hvisit, hrun⟩ := visited_invariant ownPlaceholder
  have herror : (ownPlaceholder.render madeWithNew).result = .error (.recursiveArgument "A") := by
    rw [render, walk_eq_iterate 5]
    decide +kernel
  obtain ⟨-, hfirst, horderly⟩ := hrun _ _ _ _ hvisited
  refine ⟨_, _, hvisited, (hvisit _ _ _ _ _ hvisited).1, hfirst _ herror, horderly, fun entered' out u h => ?_⟩
  obtain ⟨hout, hu, -⟩ := (hvisit _ _ _ _ _ h).2.1 rfl
  exact ⟨hout, hu⟩

end Scope

end Stencil
