import Mathlib.Control.Monad.Basic
import Mathlib.Logic.Function.Iterate
import Mathlib.Logic.Relation
import Stencil.Proofs.Journal
import Stencil.Rendering
/-!
# The walk, visit by visit

The walk is a recursion over visits: a tree together with the names that are being expanded around it. `step` is
what one visit does, given what the visits inside it do, and `Descends` says which visits those are. Neither
mentions a measure. `walk_eq_step` ties them to `walk`, `descends_wf` says that no visit goes on forever, and
`walk_ok_induction` is the induction that every statement about successful walks uses. The first error ends the walk;
`Enters` says which visits inside another one take place before that.
-/

namespace Stencil

open Script

/-- A tree under the names that are being expanded around it. -/
structure Visit where
  stack : List String
  tree : Node

namespace Scope

variable {scope : Scope}

/-! ## One visit -/

/-- What one visit does, given what `visit` does inside it. -/
def step (scope : Scope) (visit : List String → Node → Logged Node) (stack : List String) (tree : Node) :
    Logged Node :=
  match scope.placeholder? tree with
  | some name =>
    if name ∈ stack then Logged.fail (.recursiveArgument name)
    else do
      let replacement ← scope.expand tree name
      if replacement.isBareIdentifier then return replacement else visit (name :: stack) replacement
  | none =>
    match tree with
    | .ref id => return .ref (← scope.renameIdentifier id)
    | .binding id => return .binding (← scope.renameIdentifier id)
    | .name id => return .name (← scope.renameProperty id)
    | .text value raw => do
      let (changed, spelling) ← scope.replaceInLiteral value raw
      return .text changed spelling
    | .shorthand id =>
      if (scope.registry.wholeToken? id).isSome then visit stack (.node .property [.name id, .ref id])
      else return .shorthand (← scope.renameIdentifier id)
    | .atom a => return .atom a
    | .node kind parts => return reassemble kind (← parts.mapM (visit stack))

/-- The two kinds of places for a whole placeholder. -/
inductive Place where
  | statement
  | expression
deriving DecidableEq, Repr

/-- A tree that is a placeholder, with the kind of its place and its name. -/
inductive IsPlaceholder (scope : Scope) : Node → Place → String → Prop
  | statement {id name} (h : scope.registry.wholeToken? id = some name) :
      IsPlaceholder scope (.statement (.ref id)) .statement name
  | expression {id name} (h : scope.registry.wholeToken? id = some name) :
      IsPlaceholder scope (.ref id) .expression name

/-- What an argument puts in a place. -/
def spliced (scope : Scope) : Place → String → Except Error Node
  | .statement, name => scope.argument name >>= Argument.toStatement
  | .expression, name => (scope.argument name >>= Argument.toExpression).map guardPrecedence

/-- What is put in the place of an expression is an expression with the parentheses that it needs. -/
theorem spliced_expression_ok {name : String} {r : Node} (h : scope.spliced .expression name = .ok r) :
    ∃ e, scope.argument name >>= Argument.toExpression = .ok e ∧ r = guardPrecedence e := by
  simp only [spliced] at h
  cases he : scope.argument name >>= Argument.toExpression with
  | error e => simp [he, Except.map] at h
  | ok e =>
    simp only [he, Except.map, Except.ok.injEq] at h
    exact ⟨e, rfl, h.symm⟩

theorem placeholder?_eq_some_iff {tree : Node} {name : String} :
    scope.placeholder? tree = some name ↔ ∃ place, scope.IsPlaceholder tree place name := by
  constructor
  · intro h
    simp only [placeholder?, Option.or_eq_some_iff] at h
    rcases h with h | ⟨-, h⟩
    · unfold statementPlaceholder? at h
      split at h
      · rename_i value
        cases value <;> simp only [expressionPlaceholder?, reduceCtorEq] at h
        exact ⟨.statement, .statement h⟩
      · simp at h
    · cases tree <;> simp only [expressionPlaceholder?, reduceCtorEq] at h
      exact ⟨.expression, .expression h⟩
  · rintro ⟨place, h⟩
    cases h with
    | statement h => simp [placeholder?, statementPlaceholder?, expressionPlaceholder?, Node.statement, h]
    | expression h => simp [placeholder?, statementPlaceholder?, expressionPlaceholder?, h]

theorem expand_result {tree : Node} {place : Place} {name : String} (h : scope.IsPlaceholder tree place name) :
    (scope.expand tree name).result = scope.spliced place name := by
  cases h with
  | statement h =>
    simp [expand, statementPlaceholder?, expressionPlaceholder?, Node.statement, h, expandStatement, spliced]
  | expression h =>
    simp only [expand, statementPlaceholder?, Option.isSome_none, Bool.false_eq_true, ↓reduceIte, expandExpression,
      Logged.bind_result, Logged.trace_result, Logged.except_ok_bind, Logged.lift_result, spliced]
    cases scope.argument name >>= Argument.toExpression <;> rfl

/-- The visits that take place directly inside another one. -/
inductive Descends (scope : Scope) : Visit → Visit → Prop
  /-- Into what was put in the place of a placeholder. -/
  | replacement {stack tree place name r} (hp : scope.IsPlaceholder tree place name) (hs : name ∉ stack)
      (hr : scope.spliced place name = .ok r) (hb : r.isBareIdentifier = false) :
      Descends scope ⟨stack, tree⟩ ⟨name :: stack, r⟩
  /-- Into the property that a shorthand property is short for. -/
  | shorthand {stack id} (h : (scope.registry.wholeToken? id).isSome) :
      Descends scope ⟨stack, .shorthand id⟩ ⟨stack, .node .property [.name id, .ref id]⟩
  /-- Into a part. -/
  | part {stack kind parts part} (hp : scope.placeholder? (.node kind parts) = none) (h : part ∈ parts) :
      Descends scope ⟨stack, .node kind parts⟩ ⟨stack, part⟩

/-- The visits of the walk of a script. -/
def Reaches (scope : Scope) (script : Node) (v : Visit) : Prop :=
  Relation.ReflTransGen scope.Descends ⟨[], script⟩ v

/-- The visits inside another one that take place, where `visit` is done inside: a part is visited only if no part
before it fails. -/
inductive Enters (scope : Scope) (visit : List String → Node → Logged Node) : Visit → Visit → Prop
  | replacement {stack tree place name r} (hp : scope.IsPlaceholder tree place name) (hs : name ∉ stack)
      (hr : scope.spliced place name = .ok r) (hb : r.isBareIdentifier = false) :
      Enters scope visit ⟨stack, tree⟩ ⟨name :: stack, r⟩
  | shorthand {stack id} (h : (scope.registry.wholeToken? id).isSome) :
      Enters scope visit ⟨stack, .shorthand id⟩ ⟨stack, .node .property [.name id, .ref id]⟩
  | part {stack kind before part after} (hp : scope.placeholder? (.node kind (before ++ part :: after)) = none)
      (h : ∀ earlier ∈ before, ∃ out, (visit stack earlier).result = .ok out) :
      Enters scope visit ⟨stack, .node kind (before ++ part :: after)⟩ ⟨stack, part⟩

theorem Enters.descends {visit : List String → Node → Logged Node} {v w : Visit} (h : scope.Enters visit v w) :
    scope.Descends v w := by
  cases h with
  | replacement hp hs hr hb => exact .replacement hp hs hr hb
  | shorthand h => exact .shorthand h
  | part hp _ => exact .part hp (by simp)

/-- The visits of the walk of a script that take place. -/
def Visits (scope : Scope) (script : Node) (v : Visit) : Prop :=
  Relation.ReflTransGen (scope.Enters scope.walk) ⟨[], script⟩ v

theorem Visits.reaches {script : Node} {v : Visit} (h : scope.Visits script v) : scope.Reaches script v :=
  Relation.ReflTransGen.mono (fun _ _ => Enters.descends) _ _ h

/-- A property of all visits from one on is one of the visit and of all visits from those inside it on. -/
theorem forall_visits_iff {Q : Visit → Prop} {v : Visit} :
    (∀ w, Relation.ReflTransGen scope.Descends v w → Q w) ↔
      Q v ∧ ∀ w, scope.Descends v w → ∀ u, Relation.ReflTransGen scope.Descends w u → Q u := by
  constructor
  · intro h
    exact ⟨h v .refl, fun w hw u hu => h u (.head hw hu)⟩
  · rintro ⟨hv, h⟩ w hw
    rcases hw.cases_head with rfl | ⟨c, hc, hcw⟩
    · exact hv
    · exact h c hc w hcw

/-- From a placeholder there is one way, into what was put in its place. -/
theorem descends_placeholder {stack : List String} {tree r : Node} {place : Place} {name : String} {w : Visit}
    (hp : scope.IsPlaceholder tree place name) (hr : scope.spliced place name = .ok r)
    (h : scope.Descends ⟨stack, tree⟩ w) : r.isBareIdentifier = false ∧ w = ⟨name :: stack, r⟩ := by
  cases h with
  | replacement hp' _ hr' hb =>
    cases hp <;> cases hp' <;> simp_all
  | shorthand => cases hp
  | part hp' => rw [placeholder?_eq_some_iff.2 ⟨place, hp⟩] at hp'; cases hp'

/-- From a form that is no placeholder the ways are into its parts. -/
theorem descends_node {stack : List String} {kind : Kind} {parts : List Node} {w : Visit}
    (hp : scope.placeholder? (.node kind parts) = none) :
    scope.Descends ⟨stack, .node kind parts⟩ w ↔ ∃ part ∈ parts, w = ⟨stack, part⟩ := by
  constructor
  · intro h
    cases h with
    | replacement hp' => rw [placeholder?_eq_some_iff.2 ⟨_, hp'⟩] at hp; cases hp
    | part _ hm => exact ⟨_, hm, rfl⟩
  · rintro ⟨part, hm, rfl⟩
    exact .part hp hm

theorem walkAll_eq_mapM (stack : List String) (trees : List Node) :
    scope.walkAll stack trees = trees.mapM (scope.walk stack) := by
  induction trees with
  | nil => simp [walkAll]
  | cons tree rest ih => rw [walkAll, List.mapM_cons, ih]

/-- The walk does at each visit what `step` says. -/
theorem walk_eq_step (stack : List String) (tree : Node) :
    scope.walk stack tree = scope.step scope.walk stack tree := by
  rw [walk, step.eq_def]
  split <;> rename_i hp
  · simp only [hp]
    split <;> rfl
  · simp only [hp, walkAll_eq_mapM]
    cases tree <;> rfl

/-- The walk unrolled, which computes where the visits do not nest deeper than `n`. -/
theorem walk_eq_iterate (n : Nat) : scope.walk = scope.step^[n] scope.walk :=
  (Function.iterate_fixed (funext fun stack => funext fun tree => (walk_eq_step stack tree).symm) n).symm

/-- A form keeps its kind when its parts have been walked, and its parts but for the callee of `new`. -/
theorem reassemble_cases (kind : Kind) (parts : List Node) :
    reassemble kind parts = .node kind parts ∨ ∃ hasArguments callee args, kind = .new hasArguments ∧
      parts = callee :: args ∧ reassemble kind parts = .node kind (guardCallee callee :: args) := by
  unfold reassemble
  split
  · exact .inr ⟨_, _, _, rfl, rfl, rfl⟩
  · exact .inl rfl

/-- Whether a call stands in a chain depends on the forms along the chain only. -/
theorem callsInChain_congr {kind : Kind} {first first' : Node} (rest rest' : List Node)
    (h : callsInChain first = callsInChain first') :
    callsInChain (.node kind (first :: rest)) = callsInChain (.node kind (first' :: rest')) := by
  simp only [callsInChain, h]

/-! ## Results of one visit -/

/-- A placeholder that is being expanded already. -/
theorem walk_recursive {stack : List String} {tree : Node} {place : Place} {name : String}
    (hp : scope.IsPlaceholder tree place name) (hs : name ∈ stack) :
    scope.walk stack tree = Logged.fail (.recursiveArgument name) := by
  rw [walk_eq_step, step.eq_def, placeholder?_eq_some_iff.2 ⟨place, hp⟩]
  exact if_pos hs

/-- Any other placeholder is expanded, and what was put in is walked unless it is a single identifier. -/
theorem walk_expand {stack : List String} {tree : Node} {place : Place} {name : String}
    (hp : scope.IsPlaceholder tree place name) (hs : name ∉ stack) :
    scope.walk stack tree = scope.expand tree name >>= fun r =>
      if r.isBareIdentifier then pure r else scope.walk (name :: stack) r := by
  rw [walk_eq_step, step.eq_def, placeholder?_eq_some_iff.2 ⟨place, hp⟩]
  exact if_neg hs

/-- A placeholder becomes the single identifier that is put in its place. -/
theorem walk_bare {stack : List String} {tree r : Node} {place : Place} {name : String}
    (hp : scope.IsPlaceholder tree place name) (hs : name ∉ stack) (hr : scope.spliced place name = .ok r)
    (hb : r.isBareIdentifier = true) : (scope.walk stack tree).result = .ok r := by
  rw [walk_expand hp hs]
  simp [expand_result hp, hr, hb]

/-- A placeholder becomes what any other tree in its place becomes. -/
theorem walk_spliced {stack : List String} {tree r : Node} {place : Place} {name : String}
    (hp : scope.IsPlaceholder tree place name) (hs : name ∉ stack) (hr : scope.spliced place name = .ok r)
    (hb : r.isBareIdentifier = false) : (scope.walk stack tree).result = (scope.walk (name :: stack) r).result := by
  rw [walk_expand hp hs]
  simp [expand_result hp, hr, hb]

/-- A placeholder whose argument cannot be put in its place. -/
theorem walk_unspliced {stack : List String} {tree : Node} {place : Place} {name : String} {e : Error}
    (hp : scope.IsPlaceholder tree place name) (hs : name ∉ stack) (he : scope.spliced place name = .error e) :
    (scope.walk stack tree).result = .error e := by
  rw [walk_expand hp hs]
  simp [expand_result hp, he]

theorem walk_ref {stack : List String} {id : String} (hp : scope.placeholder? (.ref id) = none) :
    scope.walk stack (.ref id) = do return .ref (← scope.renameIdentifier id) := by
  rw [walk_eq_step, step.eq_def, hp]

theorem walk_binding (stack : List String) (id : String) :
    scope.walk stack (.binding id) = do return .binding (← scope.renameIdentifier id) := by
  rw [walk_eq_step]
  rfl

theorem walk_name (stack : List String) (id : String) :
    scope.walk stack (.name id) = do return .name (← scope.renameProperty id) := by
  rw [walk_eq_step]
  rfl

theorem walk_text (stack : List String) (value : String) (raw : Option String) :
    scope.walk stack (.text value raw) = do
      let new ← scope.replaceInLiteral value raw
      return .text new.1 new.2 := by
  rw [walk_eq_step]
  rfl

/-- A shorthand property that is a placeholder becomes what the property that it is short for becomes. -/
theorem walk_split {stack : List String} {id : String} (hw : (scope.registry.wholeToken? id).isSome) :
    scope.walk stack (.shorthand id) = scope.walk stack (.node .property [.name id, .ref id]) := by
  rw [walk_eq_step]
  exact if_pos hw

theorem walk_shorthand {stack : List String} {id : String} (hw : scope.registry.wholeToken? id = none) :
    scope.walk stack (.shorthand id) = do return .shorthand (← scope.renameIdentifier id) := by
  rw [walk_eq_step]
  exact if_neg (by simp [hw])

theorem walk_atom (stack : List String) (a : Atom) : scope.walk stack (.atom a) = pure (.atom a) := by
  rw [walk_eq_step]
  rfl

/-- A form is put together from what its parts become. -/
theorem walk_node {stack : List String} {kind : Kind} {parts : List Node}
    (hp : scope.placeholder? (.node kind parts) = none) :
    scope.walk stack (.node kind parts) = do return reassemble kind (← parts.mapM (scope.walk stack)) := by
  rw [walk_eq_step, step.eq_def, hp]

theorem walk_parts {stack : List String} {kind : Kind} {parts outs : List Node}
    (hp : scope.placeholder? (.node kind parts) = none)
    (h : List.Forall₂ (fun part out => (scope.walk stack part).result = .ok out) parts outs) :
    (scope.walk stack (.node kind parts)).result = .ok (reassemble kind outs) := by
  rw [walk_node hp]
  exact Logged.result_bind_pure ((Logged.mapM_result_ok_iff _ _ _).2 h)

/-! ## No visit goes on forever -/

theorem weight_lt_of_mem {part : Node} {parts : List Node} (h : part ∈ parts) : part.weight < Node.weights parts := by
  induction parts with
  | nil => simp at h
  | cons first rest ih =>
    simp only [Node.weights]
    rcases List.mem_cons.1 h with rfl | h
    · omega
    · have := ih h; omega

/-- Going inside, the names left to expand get fewer, or the tree gets lighter and no name is lost. -/
theorem descends_measure {v w : Visit} (h : scope.Descends v w) :
    Prod.Lex (· < ·) (· < ·) (scope.unexpanded w.stack, w.tree.weight) (scope.unexpanded v.stack, v.tree.weight) := by
  cases h with
  | replacement hp hs =>
    have := mem_names_of_placeholder? (placeholder?_eq_some_iff.2 ⟨_, hp⟩)
    exact Prod.Lex.left _ _ (unexpanded_cons_lt this hs)
  | shorthand => exact Prod.Lex.right _ (by simp [Node.weight, Node.weights])
  | part _ hm =>
    refine Prod.Lex.right _ ?_
    have := weight_lt_of_mem hm
    simp only [Node.weight]
    omega

theorem descends_wf (scope : Scope) : WellFounded fun inner outer => scope.Descends outer inner := by
  refine Subrelation.wf (r := InvImage (Prod.Lex (· < ·) (· < ·))
    fun v : Visit => (scope.unexpanded v.stack, v.tree.weight)) ?_ (InvImage.wf _ ?_)
  · exact descends_measure
  · exact (Prod.lex Nat.lt_wfRel Nat.lt_wfRel).wf

/-- What a visit does depends only on the visits directly inside it that take place. -/
theorem step_congr_of_enters {f g : List String → Node → Logged Node} {v : Visit}
    (h : ∀ w, scope.Enters f v w → f w.stack w.tree = g w.stack w.tree) :
    scope.step f v.stack v.tree = scope.step g v.stack v.tree := by
  obtain ⟨stack, tree⟩ := v
  simp only [step]
  split <;> rename_i hp
  · split
    · rfl
    · rename_i hs
      obtain ⟨place, hp⟩ := placeholder?_eq_some_iff.1 hp
      apply Logged.bind_congr_of_result
      intro r hr
      rw [expand_result hp] at hr
      split
      · rfl
      · rename_i hb
        exact h ⟨_, r⟩ (.replacement hp hs hr (by simpa using hb))
  · cases tree with
    | shorthand id =>
      simp only
      split
      · rename_i hw
        exact h _ (.shorthand hw)
      · rfl
    | node kind parts =>
      have hparts : parts.mapM (f stack) = parts.mapM (g stack) := by
        refine Logged.mapM_congr fun before part after heq hbefore => ?_
        subst heq
        exact h ⟨stack, part⟩ (.part hp hbefore)
      simp only [hparts]
    | _ => rfl

/-- What a visit does depends on the visits directly inside it only. -/
theorem step_congr {f g : List String → Node → Logged Node} {v : Visit}
    (h : ∀ w, scope.Descends v w → f w.stack w.tree = g w.stack w.tree) :
    scope.step f v.stack v.tree = scope.step g v.stack v.tree :=
  step_congr_of_enters fun w hw => h w hw.descends

/-! ## Induction on successful walks -/

/-- What holds where nothing is visited inside, and passes from the visits inside a tree to the tree, holds of
every successful walk. -/
theorem walk_ok_induction {P : List String → Node → Node → Prop}
    (leaf : ∀ stack tree place name r, scope.IsPlaceholder tree place name → name ∉ stack →
      scope.spliced place name = .ok r → r.isBareIdentifier = true → P stack tree r)
    (splice : ∀ stack tree place name r out, scope.IsPlaceholder tree place name → name ∉ stack →
      scope.spliced place name = .ok r → r.isBareIdentifier = false →
      (scope.walk (name :: stack) r).result = .ok out → P (name :: stack) r out → P stack tree out)
    (ref : ∀ stack id new, scope.placeholder? (.ref id) = none → (scope.renameIdentifier id).result = .ok new →
      P stack (.ref id) (.ref new))
    (binding : ∀ stack id new, (scope.renameIdentifier id).result = .ok new → P stack (.binding id) (.binding new))
    (name : ∀ stack id new, (scope.renameProperty id).result = .ok new → P stack (.name id) (.name new))
    (text : ∀ stack value raw new, (scope.replaceInLiteral value raw).result = .ok new →
      P stack (.text value raw) (.text new.1 new.2))
    (split : ∀ stack id out, (scope.registry.wholeToken? id).isSome →
      (scope.walk stack (.node .property [.name id, .ref id])).result = .ok out →
      P stack (.node .property [.name id, .ref id]) out → P stack (.shorthand id) out)
    (shorthand : ∀ stack id new, scope.registry.wholeToken? id = none → (scope.renameIdentifier id).result = .ok new →
      P stack (.shorthand id) (.shorthand new))
    (atom : ∀ stack a, P stack (.atom a) (.atom a))
    (node : ∀ stack kind parts outs, scope.placeholder? (.node kind parts) = none →
      List.Forall₂ (fun part out => (scope.walk stack part).result = .ok out ∧ P stack part out) parts outs →
      P stack (.node kind parts) (reassemble kind outs))
    {stack : List String} {tree out : Node} (h : (scope.walk stack tree).result = .ok out) : P stack tree out := by
  -- the tree does not get smaller where something is put in, so the induction is on visits
  suffices ∀ v : Visit, ∀ out, (scope.walk v.stack v.tree).result = .ok out → P v.stack v.tree out from
    this ⟨stack, tree⟩ out h
  intro v
  induction v using (descends_wf scope).induction with
  | _ v ih =>
  obtain ⟨stack, tree⟩ := v
  intro out h
  simp only [walk_eq_step stack tree] at h ih ⊢
  unfold step at h
  split at h <;> rename_i hp
  · obtain ⟨place, hp⟩ := placeholder?_eq_some_iff.1 hp
    split at h
    · simp at h
    · rename_i hs
      rw [Logged.bind_result, Logged.except_bind_ok_iff] at h
      obtain ⟨r, hr, h⟩ := h
      rw [expand_result hp] at hr
      split at h
      · rename_i hb
        cases h
        exact leaf _ _ _ _ _ hp hs hr hb
      · rename_i hb
        rw [Bool.not_eq_true] at hb
        exact splice _ _ _ _ _ _ hp hs hr hb h (ih _ (.replacement hp hs hr hb) _ h)
  · cases tree with
    | ref id =>
      simp only [Logged.bind_result, Logged.except_bind_ok_iff] at h
      obtain ⟨new, hn, h⟩ := h
      cases h
      exact ref _ _ _ hp hn
    | binding id =>
      simp only [Logged.bind_result, Logged.except_bind_ok_iff] at h
      obtain ⟨new, hn, h⟩ := h
      cases h
      exact binding _ _ _ hn
    | name id =>
      simp only [Logged.bind_result, Logged.except_bind_ok_iff] at h
      obtain ⟨new, hn, h⟩ := h
      cases h
      exact name _ _ _ hn
    | text value raw =>
      simp only [Logged.bind_result, Logged.except_bind_ok_iff] at h
      obtain ⟨new, hn, h⟩ := h
      cases h
      exact text _ _ _ _ hn
    | shorthand id =>
      simp only at h
      split at h
      · rename_i hw
        exact split _ _ _ hw h (ih _ (.shorthand hw) _ h)
      · rename_i hw
        simp only [Logged.bind_result, Logged.except_bind_ok_iff] at h
        obtain ⟨new, hn, h⟩ := h
        cases h
        exact shorthand _ _ _ (by simpa using hw) hn
    | atom a =>
      cases h
      exact atom _ _
    | node kind parts =>
      simp only [Logged.bind_result, Logged.except_bind_ok_iff, Logged.mapM_result_ok_iff] at h
      obtain ⟨outs, hall, h⟩ := h
      cases h
      have hparts := (List.forall₂_and_left _ _).2 ⟨fun part hm => ih ⟨stack, part⟩ (.part hp hm), hall⟩
      exact node _ _ _ _ hp (hparts.imp fun part out hw => ⟨hw.2, hw.1 out hw.2⟩)

end Scope

end Stencil
