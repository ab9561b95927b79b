import Stencil.Proofs.Everywhere
/-!
# Statements as bodies of others

A statement that stands by itself as the body of another one must not be a declaration, and the body of an `if`
must not take an `else` that follows it for its own. `WellNested` asks this of every node. Both rules are stated
with a way to look at a body: looking at it as it is gives the rules for trees, and looking through placeholders,
with `resolve`, gives the rules that decide what rendering makes of them. `walk_mirrors` says that a place sees
the same through a placeholder before the walk as it sees after it, and `render_wellNested_iff` is the exact
condition: what is rendered is well-nested if and only if the rules hold through placeholders wherever the walk
gets. Nothing in the walk sees to it.
-/

namespace Stencil

open Script

namespace Script

/-! ## The rules -/

/-- Whether a part of a form is a statement that stands by itself. -/
def Kind.isBody : Kind → Nat → Bool
  | .ifElse, i => i = 1 || i = 2
  | .forLoop, i => i = 3
  | .forIn, i | .forOf _, i => i = 2
  | .whileLoop, i | .doWhile, i | .withScope, i | .labelled, i => i = 1
  | _, _ => false

/-- Whether the text of a form ends with a part that is a statement by itself. -/
def Kind.endsWith : Kind → Nat → Bool
  | .ifElse, i => i = 2
  | .doWhile, _ => false
  | kind, i => kind.isBody i

/-- Whether a form is a declaration that is no body of another one. A label stands before functions too. -/
def Kind.isBannedIn (kind outer : Kind) : Bool :=
  match kind with
  | .variableList .lexical | .variableList .constant | .classDeclaration => true
  | .functionDeclaration _ => outer != .labelled
  | _ => false

namespace Node

/-- Whether a tree is a declaration that is no body of a form. -/
def isBanned (outer : Kind) : Node → Bool
  | .node kind _ => kind.isBannedIn outer
  | _ => false

/-- A statement ends in an `if` that has no `else`, so it takes one that follows. -/
inductive EndsOpen (look : Node → Node) : Node → Prop
  | noElse {parts alternative} (hm : (alternative, 2) ∈ parts.zipIdx) (h : look alternative = .absent) :
      EndsOpen look (.node .ifElse parts)
  | inside {kind parts part i} (hm : (part, i) ∈ parts.zipIdx) (hi : kind.endsWith i = true)
      (h : EndsOpen look (look part)) : EndsOpen look (.node kind parts)

/-- No body of a form is a declaration, and an `else` follows no consequent that would take it. -/
def Nested (look : Node → Node) : Node → Prop
  | .node kind parts =>
    (∀ p ∈ parts.zipIdx, kind.isBody p.2 = true → (look p.1).isBanned kind = false) ∧
    (kind = .ifElse → (∃ p ∈ parts.zipIdx, p.2 = 2 ∧ look p.1 ≠ .absent) →
      ∀ p ∈ parts.zipIdx, p.2 = 1 → ¬ EndsOpen look (look p.1))
  | _ => True

/-- Every statement may stand where it does, and every `else` belongs to the `if` it is a part of. -/
def WellNested (tree : Node) : Prop := tree.Everywhere (Nested id)

/-! ## The rules can be checked -/

theorem endsOpen_node_iff {look : Node → Node} {kind : Kind} {parts : List Node} :
    EndsOpen look (.node kind parts) ↔
      (kind = .ifElse ∧ ∃ p ∈ parts.zipIdx, p.2 = 2 ∧ look p.1 = .absent) ∨
        ∃ p ∈ parts.zipIdx, kind.endsWith p.2 = true ∧ EndsOpen look (look p.1) := by
  constructor
  · intro h
    cases h with
    | noElse hm h => exact .inl ⟨rfl, _, hm, rfl, h⟩
    | inside hm hi h => exact .inr ⟨_, hm, hi, h⟩
  · rintro (⟨rfl, ⟨part, i⟩, hm, rfl, h⟩ | ⟨⟨part, i⟩, hm, hi, h⟩)
    · exact .noElse hm h
    · exact .inside hm hi h

mutual

/-- Follows a statement to its end. -/
def decideEndsOpen : (tree : Node) → Decidable (EndsOpen id tree)
  | .node kind parts =>
    have := decideAnyEndsOpen kind 0 parts
    decidable_of_iff' _ endsOpen_node_iff
  | .ref _ | .binding _ | .name _ | .text _ _ | .shorthand _ | .atom _ => .isFalse nofun

/-- Follows the parts with which a form ends; they are counted from a number. -/
def decideAnyEndsOpen (kind : Kind) (i : Nat) :
    (parts : List Node) → Decidable (∃ p ∈ parts.zipIdx i, kind.endsWith p.2 = true ∧ EndsOpen id (id p.1))
  | [] => .isFalse (by simp)
  | part :: rest =>
    have := decideEndsOpen part
    have := decideAnyEndsOpen kind (i + 1) rest
    decidable_of_iff ((kind.endsWith i = true ∧ EndsOpen id part) ∨
      ∃ p ∈ rest.zipIdx (i + 1), kind.endsWith p.2 = true ∧ EndsOpen id (id p.1)) (by simp)

end

instance : DecidablePred (EndsOpen id) := decideEndsOpen

instance : DecidablePred (Nested id)
  | .node kind parts => inferInstanceAs (Decidable
      ((∀ p ∈ parts.zipIdx, kind.isBody p.2 = true → (id p.1).isBanned kind = false) ∧
      (kind = .ifElse → (∃ p ∈ parts.zipIdx, p.2 = 2 ∧ id p.1 ≠ .absent) →
        ∀ p ∈ parts.zipIdx, p.2 = 1 → ¬ EndsOpen id (id p.1))))
  | .ref _ | .binding _ | .name _ | .text _ _ | .shorthand _ | .atom _ => .isTrue trivial

instance : DecidablePred WellNested := fun tree => inferInstanceAs (Decidable (tree.Everywhere (Nested id)))

/-! ## Trees that no rule is about -/

/-- A tree that is no declaration and does not end open, however its bodies are looked at. -/
structure Inert (tree : Node) : Prop where
  banned : ∀ kind, tree.isBanned kind = false
  present : tree ≠ .absent
  endsOpen : ∀ look, ¬ EndsOpen look tree

/-- A form without bodies is of no interest to the rules. -/
theorem not_endsOpen_of_isBody {kind : Kind} (h : ∀ i, kind.isBody i = false) (look : Node → Node)
    (parts : List Node) : ¬ EndsOpen look (.node kind parts) := by
  intro hopen
  cases hopen with
  | noElse => cases h 1
  | @inside _ _ _ i _ hi _ =>
    have : kind.endsWith i = kind.isBody i := by
      unfold Kind.endsWith
      split
      · cases h 1
      · cases h 1
      · rfl
    rw [this, h i] at hi
    cases hi

theorem nested_of_isBody {kind : Kind} (h : ∀ i, kind.isBody i = false) (look : Node → Node) (parts : List Node) :
    Nested look (.node kind parts) := by
  refine ⟨fun p _ hp => ?_, ?_⟩
  · rw [h] at hp
    cases hp
  · rintro rfl
    cases h 1

theorem inert_node {kind : Kind} {parts : List Node} (h : ∀ i, kind.isBody i = false)
    (hb : ∀ k, (Node.node kind parts).isBanned k = false) : Inert (.node kind parts) :=
  ⟨hb, nofun, fun look => not_endsOpen_of_isBody h look parts⟩

theorem inert_leaf {tree : Node} (h : tree.kind? = none) (hp : tree.isAbsent = false) : Inert tree := by
  refine ⟨fun outer => ?_, ?_, fun look hopen => ?_⟩
  · cases tree <;> trivial
  · rintro rfl
    cases hp
  · cases hopen <;> cases h

theorem inert_of_isBareIdentifier {tree : Node} (h : tree.isBareIdentifier = true) : Inert tree := by
  unfold isBareIdentifier at h
  split at h
  · exact inert_leaf rfl rfl
  · exact inert_node (fun _ => rfl) fun _ => rfl
  · cases h

/-- An expression with the parentheses that it gets is no statement. -/
theorem inert_guardPrecedence (e : Node) : Inert (guardPrecedence e) := by
  unfold guardPrecedence
  split <;> rename_i hself
  · unfold isSelfContained at hself
    split at hself
    · exact inert_leaf rfl rfl
    · exact inert_leaf rfl rfl
    · rename_i a
      cases a with
      | absent => cases hself
      | _ => exact inert_leaf rfl rfl
    · split at hself <;> simp only [Bool.false_eq_true] at hself <;> exact inert_node (fun _ => rfl) fun _ => rfl
    · cases hself
  · exact inert_node (fun _ => rfl) fun _ => rfl

end Node

end Script

namespace Scope

open Node

variable {scope : Scope}

/-! ## Looking through placeholders -/

/-- A tree as it is, or what is put in its place if it is a placeholder for a statement. -/
def resolve (scope : Scope) (tree : Node) : Node :=
  match scope.statementPlaceholder? tree with
  | some placeholder =>
    match scope.spliced .statement placeholder with
    | .ok r => r
    | .error _ => tree
  | none => tree

theorem resolve_placeholder {tree r : Node} {name : String} (h : scope.IsPlaceholder tree .statement name)
    (hr : scope.spliced .statement name = .ok r) : scope.resolve tree = r := by
  cases h with
  | statement h => simp [resolve, statementPlaceholder?, expressionPlaceholder?, Node.statement, h, hr]

theorem resolve_of_none {tree : Node} (h : scope.placeholder? tree = none) : scope.resolve tree = tree := by
  simp only [placeholder?, Option.or_eq_none_iff] at h
  simp [resolve, h.1]

theorem resolve_of_not_bare {tree : Node} (h : tree.isBareIdentifier = false) : scope.resolve tree = tree := by
  apply resolve_of_none
  apply Option.eq_none_iff_forall_ne_some.2
  intro name hp
  obtain ⟨place, hp⟩ := placeholder?_eq_some_iff.1 hp
  cases hp <;> cases h

/-- What a place sees of `tree` through placeholders is what it sees of `out`. -/
structure Mirrors (scope : Scope) (tree out : Node) : Prop where
  banned : ∀ kind, tree.isBanned kind = false ↔ out.isBanned kind = false
  absent : tree = .absent ↔ out = .absent
  endsOpen : EndsOpen scope.resolve tree ↔ EndsOpen id out

theorem mirrors_atom (a : Atom) : scope.Mirrors (.atom a) (.atom a) :=
  ⟨fun _ => Iff.rfl, Iff.rfl, iff_of_false nofun nofun⟩

theorem mirrors_inert {tree out : Node} (htree : Inert tree) (hout : Inert out) : scope.Mirrors tree out where
  banned kind := iff_of_true (htree.banned kind) (hout.banned kind)
  absent := iff_of_false htree.present hout.present
  endsOpen := iff_of_false (htree.endsOpen _) (hout.endsOpen _)

/-- Of trees that no rule is about, places see the same. -/
theorem Mirrors.of_inert {tree other out : Node} (h : scope.Mirrors other out) (hother : Inert other)
    (htree : Inert tree) : scope.Mirrors tree out where
  banned kind := by rw [← h.banned]; exact iff_of_true (htree.banned kind) (hother.banned kind)
  absent := by rw [← h.absent]; exact iff_of_false htree.present hother.present
  endsOpen := by rw [← h.endsOpen]; exact iff_of_false (htree.endsOpen _) (hother.endsOpen _)

section Parts
variable {kind : Kind} {parts outs : List Node}

theorem endsOpen_congr (h : List.Forall₂ (fun part out => scope.Mirrors (scope.resolve part) out) parts outs) :
    EndsOpen scope.resolve (.node kind parts) ↔ EndsOpen id (.node kind outs) := by
  rw [endsOpen_node_iff, endsOpen_node_iff]
  refine or_congr (and_congr_right fun _ => ?_) ?_
  · exact exists_zipIdx_congr h (· = 2) fun x y hr => hr.absent
  · exact exists_zipIdx_congr h (kind.endsWith · = true) fun x y hr => hr.endsOpen

theorem nested_congr (h : List.Forall₂ (fun part out => scope.Mirrors (scope.resolve part) out) parts outs) :
    Nested scope.resolve (.node kind parts) ↔ Nested id (.node kind outs) := by
  refine and_congr ?_ (imp_congr_right fun _ => imp_congr ?_ ?_)
  · exact forall_zipIdx_congr h (kind.isBody · = true) fun x y hr => hr.banned kind
  · exact exists_zipIdx_congr h (· = 2) fun x y hr => not_congr hr.absent
  · exact forall_zipIdx_congr h (· = 1) fun x y hr => not_congr hr.endsOpen

end Parts

/-! ## The walk -/

/-- A form that is put together from walked parts looks as it did. -/
theorem mirrors_reassemble {kind : Kind} {parts outs : List Node}
    (h : List.Forall₂ (fun part out => scope.Mirrors (scope.resolve part) out) parts outs) :
    scope.Mirrors (.node kind parts) (reassemble kind outs) := by
  rcases reassemble_cases kind outs with heq | ⟨hasArguments, callee, args, rfl, -, heq⟩ <;> rw [heq]
  · exact ⟨fun _ => Iff.rfl, iff_of_false nofun nofun, endsOpen_congr h⟩
  · exact mirrors_inert (inert_node (fun _ => rfl) fun _ => rfl) (inert_node (fun _ => rfl) fun _ => rfl)

/-- What a place sees through a placeholder before the walk is what it sees after it. -/
theorem walk_mirrors {stack : List String} {tree out : Node} (h : (scope.walk stack tree).result = .ok out) :
    scope.Mirrors (scope.resolve tree) out := by
  refine walk_ok_induction (P := fun _ tree out => scope.Mirrors (scope.resolve tree) out)
    ?leaf ?splice ?ref ?binding ?name ?text ?split ?shorthand ?atom ?node h
  case leaf =>
    intro _ tree place name r hp _ hr hb
    have hout : Inert r := inert_of_isBareIdentifier hb
    cases hp with
    | statement h => rw [resolve_placeholder (.statement h) hr]; exact mirrors_inert hout hout
    | expression => exact mirrors_inert (inert_leaf rfl rfl) hout
  case splice =>
    intro _ tree place name r out hp _ hr hb _ ih
    -- what is walked further is no placeholder itself: that would be a single identifier
    rw [resolve_of_not_bare hb] at ih
    cases hp with
    | statement h => rwa [resolve_placeholder (.statement h) hr]
    | expression =>
      obtain ⟨e, -, rfl⟩ := spliced_expression_ok hr
      exact ih.of_inert (inert_guardPrecedence e) (inert_leaf rfl rfl)
  case split =>
    intro _ id out _ _ ih
    exact ih.of_inert (inert_node (fun _ => rfl) fun _ => rfl) (inert_leaf rfl rfl)
  case node =>
    intro _ kind parts outs hp hall
    rw [resolve_of_none hp]
    exact mirrors_reassemble (hall.imp fun _ _ hw => hw.2)
  case atom => exact fun _ a => mirrors_atom a
  -- the other leaves are no statements
  all_goals
    intros
    exact mirrors_inert (inert_leaf rfl rfl) (inert_leaf rfl rfl)

theorem nested_reassemble {kind : Kind} {parts outs : List Node}
    (h : List.Forall₂ (fun part out => scope.Mirrors (scope.resolve part) out) parts outs) :
    Nested id (reassemble kind outs) ↔ Nested scope.resolve (.node kind parts) := by
  rcases reassemble_cases kind outs with heq | ⟨hasArguments, callee, args, rfl, -, heq⟩ <;> rw [heq]
  · exact (nested_congr h).symm
  · exact iff_of_true (nested_of_isBody (fun _ => rfl) _ _) (nested_of_isBody (fun _ => rfl) _ _)

theorem nested_placeholder {tree : Node} {place : Place} {name : String} (h : scope.IsPlaceholder tree place name)
    (look : Node → Node) : Nested look tree := by
  cases h with
  | statement => exact nested_of_isBody (fun _ => rfl) _ _
  | expression => trivial

theorem wellNested_of_isBareIdentifier {tree : Node} (h : tree.isBareIdentifier = true) : WellNested tree := by
  unfold isBareIdentifier at h
  split at h
  · trivial
  · exact ⟨nested_of_isBody (fun _ => rfl) _ _, trivial, trivial⟩
  · cases h

/-- A visit with one way to go on, where the rules hold, adds nothing to what they ask. -/
theorem forall_visits_single {v w : Visit} (hv : Nested scope.resolve v.tree) (hw : scope.Descends v w)
    (hone : ∀ u, scope.Descends v u → u = w) :
    (∀ u, Relation.ReflTransGen scope.Descends w u → Nested scope.resolve u.tree) ↔
      ∀ u, Relation.ReflTransGen scope.Descends v u → Nested scope.resolve u.tree := by
  rw [forall_visits_iff (v := v)]
  constructor
  · intro h
    refine ⟨hv, fun u hu => ?_⟩
    rw [hone u hu]
    exact h
  · intro h
    exact h.2 w hw

/-- What a walk gives is well-nested if and only if the rules hold through placeholders at every visit inside it. -/
theorem walk_wellNested_iff {stack : List String} {tree out : Node} (h : (scope.walk stack tree).result = .ok out) :
    WellNested out ↔ ∀ w, Relation.ReflTransGen scope.Descends ⟨stack, tree⟩ w → Nested scope.resolve w.tree := by
  refine walk_ok_induction (P := fun stack tree out => WellNested out ↔
    ∀ w, Relation.ReflTransGen scope.Descends ⟨stack, tree⟩ w → Nested scope.resolve w.tree)
    ?leaf ?splice ?ref ?binding ?name ?text ?split ?shorthand ?atom ?node h
  all_goals clear h
  case leaf =>
    intro stack tree place name r hp _ hr hb
    refine iff_of_true (wellNested_of_isBareIdentifier hb) (forall_visits_iff.2 ⟨nested_placeholder hp _, ?_⟩)
    intro w hw
    rw [(descends_placeholder hp hr hw).1] at hb
    cases hb
  case splice =>
    intro stack tree place name r out hp hs hr hb _ ih
    rw [ih]
    exact forall_visits_single (nested_placeholder hp _) (.replacement hp hs hr hb)
      fun u hu => (descends_placeholder hp hr hu).2
  case split =>
    intro stack id out hw _ ih
    rw [ih]
    refine forall_visits_single trivial (.shorthand hw) fun u hu => ?_
    cases hu with
    | replacement hp => cases hp
    | shorthand => rfl
  case node =>
    intro stack kind parts outs hp hall
    have hmirrors : List.Forall₂ (fun part out => scope.Mirrors (scope.resolve part) out) parts outs :=
      hall.imp fun _ _ hw => walk_mirrors hw.1
    -- the rules at the form itself, and at all visits from its parts on
    have hparts := forall_mem_congr hall fun _ _ hw => hw.2.symm
    rw [forall_visits_iff, WellNested, everywhere_reassemble, nested_reassemble hmirrors]
    · refine and_congr_right fun _ => Iff.trans hparts.symm ?_
      simp only [descends_node hp]
      constructor
      · rintro h _ ⟨part, hm, rfl⟩
        exact h part hm
      · intro h part hm
        exact h _ ⟨part, hm, rfl⟩
    · rintro _ callee _ - -
      exact nested_of_isBody (fun _ => rfl) _ _
  case ref =>
    intro stack id new hp _
    refine iff_of_true trivial (forall_visits_iff.2 ⟨trivial, fun w hw => ?_⟩)
    cases hw with
    | replacement hp' => rw [placeholder?_eq_some_iff.2 ⟨_, hp'⟩] at hp; cases hp
  case shorthand =>
    intro stack id new hw _
    refine iff_of_true trivial (forall_visits_iff.2 ⟨trivial, fun w hw' => ?_⟩)
    cases hw' with
    | replacement hp => cases hp
    | shorthand h => rw [hw] at h; cases h
  -- no visit takes place inside the other leaves
  all_goals
    intros
    refine iff_of_true trivial (forall_visits_iff.2 ⟨trivial, fun w hw => ?_⟩)
    cases hw with
    | replacement hp => cases hp

/-- What is rendered is well-nested if and only if, wherever the walk gets, no body is a declaration and no `else`
follows a consequent that takes it, looking through the placeholders. -/
theorem render_wellNested_iff (scope : Scope) (script out : Node) (h : (scope.render script).result = .ok out) :
    WellNested out ↔ ∀ v, scope.Reaches script v → Nested scope.resolve v.tree :=
  walk_wellNested_iff h

/-- An `if` with an `else` around a placeholder. -/
def branching : Node :=
  .ofStatements [.node .ifElse [.ref "a", .statement (.ref "$S$"), .statement (.node (.call .plain) [.ref "b"])]]

/-- An argument that is an `if` without `else`. -/
def openArgument : Scope := ⟨⟨[("S", "")]⟩, [("S", .ofText "if (x) y();")], .all⟩

/-- The same with the argument in its place, where it takes the `else`. -/
def branchingTaken : Node :=
  .ofStatements [.node .ifElse [.ref "a",
    .node .ifElse [.ref "x", .statement (.node (.call .plain) [.ref "y"]), .absent],
    .statement (.node (.call .plain) [.ref "b"])]]

theorem render_branching : (openArgument.render branching).result = .ok branchingTaken := by
  rw [render, walk_eq_iterate 20]
  decide +kernel

theorem render_branching_visit : (openArgument.render branching).result = .ok branchingTaken ∧
    ∃ v, openArgument.Reaches branching v ∧ ¬ Nested openArgument.resolve v.tree := by
  have hnot : ¬ WellNested branchingTaken := by decide
  rw [render_wellNested_iff _ _ _ render_branching] at hnot
  simp only [not_forall] at hnot
  obtain ⟨v, hv, hnested⟩ := hnot
  exact ⟨render_branching, v, hv, hnested⟩

/-- Rendering does not keep trees well-nested. -/
theorem render_branching_not_wellNested : WellNested branching ∧ openArgument.ArgumentScripts WellNested ∧
    ∃ out, (openArgument.render branching).result = .ok out ∧ ¬ WellNested out :=
  ⟨by decide, argumentScripts_of_entries (by decide +kernel), branchingTaken, render_branching, by decide⟩

end Scope

end Stencil
