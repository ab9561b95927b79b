import Stencil.Proofs.Monotone
import Stencil.Proofs.Untouched
/-!
# Live occurrences

An occurrence in a script is live if the walk asks for an argument there. A script without live occurrences is
rendered as it is, with the parentheses that callees need. Otherwise a rendering without arguments fails, and the
error names the placeholder of the first live occurrence in the order of the walk (`walk_missing`). `render_live` is
the statement about scripts.
-/

namespace Stencil

open Script

namespace Script.Node

/-! ## The order of the walk -/

mutual

/-- The nodes of a tree in the order in which they are visited, a form before its parts. The parts of a form stand in
that order: the members of a class before what it extends, the test of a `do` loop before its body, all others as they
are written. -/
def inWalkOrder : Node → List Node
  | .node kind parts => .node kind parts :: inWalkOrderAll parts
  | tree => [tree]

/-- The nodes of trees in the order in which they are visited. -/
def inWalkOrderAll : List Node → List Node
  | [] => []
  | tree :: rest => tree.inWalkOrder ++ inWalkOrderAll rest

end

variable {P : Node → Prop}

mutual

/-- The nodes that are listed are the nodes of the tree. -/
theorem everywhere_iff_inWalkOrder : (tree : Node) → (Everywhere P tree ↔ ∀ node ∈ tree.inWalkOrder, P node)
  | .ref _ | .binding _ | .name _ | .text _ _ | .shorthand _ | .atom _ => by simp [Everywhere, inWalkOrder]
  | .node kind parts => by rw [Everywhere, inWalkOrder, List.forall_mem_cons, everywhereIn_iff_inWalkOrderAll parts]

theorem everywhereIn_iff_inWalkOrderAll :
    (trees : List Node) → (EverywhereIn P trees ↔ ∀ node ∈ inWalkOrderAll trees, P node)
  | [] => by simp [EverywhereIn, inWalkOrderAll]
  | tree :: rest => by
    rw [EverywhereIn, inWalkOrderAll, List.forall_mem_append, everywhere_iff_inWalkOrder tree,
      everywhereIn_iff_inWalkOrderAll rest]

end

end Script.Node

namespace Scope

open Node

variable {scope : Scope}

/-! ## One occurrence -/

/-- The first declared name among the tokens of a text that the policy looks at. -/
def declaredIn? (scope : Scope) (text : String) : Option String :=
  (scope.policy.considered (Token.names text)).find? scope.registry.contains

/-- A token that is all of a text is looked at under every policy. -/
theorem declaredIn?_of_wholeToken? {id name : String} (h : scope.registry.wholeToken? id = some name) :
    scope.declaredIn? id = some name := by
  obtain ⟨hsegments, hname⟩ := segments_of_wholeToken? h
  cases hpolicy : scope.policy <;>
    simp [declaredIn?, Token.names, hsegments, hpolicy, SubstitutionPolicy.considered, hname]

/-- A live occurrence of a placeholder: a statement, an expression or a shorthand property that is one as a whole, or
a name or a literal in which the first declared token that the policy looks at is the token of one. -/
inductive Live (scope : Scope) : Node → String → Prop
  | placeholder {tree place name} (h : scope.IsPlaceholder tree place name) : Live scope tree name
  | shorthand {id name} (h : scope.registry.wholeToken? id = some name) : Live scope (.shorthand id) name
  | writing {leaf text name} (ht : leaf.writing? = some text) (h : scope.declaredIn? text = some name) :
      Live scope leaf name

/-- The name of the placeholder that occurs at a node. -/
def live? (scope : Scope) (tree : Node) : Option String :=
  (scope.placeholder? tree).or (tree.writing?.bind scope.declaredIn?)

theorem live?_eq_some_iff {tree : Node} {name : String} : scope.live? tree = some name ↔ scope.Live tree name := by
  constructor
  · intro h
    simp only [live?, Option.or_eq_some_iff, Option.bind_eq_some_iff] at h
    rcases h with h | ⟨-, text, ht, h⟩
    · obtain ⟨place, hp⟩ := placeholder?_eq_some_iff.1 h
      exact .placeholder hp
    · exact .writing ht h
  · intro h
    cases h with
    | placeholder hp => simp [live?, placeholder?_eq_some_iff.2 ⟨_, hp⟩]
    | shorthand h => exact declaredIn?_of_wholeToken? h
    | @writing _ text _ ht h =>
      cases hplaceholder : scope.placeholder? tree with
      | none => simp [live?, hplaceholder, ht, h]
      | some other =>
        -- a placeholder with a text is an expression, and its name is what is found in the text
        obtain ⟨place, hp⟩ := placeholder?_eq_some_iff.1 hplaceholder
        cases hp with
        | statement => cases ht
        | expression hw =>
          cases ht
          rw [← h, declaredIn?_of_wholeToken? hw]
          simp [live?, hplaceholder]

theorem live?_eq_none_iff {tree : Node} : scope.live? tree = none ↔ ∀ name, ¬ scope.Live tree name := by
  simp only [Option.eq_none_iff_forall_ne_some, ne_eq, live?_eq_some_iff]

/-- A visit of what is not live asks for no argument. -/
theorem untouched_of_not_live {tree : Node} (h : ∀ name, ¬ scope.Live tree name) : scope.Untouched tree := by
  have hundeclared : ∀ flavor text, tree.writing? = some text → scope.substitute flavor text = .ok none := by
    intro flavor text ht
    refine substitute_undeclared fun name hname => ?_
    have hnone : scope.declaredIn? text = none :=
      Option.eq_none_iff_forall_ne_some.2 fun other hother => h other (.writing ht hother)
    simpa using List.find?_eq_none.1 hnone name hname
  refine ⟨?placeholder, ?shorthand, ?identifier, ?literal⟩
  case placeholder =>
    refine Option.eq_none_iff_forall_ne_some.2 fun name hname => ?_
    obtain ⟨place, hp⟩ := placeholder?_eq_some_iff.1 hname
    exact h name (.placeholder hp)
  case shorthand =>
    rintro id rfl
    exact Option.eq_none_iff_forall_ne_some.2 fun name hw => h name (.shorthand hw)
  case identifier =>
    intro id hid
    refine hundeclared _ _ ?_
    cases tree with
    | text value raw => cases hid
    | _ => exact hid
  case literal =>
    rintro value raw rfl
    exact hundeclared _ _ rfl

theorem everywhere_untouched {tree : Node} (h : ∀ node ∈ tree.inWalkOrder, ∀ name, ¬ scope.Live node name) :
    tree.Everywhere scope.Untouched :=
  (everywhere_iff_inWalkOrder tree).2 fun node hm => untouched_of_not_live (h node hm)

/-! ## Without arguments -/

section
variable (hnothing : scope.arguments = [])
include hnothing

theorem argument_of_nothing (name : String) : scope.argument name = .error (.missingArgument name) := by
  rw [argument, hnothing]
  rfl

theorem spliced_of_nothing (place : Place) (name : String) :
    scope.spliced place name = .error (.missingArgument name) := by
  cases place <;> rw [spliced, argument_of_nothing hnothing] <;> rfl

/-- The error is about the first declared name in the text. -/
theorem substitute_of_nothing {flavor : Flavor} {text name : String} (h : scope.declaredIn? text = some name) :
    scope.substitute flavor text = .error (.missingArgument name) := by
  have hfailure : scope.failure? flavor = Option.map .missingArgument ∘ Option.guard scope.registry.contains := by
    funext other
    simp only [failure?, textOf, argument_of_nothing hnothing, Function.comp_apply, Option.guard]
    split <;> rfl
  rw [substitute_error_iff, hfailure, ← List.map_findSome?, ← List.find?_eq_findSome?_guard]
  exact congrArg _ h

theorem rename_of_nothing {what id name : String} (h : scope.declaredIn? id = some name) :
    (scope.rename what id).result = .error (.missingArgument name) := by
  simp [rename, substitute_of_nothing hnothing h]

theorem replaceInLiteral_of_nothing {value name : String} {raw : Option String}
    (h : scope.declaredIn? value = some name) :
    (scope.replaceInLiteral value raw).result = .error (.missingArgument name) := by
  simp [replaceInLiteral, substitute_of_nothing hnothing h]

/-- The walk fails at a live occurrence. -/
theorem walk_live {tree : Node} {name : String} (h : scope.Live tree name) :
    (scope.walk [] tree).result = .error (.missingArgument name) := by
  have hplaceholder : ∀ {tree place name}, scope.IsPlaceholder tree place name →
      (scope.walk [] tree).result = .error (.missingArgument name) := fun hp =>
    walk_unspliced hp (by simp) (spliced_of_nothing hnothing _ _)
  have hkey : ∀ {id name}, scope.declaredIn? id = some name →
      (scope.walk [] (.name id)).result = .error (.missingArgument name) := by
    intro id name h
    rw [walk_name]
    exact Logged.error_bind_pure (rename_of_nothing hnothing h)
  have hsplit : ∀ {id name}, scope.registry.wholeToken? id = some name →
      (scope.walk [] (.shorthand id)).result = .error (.missingArgument name) := by
    intro id name hw
    rw [walk_split (by simp [hw]), walk_node rfl, List.mapM_cons]
    simp [hkey (declaredIn?_of_wholeToken? hw)]
  cases h with
  | placeholder hp => exact hplaceholder hp
  | shorthand hw => exact hsplit hw
  | @writing _ text _ ht h =>
    -- a reference and a shorthand property may be a placeholder as a whole, whose name is then the one in the text
    cases tree with
    | ref id =>
      cases ht
      cases hw : scope.registry.wholeToken? text with
      | some other =>
        obtain rfl : name = other := by simpa [h] using declaredIn?_of_wholeToken? hw
        exact hplaceholder (.expression hw)
      | none =>
        rw [walk_ref hw]
        exact Logged.error_bind_pure (rename_of_nothing hnothing h)
    | shorthand id =>
      cases ht
      cases hw : scope.registry.wholeToken? text with
      | some other =>
        obtain rfl : name = other := by simpa [h] using declaredIn?_of_wholeToken? hw
        exact hsplit hw
      | none =>
        rw [walk_shorthand hw]
        exact Logged.error_bind_pure (rename_of_nothing hnothing h)
    | binding id =>
      cases ht
      rw [walk_binding]
      exact Logged.error_bind_pure (rename_of_nothing hnothing h)
    | name id =>
      cases ht
      exact hkey h
    | text value raw =>
      cases ht
      rw [walk_text]
      exact Logged.error_bind_pure (replaceInLiteral_of_nothing hnothing h)
    | atom a => cases ht
    | node kind parts => cases ht

end

mutual

/-- The walk fails at the first live occurrence. Nothing is put in before that, so the induction is on the tree. -/
theorem walk_missing (hnothing : scope.arguments = []) {name : String} :
    (tree : Node) → tree.inWalkOrder.findSome? scope.live? = some name →
      (scope.walk [] tree).result = .error (.missingArgument name)
  | .ref _, h | .binding _, h | .name _, h | .text _ _, h | .shorthand _, h | .atom _, h =>
    walk_live hnothing (live?_eq_some_iff.1 (by simpa [inWalkOrder] using h))
  | .node kind parts, h => by
    rw [inWalkOrder, List.findSome?_cons] at h
    cases hlive : scope.live? (.node kind parts) with
    | some other =>
      rw [hlive] at h
      cases h
      exact walk_live hnothing (live?_eq_some_iff.1 hlive)
    | none =>
      rw [hlive] at h
      rw [walk_node (untouched_of_not_live (live?_eq_none_iff.1 hlive)).placeholder]
      exact Logged.error_bind_pure (walkAll_missing hnothing parts h)

theorem walkAll_missing (hnothing : scope.arguments = []) {name : String} :
    (trees : List Node) → (inWalkOrderAll trees).findSome? scope.live? = some name →
      (trees.mapM (scope.walk [])).result = .error (.missingArgument name)
  | [], h => by cases h
  | tree :: rest, h => by
    rw [inWalkOrderAll, List.findSome?_append, Option.or_eq_some_iff] at h
    rw [List.mapM_cons]
    rcases h with h | ⟨hnone, h⟩
    · simp [walk_missing hnothing tree h]
    · -- what comes before the first live occurrence is walked without an error
      have hinert := List.findSome?_eq_none_iff.1 hnone
      rw [walk_untouched tree (everywhere_untouched fun node hm => live?_eq_none_iff.1 (hinert node hm)), pure_bind]
      exact Logged.error_bind_pure (walkAll_missing hnothing rest h)

end

/-! ## Scripts -/

/-- The first live occurrence in the order of the walk is one of that placeholder. -/
def FirstLive (scope : Scope) (script : Node) (name : String) : Prop :=
  ∃ before node after, script.inWalkOrder = before ++ node :: after ∧ scope.Live node name ∧
    ∀ earlier ∈ before, ∀ other, ¬ scope.Live earlier other

theorem firstLive_iff {script : Node} {name : String} :
    scope.FirstLive script name ↔ script.inWalkOrder.findSome? scope.live? = some name := by
  simp only [FirstLive, List.findSome?_eq_some_iff, live?_eq_some_iff, live?_eq_none_iff]

/-- Which occurrences are live does not depend on the arguments. -/
theorem live_withArguments {arguments : Arguments} {tree : Node} {name : String} :
    (scope.withArguments arguments).Live tree name ↔ scope.Live tree name := by
  rw [← live?_eq_some_iff, ← live?_eq_some_iff]
  rfl

/-- If a script has no live occurrence, rendering succeeds with any arguments and gives the script with parentheses
around the callees of `new` that have a call in their chain, and rendering that changes nothing. If it has one,
rendering without arguments fails, and the argument that is missing is that of the first live occurrence. -/
theorem render_live (scope : Scope) (script : Node) :
    script.GuardsCallees script.guarded ∧
    ((∀ node ∈ script.inWalkOrder, ∀ name, ¬ scope.Live node name) → ∀ arguments,
      (scope.withArguments arguments).render script = pure script.guarded ∧
      (scope.withArguments arguments).render script.guarded = pure script.guarded) ∧
    ((∃ node ∈ script.inWalkOrder, ∃ name, scope.Live node name) → ∃ name, scope.FirstLive script name ∧
      ((scope.withArguments []).render script).result = .error (.missingArgument name)) := by
  refine ⟨guardsCallees_guarded script, fun h arguments => ?_, ?_⟩
  · have huntouched : script.Everywhere (scope.withArguments arguments).Untouched :=
      everywhere_untouched fun node hm name hlive => h node hm name (live_withArguments.1 hlive)
    refine ⟨walk_untouched script huntouched, ?_⟩
    calc (scope.withArguments arguments).render script.guarded
        = pure script.guarded.guarded := walk_untouched _ (everywhere_untouched_guarded script huntouched)
      _ = pure script.guarded := by rw [guarded_guarded]
  · rintro ⟨node, hm, name, hlive⟩
    obtain ⟨first, hfirst⟩ : ∃ first, script.inWalkOrder.findSome? scope.live? = some first := by
      refine Option.ne_none_iff_exists'.1 fun hnone => ?_
      exact live?_eq_none_iff.1 (List.findSome?_eq_none_iff.1 hnone node hm) name hlive
    exact ⟨first, firstLive_iff.2 hfirst, walk_missing rfl script hfirst⟩

/-- Tokens that overlap the token of a placeholder or stand before it, and a callee that is made with `new`. -/
def overlapping : Node :=
  .ofStatements [.statement (.node (.new true)
    [.node (.new true) [.ref "f", .ref "$Z$A$"], .text "$Z$ $A$" (some "'$Z$ $A$'")])]

/-- A placeholder in what a class extends and in the body of a loop, and another one in the test of the loop. -/
def backwards : Node :=
  .ofStatements [.node .classDeclaration [.binding "K",
    .node .members [.node (.classMethod false (.method {})) [.name "m", .node .parameters [],
      .node .block [.node .doWhile [.ref "$B$", .statement (.ref "$A$")]]]], .ref "$A$"]]

/-- Two placeholders under the policy `first`. -/
def firstTokens : Scope := ⟨⟨[("A", ""), ("B", "")]⟩, [], .first⟩

theorem render_overlapping_backwards :
    (Script.parse "new new f($Z$A$)('$Z$ $A$');" false).toOption.map (·.script) = some overlapping ∧
    (∀ arguments, (firstTokens.withArguments arguments).render overlapping =
      pure (.ofStatements [.statement (.node (.new true) [.parenthesized (.node (.new true) [.ref "f", .ref "$Z$A$"]),
        .text "$Z$ $A$" (some "'$Z$ $A$'")])])) ∧
    (Script.parse "class K extends $A$ \x7b m() \x7b do $A$; while ($B$); \x7d \x7d" false).toOption.map (·.script) =
      some backwards ∧
    ((firstTokens.withArguments []).render backwards).result = .error (.missingArgument "B") := by
  have hinert : ∀ node ∈ overlapping.inWalkOrder, ∀ name, ¬ firstTokens.Live node name := by
    have hnone : ∀ node ∈ overlapping.inWalkOrder, firstTokens.live? node = none := by decide +kernel
    exact fun node hm => live?_eq_none_iff.1 (hnone node hm)
  have hfirst : backwards.inWalkOrder.findSome? firstTokens.live? = some "B" := by decide +kernel
  have hlive : ∃ node ∈ backwards.inWalkOrder, ∃ name, firstTokens.Live node name :=
    ⟨.ref "$A$", by decide +kernel, "A", .placeholder (.expression (by decide +kernel))⟩
  refine ⟨by decide +kernel, fun arguments => ?_, by decide +kernel, ?_⟩
  · rw [((render_live firstTokens overlapping).2.1 hinert arguments).1]
    rfl
  · obtain ⟨name, hname, herror⟩ := (render_live firstTokens backwards).2.2 hlive
    obtain rfl : name = "B" := by simpa [hfirst] using (firstLive_iff.1 hname).symm
    exact herror

end Scope

end Stencil
