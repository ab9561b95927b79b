import Stencil.Proofs.Substitution
import Stencil.Proofs.Walk
import Stencil.Template
/-!
# Which arguments lead back to themselves

The walk finds recursion with a stack of names. Here the same thing is said without a walk, as a graph: a
reference is a name in a kind of place, and it leads to the references that the tree put there mentions.
`ReturnsTo` ties the two: following references from a place, a name on the stack is met again. `walk_explained` is
the invariant of the walk, `circularAt_of_returnsTo` and its converse say what it means for the graph, and
`renderWith_ok_iff_not_circular` is the statement: if all arguments are supplied and can be read, rendering
succeeds exactly if no reference that the script leads to leads back to its own name.
-/

namespace Stencil.Scope

open Script Relation

variable {scope : Scope}

/-! ## The graph -/

/-- A name in a kind of place. -/
structure Reference where
  name : String
  place : Place

/-- The whole placeholders in a tree, apart from those inside one. -/
inductive Mentions (scope : Scope) : Node → Reference → Prop
  | placeholder {tree place name} (h : scope.IsPlaceholder tree place name) : Mentions scope tree ⟨name, place⟩
  | shorthand {id name} (h : scope.registry.wholeToken? id = some name) :
      Mentions scope (.shorthand id) ⟨name, .expression⟩
  | part {kind parts part ref} (hp : scope.placeholder? (.node kind parts) = none) (hm : part ∈ parts)
      (h : Mentions scope part ref) : Mentions scope (.node kind parts) ref

/-- A reference leads to those in the tree that is put in its place, unless that is a single identifier. -/
def Leads (scope : Scope) (a b : Reference) : Prop :=
  ∃ r, scope.spliced a.place a.name = .ok r ∧ r.isBareIdentifier = false ∧ scope.Mentions r b

/-- The references that a script leads to, in any number of steps. -/
def Reachable (scope : Scope) (script : Node) (b : Reference) : Prop :=
  ∃ a, scope.Mentions script a ∧ ReflTransGen scope.Leads a b

/-- A script leads to a reference that leads back to its own name. -/
def CircularAt (scope : Scope) (script : Node) (name : String) : Prop :=
  ∃ p q, scope.Reachable script ⟨name, p⟩ ∧ TransGen scope.Leads ⟨name, p⟩ ⟨name, q⟩

/-- Every declared name has an argument that gives a text for each flavor in use, and scripts where trees are
wanted. -/
def Supplied (scope : Scope) : Prop :=
  ∀ name ∈ scope.registry.names, ∃ a, scope.arguments.find? name = some a ∧
    (∀ flavor ∈ [Flavor.statement, .expression, .identifier, .literal], (a.flavor? flavor).isSome) ∧
    (∃ body, a.statements .statement = .ok body) ∧ ∃ body, a.statements .expression = .ok body

/-- Following references from one, with the names of a stack open, an open name is met again. -/
inductive ReturnsTo (scope : Scope) : List String → Reference → String → Prop
  | here {stack ref} (h : ref.name ∈ stack) : ReturnsTo scope stack ref ref.name
  | inside {stack ref next name} (hs : ref.name ∉ stack) (hl : scope.Leads ref next)
      (h : ReturnsTo scope (ref.name :: stack) next name) : ReturnsTo scope stack ref name

/-! ## What a tree mentions -/

theorem mentions_placeholder {tree : Node} {place : Place} {name : String} (h : scope.IsPlaceholder tree place name)
    {ref : Reference} : scope.Mentions tree ref ↔ ref = ⟨name, place⟩ := by
  constructor
  · intro hm
    cases hm with
    | placeholder h' => cases h <;> cases h' <;> simp_all
    | shorthand => cases h
    | part hp => rw [placeholder?_eq_some_iff.2 ⟨place, h⟩] at hp; cases hp
  · rintro rfl
    exact .placeholder h

theorem mentions_part {kind : Kind} {parts : List Node} (hp : scope.placeholder? (.node kind parts) = none)
    {ref : Reference} : scope.Mentions (.node kind parts) ref ↔ ∃ part ∈ parts, scope.Mentions part ref := by
  constructor
  · intro hm
    cases hm with
    | placeholder h => rw [placeholder?_eq_some_iff.2 ⟨_, h⟩] at hp; cases hp
    | part _ hm h => exact ⟨_, hm, h⟩
  · rintro ⟨part, hm, h⟩
    exact .part hp hm h

theorem mentions_shorthand {id : String} {ref : Reference} :
    scope.Mentions (.shorthand id) ref ↔ scope.Mentions (.node .property [.name id, .ref id]) ref := by
  rw [mentions_part rfl]
  constructor
  · intro hm
    cases hm with
    | placeholder h => cases h
    | shorthand h => exact ⟨.ref id, by simp, .placeholder (.expression h)⟩
  · rintro ⟨part, hm, h⟩
    simp only [List.mem_cons, List.not_mem_nil, or_false] at hm
    rcases hm with rfl | rfl
    · cases h with | placeholder h => cases h
    · cases h with | placeholder h => cases h with | expression h => exact .shorthand h

/-- A leaf that is no placeholder mentions nothing. -/
theorem not_mentions_leaf {tree : Node} (hp : scope.placeholder? tree = none) (hn : ∀ kind parts, tree ≠ .node kind parts)
    (hs : ∀ id, tree ≠ .shorthand id) (ref : Reference) : ¬ scope.Mentions tree ref := by
  intro hm
  cases hm with
  | placeholder h => rw [placeholder?_eq_some_iff.2 ⟨_, h⟩] at hp; cases hp
  | shorthand => exact hs _ rfl
  | part => exact hn _ _ rfl

/-! ## What is supplied -/

theorem textOf_ok (h : scope.Supplied) {flavor : Flavor} (hf : flavor ∈ [Flavor.identifier, .literal]) {name : String}
    (hn : name ∈ scope.registry.names) : ∃ text, scope.textOf flavor name = .ok text := by
  obtain ⟨a, ha, htext, -⟩ := h name hn
  have hflavor : flavor ∈ [Flavor.statement, .expression, .identifier, .literal] := by
    simp only [List.mem_cons, List.not_mem_nil, or_false] at hf ⊢
    tauto
  obtain ⟨text, ht⟩ := Option.isSome_iff_exists.1 (htext flavor hflavor)
  exact ⟨text, by simp [textOf, argument, ha, Argument.toText, ht]⟩

theorem substitute_ok (h : scope.Supplied) {flavor : Flavor} (hf : flavor ∈ [Flavor.identifier, .literal])
    (text : String) : ∃ s, scope.substitute flavor text = .ok s :=
  substitute_ok_of_textOf (fun _ hn => textOf_ok h hf hn) text

theorem rename_ok (h : scope.Supplied) (what name : String) : ∃ new, (scope.rename what name).result = .ok new := by
  obtain ⟨s, hs⟩ := substitute_ok h (show Flavor.identifier ∈ [Flavor.identifier, .literal] by simp) name
  simp only [rename, Logged.bind_result, Logged.lift_result, hs, Logged.except_ok_bind]
  cases s with
  | none => exact ⟨_, rfl⟩
  | some new => exact ⟨new, rfl⟩

theorem replaceInLiteral_ok (h : scope.Supplied) (value : String) (raw : Option String) :
    ∃ new, (scope.replaceInLiteral value raw).result = .ok new := by
  obtain ⟨s, hs⟩ := substitute_ok h (show Flavor.literal ∈ [Flavor.identifier, .literal] by simp) value
  simp only [replaceInLiteral, Logged.bind_result, Logged.lift_result, hs, Logged.except_ok_bind]
  cases s with
  | none => exact ⟨_, rfl⟩
  | some changed =>
    simp only
    split
    · exact ⟨_, rfl⟩
    · exact ⟨_, rfl⟩

theorem spliced_ok (h : scope.Supplied) {tree : Node} {place : Place} {name : String}
    (hp : scope.IsPlaceholder tree place name) : ∃ r, scope.spliced place name = .ok r := by
  obtain ⟨a, ha, -, ⟨s, hs⟩, e, he⟩ := h name (mem_names_of_placeholder? (placeholder?_eq_some_iff.2 ⟨place, hp⟩))
  cases place with
  | statement =>
    exact ⟨Argument.asStatement s, by simp only [spliced, argument, ha, Logged.except_ok_bind, Argument.toStatement, hs]; rfl⟩
  | expression =>
    exact ⟨guardPrecedence (Argument.asExpression e), by
      simp only [spliced, argument, ha, Logged.except_ok_bind, Argument.toExpression, he]; rfl⟩

/-! ## The invariant of the walk -/

/-- What the result of a visit says about the references of its tree: none returns to an open name, or one returns
to the name that the error gives. -/
def Explains (scope : Scope) (v : Visit) : Except Error Node → Prop
  | .ok _ => ∀ ref name, scope.Mentions v.tree ref → ¬ scope.ReturnsTo v.stack ref name
  | .error e => ∃ ref name, e = .recursiveArgument name ∧ scope.Mentions v.tree ref ∧ scope.ReturnsTo v.stack ref name

theorem explains_of_mentions_iff {stack : List String} {tree tree' : Node} {result : Except Error Node}
    (h : ∀ ref, scope.Mentions tree ref ↔ scope.Mentions tree' ref) (he : scope.Explains ⟨stack, tree'⟩ result) :
    scope.Explains ⟨stack, tree⟩ result := by
  cases result <;> simpa only [Explains, h] using he

/-- A placeholder whose name is open, or whose replacement has been visited. -/
theorem explains_placeholder {stack : List String} {tree r : Node} {place : Place} {name : String}
    (hp : scope.IsPlaceholder tree place name) (hs : name ∉ stack) (hr : scope.spliced place name = .ok r)
    (hb : r.isBareIdentifier = false) {result : Except Error Node} (he : scope.Explains ⟨name :: stack, r⟩ result) :
    scope.Explains ⟨stack, tree⟩ result := by
  cases result with
  | error e =>
    obtain ⟨ref, n, rfl, hm, hreturn⟩ := he
    exact ⟨⟨name, place⟩, n, rfl, .placeholder hp, .inside hs ⟨r, hr, hb, hm⟩ hreturn⟩
  | ok out =>
    intro ref n hm hreturn
    obtain rfl := (mentions_placeholder hp).1 hm
    cases hreturn with
    | here h => exact hs h
    | inside _ hl h =>
      obtain ⟨r', hr', -, hm'⟩ := hl
      rw [hr] at hr'
      cases hr'
      exact he _ _ hm' h

/-- A placeholder that becomes a single identifier leads nowhere. -/
theorem explains_bare {stack : List String} {tree r : Node} {place : Place} {name : String}
    (hp : scope.IsPlaceholder tree place name) (hs : name ∉ stack) (hr : scope.spliced place name = .ok r)
    (hb : r.isBareIdentifier = true) (out : Node) : scope.Explains ⟨stack, tree⟩ (.ok out) := by
  intro ref n hm hreturn
  obtain rfl := (mentions_placeholder hp).1 hm
  cases hreturn with
  | here h => exact hs h
  | inside _ hl _ =>
    obtain ⟨r', hr', hb', -⟩ := hl
    rw [hr] at hr'
    cases hr'
    rw [hb] at hb'
    cases hb'

/-- Parts walked in order: the first error ends the walk. -/
theorem explains_parts {stack : List String} {kind : Kind} {parts : List Node}
    (hp : scope.placeholder? (.node kind parts) = none)
    (h : ∀ part ∈ parts, scope.Explains ⟨stack, part⟩ (scope.walk stack part).result) :
    scope.Explains ⟨stack, .node kind parts⟩ ((parts.mapM (scope.walk stack)).result.map (reassemble kind)) := by
  cases hr : (parts.mapM (scope.walk stack)).result with
  | error e =>
    obtain ⟨before, part, after, rfl, -, he⟩ := Logged.mapM_result_error hr
    have hm : part ∈ before ++ part :: after := by simp
    have := h part hm
    rw [he] at this
    obtain ⟨ref, name, hname, hmention, hreturn⟩ := this
    exact ⟨ref, name, hname, .part hp hm hmention, hreturn⟩
  | ok outs =>
    intro ref name hmention hreturn
    obtain ⟨part, hm, hmention⟩ := (mentions_part hp).1 hmention
    rw [Logged.mapM_result_ok_iff] at hr
    obtain ⟨out, -, hout⟩ := forall₂_mem_left hr hm
    have := h part hm
    rw [hout] at this
    exact this ref name hmention hreturn

/-- With everything supplied, the result of every visit is explained by the references of its tree. -/
theorem walk_explained (hsup : scope.Supplied) (v : Visit) : scope.Explains v (scope.walk v.stack v.tree).result := by
  induction v using (descends_wf scope).induction with
  | _ v ih =>
  obtain ⟨stack, tree⟩ := v
  simp only
  rw [walk_eq_step, step.eq_def]
  split <;> rename_i hp
  · obtain ⟨place, hp⟩ := placeholder?_eq_some_iff.1 hp
    split
    · rename_i name _ hs
      exact ⟨⟨name, place⟩, name, rfl, .placeholder hp, .here hs⟩
    · rename_i hs
      obtain ⟨r, hr⟩ := spliced_ok hsup hp
      rw [Logged.bind_result, expand_result hp, hr, Logged.except_ok_bind]
      split
      · rename_i hb
        exact explains_bare hp hs hr hb _
      · rename_i hb
        rw [Bool.not_eq_true] at hb
        exact explains_placeholder hp hs hr hb (ih _ (.replacement hp hs hr hb))
  · have hleaf := not_mentions_leaf hp
    cases tree with
    | ref id =>
      obtain ⟨new, hn⟩ := rename_ok hsup "identifier" id
      simp only [Logged.bind_result, renameIdentifier, hn, Logged.except_ok_bind, Logged.pure_result]
      exact fun ref _ hm => absurd hm (hleaf (by simp) (by simp) ref)
    | binding id =>
      obtain ⟨new, hn⟩ := rename_ok hsup "identifier" id
      simp only [Logged.bind_result, renameIdentifier, hn, Logged.except_ok_bind, Logged.pure_result]
      exact fun ref _ hm => absurd hm (hleaf (by simp) (by simp) ref)
    | name id =>
      obtain ⟨new, hn⟩ := rename_ok hsup "property" id
      simp only [Logged.bind_result, renameProperty, hn, Logged.except_ok_bind, Logged.pure_result]
      exact fun ref _ hm => absurd hm (hleaf (by simp) (by simp) ref)
    | text value raw =>
      obtain ⟨new, hn⟩ := replaceInLiteral_ok hsup value raw
      simp only [Logged.bind_result, hn, Logged.except_ok_bind, Logged.pure_result]
      exact fun ref _ hm => absurd hm (hleaf (by simp) (by simp) ref)
    | shorthand id =>
      simp only
      split
      · rename_i hw
        exact explains_of_mentions_iff (fun ref => mentions_shorthand) (ih _ (.shorthand hw))
      · rename_i hw
        obtain ⟨new, hn⟩ := rename_ok hsup "identifier" id
        simp only [Logged.bind_result, renameIdentifier, hn, Logged.except_ok_bind, Logged.pure_result]
        intro ref _ hm
        cases hm with
        | placeholder h => cases h
        | shorthand h => simp [h] at hw
    | atom a => exact fun ref _ hm => absurd hm (hleaf (by simp) (by simp) ref)
    | node kind parts =>
      have := explains_parts hp fun part hm => ih ⟨stack, part⟩ (.part hp hm)
      simp only [Logged.bind_result]
      cases hr : (parts.mapM (scope.walk stack)).result with
      | error e => rw [hr] at this; exact this
      | ok outs => rw [hr] at this; exact this

/-! ## What returning means for the graph -/

/-- A way to an open name is a return. -/
theorem returnsTo_of_reflTransGen (stack : List String) {a b : Reference} (h : ReflTransGen scope.Leads a b)
    (hb : b.name ∈ stack) : ∃ name, scope.ReturnsTo stack a name := by
  induction h using ReflTransGen.head_induction_on generalizing stack with
  | refl => exact ⟨_, .here hb⟩
  | @head a c hl _ ih =>
    by_cases ha : a.name ∈ stack
    · exact ⟨_, .here ha⟩
    · obtain ⟨name, hreturn⟩ := ih (a.name :: stack) (by simp [hb])
      exact ⟨name, .inside ha hl hreturn⟩

/-- A way to a reference that leads back to its own name is a return, whatever is open. -/
theorem returnsTo_of_cycle (stack : List String) {a b : Reference} (h : ReflTransGen scope.Leads a b) {q : Place}
    (hc : TransGen scope.Leads b ⟨b.name, q⟩) : ∃ name, scope.ReturnsTo stack a name := by
  -- a name that is open already ends the way earlier, and one that is not becomes open
  induction h using ReflTransGen.head_induction_on generalizing stack with
  | refl =>
    by_cases hb : b.name ∈ stack
    · exact ⟨_, .here hb⟩
    · obtain ⟨c, hl, hrest⟩ := TransGen.head'_iff.1 hc
      obtain ⟨name, hreturn⟩ := returnsTo_of_reflTransGen (b.name :: stack) hrest (by simp)
      exact ⟨name, .inside hb hl hreturn⟩
  | @head a c hl _ ih =>
    by_cases ha : a.name ∈ stack
    · exact ⟨_, .here ha⟩
    · obtain ⟨name, hreturn⟩ := ih (a.name :: stack)
      exact ⟨name, .inside ha hl hreturn⟩

/-- A return to a name that only the way from `root` opened is a cycle that `root` leads to. -/
theorem cycle_of_returnsTo {root : Reference} {stack : List String} {a : Reference} {name : String}
    (h : scope.ReturnsTo stack a name) (ha : ReflTransGen scope.Leads root a)
    (hstack : ∀ n ∈ stack, ∃ p, ReflTransGen scope.Leads root ⟨n, p⟩ ∧ TransGen scope.Leads ⟨n, p⟩ a) :
    ∃ p q, ReflTransGen scope.Leads root ⟨name, p⟩ ∧ TransGen scope.Leads ⟨name, p⟩ ⟨name, q⟩ := by
  -- every open name is one that `root` leads to and that leads on to where we are
  induction h with
  | @here stack ref h =>
    obtain ⟨p, hroot, hc⟩ := hstack _ h
    exact ⟨p, ref.place, hroot, hc⟩
  | @inside stack ref next name hs hl _ ih =>
    refine ih (ha.tail hl) fun n hn => ?_
    rcases List.mem_cons.1 hn with rfl | hn
    · exact ⟨ref.place, ha, .single hl⟩
    · obtain ⟨p, hroot, hc⟩ := hstack n hn
      exact ⟨p, hroot, hc.tail hl⟩

/-- Out of a script, where nothing is open, a return is a cycle that the script leads to. -/
theorem circularAt_of_returnsTo {script : Node} {ref : Reference} {name : String} (hm : scope.Mentions script ref)
    (h : scope.ReturnsTo [] ref name) : scope.CircularAt script name := by
  obtain ⟨p, q, hroot, hc⟩ := cycle_of_returnsTo h .refl (by simp)
  exact ⟨p, q, ⟨ref, hm, hroot⟩, hc⟩

theorem returnsTo_of_circularAt {script : Node} {name : String} (h : scope.CircularAt script name) :
    ∃ ref n, scope.Mentions script ref ∧ scope.ReturnsTo [] ref n := by
  obtain ⟨p, q, ⟨ref, hm, hroot⟩, hc⟩ := h
  obtain ⟨n, hreturn⟩ := returnsTo_of_cycle [] hroot hc
  exact ⟨ref, n, hm, hreturn⟩

/-! ## Main theorem -/

/-- The walk of a script either succeeds and the script leads to no cycle, or fails on a cycle that the script
leads to. -/
theorem render_cases (hsup : scope.Supplied) (script : Node) :
    ((∃ out, (scope.render script).result = .ok out) ∧ ∀ name, ¬ scope.CircularAt script name) ∨
      ∃ name, (scope.render script).result = .error (.recursiveArgument name) ∧ scope.CircularAt script name := by
  have h := walk_explained hsup ⟨[], script⟩
  simp only [render]
  cases hr : (scope.walk [] script).result with
  | ok out =>
    simp only [hr] at h
    refine .inl ⟨⟨out, rfl⟩, fun name hc => ?_⟩
    obtain ⟨ref, n, hm, hreturn⟩ := returnsTo_of_circularAt hc
    exact h ref n hm hreturn
  | error e =>
    simp only [hr] at h
    obtain ⟨ref, name, rfl, hm, hreturn⟩ := h
    exact .inr ⟨name, rfl, circularAt_of_returnsTo hm hreturn⟩

/-- With every declared name supplied, rendering succeeds exactly if the script leads to no reference that leads
back to its own name, and otherwise fails with the name of one that does. -/
theorem renderWith_ok_iff_not_circular (template : Template) (arguments : Arguments)
    (hsup : (template.scope arguments).Supplied) :
    ((∃ out, ((template.scope arguments).render template.script).result = .ok out) ↔
      ∀ name, ¬ (template.scope arguments).CircularAt template.script name) ∧
    ((∃ code, (template.renderWith arguments).result = .ok code) ↔
      ∀ name, ¬ (template.scope arguments).CircularAt template.script name) ∧
    ((∃ name, (template.scope arguments).CircularAt template.script name) →
      ∃ name, (template.scope arguments).CircularAt template.script name ∧
        ((template.scope arguments).render template.script).result = .error (.recursiveArgument name) ∧
        (template.renderWith arguments).result = .error (.recursiveArgument name)) := by
  have hcode : (template.renderWith arguments).result =
      ((template.scope arguments).render template.script).result >>= fun out =>
        .ok (out.print template.options.minify) := by
    simp only [Template.renderWith, Logged.bind_result, Logged.pure_result]
  rcases render_cases hsup template.script with ⟨⟨out, hout⟩, hacyclic⟩ | ⟨name, herror, hc⟩
  · rw [hcode, hout]
    exact ⟨⟨fun _ => hacyclic, fun _ => ⟨out, rfl⟩⟩, ⟨fun _ => hacyclic, fun _ => ⟨_, rfl⟩⟩,
      fun ⟨name, hc⟩ => absurd hc (hacyclic name)⟩
  · rw [hcode, herror]
    have hno : ¬ ∀ name, ¬ (template.scope arguments).CircularAt template.script name := fun h => h name hc
    refine ⟨iff_of_false ?_ hno, iff_of_false ?_ hno, fun _ => ⟨name, hc, rfl, rfl⟩⟩
    · rintro ⟨_, h⟩
      cases h
    · rintro ⟨_, h⟩
      cases h

/-- A script that is one statement, a placeholder. -/
def mutualTemplate : Template :=
  ⟨.ofStatements [.statement (.ref "$A$")], ⟨[("A", ""), ("B", "")]⟩, {}⟩

/-- Two arguments that lead to each other. -/
def mutualArguments : Arguments := [("A", .ofText "[$B$]"), ("B", .ofText "!$A$")]

theorem renderWith_mutual :
    (mutualTemplate.scope mutualArguments).Supplied ∧
      ∃ name, (mutualTemplate.renderWith mutualArguments).result = .error (.recursiveArgument name) := by
  have hsup : (mutualTemplate.scope mutualArguments).Supplied := by
    intro name hn
    have hn' : name = "A" ∨ name = "B" := by simpa [mutualTemplate, Template.scope, Registry.names] using hn
    rcases hn' with rfl | rfl
    · exact ⟨.ofText "[$B$]", rfl, by decide, ⟨[.statement (.node .array [.ref "$B$"])], by decide +kernel⟩,
        [.statement (.node .array [.ref "$B$"])], by decide +kernel⟩
    · exact ⟨.ofText "!$A$", rfl, by decide, ⟨[.statement (.node (.unary .logicNot) [.ref "$A$"])], by decide +kernel⟩,
        [.statement (.node (.unary .logicNot) [.ref "$A$"])], by decide +kernel⟩
  have hab : (mutualTemplate.scope mutualArguments).Leads ⟨"A", .statement⟩ ⟨"B", .expression⟩ := by
    refine ⟨.statement (.node .array [.ref "$B$"]), by decide +kernel, rfl, ?_⟩
    refine .part (by decide +kernel) (List.mem_singleton_self _) (.part rfl (List.mem_singleton_self _) ?_)
    exact .placeholder (.expression (by decide +kernel))
  have hba : (mutualTemplate.scope mutualArguments).Leads ⟨"B", .expression⟩ ⟨"A", .expression⟩ := by
    refine ⟨.parenthesized (.node (.unary .logicNot) [.ref "$A$"]), by decide +kernel, rfl, ?_⟩
    refine .part rfl (List.mem_singleton_self _) (.part rfl (List.mem_singleton_self _) ?_)
    exact .placeholder (.expression (by decide +kernel))
  have hc : (mutualTemplate.scope mutualArguments).CircularAt mutualTemplate.script "A" := by
    refine ⟨.statement, .expression, ⟨⟨"A", .statement⟩, ?_, .refl⟩, .tail (.single hab) hba⟩
    exact .part rfl (List.mem_singleton_self _) (.placeholder (.statement (by decide +kernel)))
  obtain ⟨name, -, -, hcode⟩ := (renderWith_ok_iff_not_circular mutualTemplate mutualArguments hsup).2.2 ⟨"A", hc⟩
  exact ⟨hsup, name, hcode⟩

end Stencil.Scope
