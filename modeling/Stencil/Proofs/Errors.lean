import Stencil.Proofs.Everywhere
import Stencil.Proofs.Substitution
import Stencil.Template
/-!
# Errors have causes

`Justified` says for each error of a rendering what must be the case for it to be reported: which name lacks an
argument and where its token was met, which argument leads back to itself, which one gives no text or no script.
An error of a walk arises at one of its visits that take place (`walk_error`); what a visit looks at was written in
the script or in an argument, whatever was put in before (`traced_visits`); and a name on the stack is being expanded
around the visit (`expansion_of_mem_stack`). `errors_justified` is the statement, with the consequence that the
errors of making a template and those of rendering it are of different kinds.
-/

namespace Stencil

open Script Relation

namespace Script.Node

/-- A tree holds another one, or is it. -/
inductive Contains : Node → Node → Prop
  | here {tree} : Contains tree tree
  | part {kind parts part leaf} (hm : part ∈ parts) (h : Contains part leaf) : Contains (.node kind parts) leaf

/-- A token that a form holds stands in one of its parts. -/
theorem Contains.of_holdsToken {kind : Kind} {parts : List Node} {leaf : Node} {name : String}
    (h : Contains (.node kind parts) leaf) (ht : leaf.HoldsToken name) : ∃ part ∈ parts, part.Contains leaf := by
  cases h with
  | here => cases ht with | identifier hid => cases hid
  | part hm h => exact ⟨_, hm, h⟩

end Script.Node

namespace Scope

variable {scope : Scope} {script : Node}

/-! ## Where an error arises -/

/-- A visit fails by itself: its placeholder is being expanded already, its argument cannot be put in, or a token
in its text gives no text. -/
inductive FailsAt (scope : Scope) : Visit → Error → Prop
  | recursion {stack tree place name} (hp : scope.IsPlaceholder tree place name) (hs : name ∈ stack) :
      FailsAt scope ⟨stack, tree⟩ (.recursiveArgument name)
  | splice {stack tree place name e} (hp : scope.IsPlaceholder tree place name)
      (h : scope.spliced place name = .error e) : FailsAt scope ⟨stack, tree⟩ e
  | identifier {stack tree id e} (hid : tree.identifier? = some id) (h : scope.substitute .identifier id = .error e) :
      FailsAt scope ⟨stack, tree⟩ e
  | literal {stack value raw e} (h : scope.substitute .literal value = .error e) :
      FailsAt scope ⟨stack, .text value raw⟩ e

/-- The error of a step that only puts the result of another one into a tree. -/
theorem result_error_of_bind {α : Type} {x : Logged α} {f : α → Node} {e : Error}
    (h : (x >>= fun a => pure (f a)).result = .error e) : x.result = .error e := by
  simp only [Logged.bind_result, Logged.pure_result, Logged.except_bind_error_iff] at h
  rcases h with h | ⟨_, _, h⟩
  · exact h
  · cases h

/-- The error of a walk is that of a visit inside it that takes place. -/
theorem walk_error (v : Visit) {e : Error} (h : (scope.walk v.stack v.tree).result = .error e) :
    ∃ w, ReflTransGen (scope.Enters scope.walk) v w ∧ scope.FailsAt w e := by
  induction v using (descends_wf scope).induction with
  | _ v ih =>
  obtain ⟨stack, tree⟩ := v
  have hinside : ∀ w, scope.Enters scope.walk ⟨stack, tree⟩ w → (scope.walk w.stack w.tree).result = .error e →
      ∃ u, ReflTransGen (scope.Enters scope.walk) ⟨stack, tree⟩ u ∧ scope.FailsAt u e := by
    intro w hw he
    obtain ⟨u, hu, hfails⟩ := ih w hw.descends he
    exact ⟨u, .head hw hu, hfails⟩
  simp only at h
  rw [walk_eq_step, step.eq_def] at h
  split at h <;> rename_i hp
  · obtain ⟨place, hp⟩ := placeholder?_eq_some_iff.1 hp
    split at h
    · rename_i hs
      cases h
      exact ⟨_, .refl, .recursion hp hs⟩
    · rename_i hs
      rw [Logged.bind_result, Logged.except_bind_error_iff, expand_result hp] at h
      rcases h with h | ⟨r, hr, h⟩
      · exact ⟨_, .refl, .splice hp h⟩
      · split at h
        · cases h
        · rename_i hb
          exact hinside _ (.replacement hp hs hr (by simpa using hb)) h
  · cases tree with
    | ref id => exact ⟨_, .refl, .identifier rfl (rename_error (result_error_of_bind h))⟩
    | binding id => exact ⟨_, .refl, .identifier rfl (rename_error (result_error_of_bind h))⟩
    | name id => exact ⟨_, .refl, .identifier rfl (rename_error (result_error_of_bind h))⟩
    | text value raw => exact ⟨_, .refl, .literal (replaceInLiteral_error (result_error_of_bind h))⟩
    | shorthand id =>
      simp only at h
      split at h
      · rename_i hw
        exact hinside _ (.shorthand hw) h
      · exact ⟨_, .refl, .identifier rfl (rename_error (result_error_of_bind h))⟩
    | atom a => cases h
    | node kind parts =>
      obtain ⟨before, part, after, rfl, hbefore, he⟩ := Logged.mapM_result_error (result_error_of_bind h)
      exact hinside ⟨stack, part⟩ (.part hp hbefore) he

/-! ## Where tokens come from -/

/-- The scripts that a rendering reads: that of the template, and those of supplied arguments. -/
inductive Source (scope : Scope) (script : Node) : Node → Prop
  | template : Source scope script script
  | argument {name a flavor text parsed} (ha : scope.arguments.find? name = some a)
      (hf : flavor ∈ [Flavor.statement, .expression]) (ht : a.flavor? flavor = some text)
      (hp : Script.parse text true = .ok parsed) : Source scope script parsed.script

/-- A tree is written in one of the scripts. -/
def Written (scope : Scope) (script leaf : Node) : Prop := ∃ source, scope.Source script source ∧ source.Contains leaf

/-- Every token in a tree was written where it stands, or it came from a shorthand property that was visited and
split. -/
def Traced (scope : Scope) (script tree : Node) : Prop :=
  ∀ leaf name, tree.Contains leaf → leaf.HoldsToken name → scope.Written script leaf ∨
    ∃ stack id, scope.Visits script ⟨stack, .shorthand id⟩ ∧ scope.Written script (.shorthand id) ∧
      leaf.identifier? = some id

theorem traced_of_forall_parts {kind : Kind} {parts : List Node} (h : ∀ part ∈ parts, scope.Traced script part) :
    scope.Traced script (.node kind parts) := by
  intro leaf name hc ht
  obtain ⟨part, hm, hc⟩ := hc.of_holdsToken ht
  exact h part hm leaf name hc ht

theorem traced_of_source {source tree : Node} (hs : scope.Source script source)
    (h : ∀ leaf, tree.Contains leaf → source.Contains leaf) : scope.Traced script tree :=
  fun leaf _ hc _ => .inl ⟨source, hs, h leaf hc⟩

/-- A leaf without a name holds no token. -/
theorem traced_absent : scope.Traced script .absent := by
  intro leaf name hc ht
  cases hc with
  | here => cases ht with | identifier hid => cases hid

theorem traced_asStatement {body : List Node} (h : ∀ s ∈ body, scope.Traced script s) :
    scope.Traced script (Argument.asStatement body) := by
  unfold Argument.asStatement
  split
  · exact h _ (by simp)
  · exact traced_of_forall_parts h

/-- What is around the statements of an argument holds no token. -/
theorem traced_asExpression {body : List Node} (h : ∀ s ∈ body, scope.Traced script s) :
    scope.Traced script (guardPrecedence (Argument.asExpression body)) := by
  have hbare : scope.Traced script (Argument.asExpression body) := by
    unfold Argument.asExpression
    split
    · intro leaf name hc ht
      exact h _ (List.mem_singleton_self _) leaf name (.part (List.mem_singleton_self _) hc) ht
    · intro leaf name hc ht
      obtain ⟨part, hm, hc⟩ := hc.of_holdsToken ht
      exact h _ (List.mem_singleton_self _) leaf name (.part hm hc) ht
    · have hparameters : scope.Traced script (.node .parameters []) := traced_of_forall_parts (by simp)
      have hblock : scope.Traced script (.node .block body) := traced_of_forall_parts h
      refine traced_of_forall_parts (List.forall_mem_singleton.2 ?_)
      refine traced_of_forall_parts (List.forall_mem_singleton.2 (traced_of_forall_parts ?_))
      simp only [List.mem_cons, List.not_mem_nil, or_false, forall_eq_or_imp, forall_eq]
      exact ⟨traced_absent, hparameters, hblock⟩
  unfold guardPrecedence
  split
  · exact hbare
  · exact traced_of_forall_parts (List.forall_mem_singleton.2 hbare)

/-- What is put in for a placeholder was written in an argument. -/
theorem traced_spliced {place : Place} {name : String} {r : Node} (h : scope.spliced place name = .ok r) :
    scope.Traced script r := by
  have hsources : scope.ArgumentScripts (scope.Source script) := fun name a ha flavor hf text ht parsed hp =>
    .argument ha hf ht hp
  obtain ⟨source, hs, hr⟩ := spliced_script hsources h
  have hparts : ∀ s ∈ source.parts, scope.Traced script s := by
    intro s hm
    refine traced_of_source hs fun leaf hc => ?_
    cases source with
    | node => exact .part hm hc
    | _ => simp [Node.parts] at hm
  rcases hr with ⟨-, rfl⟩ | ⟨-, rfl⟩
  · exact traced_asStatement hparts
  · exact traced_asExpression hparts

/-- Wherever a walk gets, it finds tokens that were written. -/
theorem traced_visits {v : Visit} (h : scope.Visits script v) : scope.Traced script v.tree := by
  induction h with
  | refl => exact traced_of_source .template fun _ hc => hc
  | tail hv hd ih =>
    cases hd with
    | replacement _ _ hr => exact traced_spliced hr
    | part => exact fun leaf name hc ht => ih leaf name (.part (by simp) hc) ht
    | @shorthand stack id hw =>
      intro leaf name hc ht
      -- the property holds the name of the shorthand twice, and the shorthand itself was written
      have hid : leaf.identifier? = some id := by
        obtain ⟨part, hm, hc⟩ := hc.of_holdsToken ht
        simp only [List.mem_cons, List.not_mem_nil, or_false] at hm
        rcases hm with rfl | rfl <;> cases hc <;> rfl
      have htoken : Node.HoldsToken (.shorthand id) name := by
        cases ht with
        | identifier hid' h' =>
          rw [hid] at hid'
          cases hid'
          exact .identifier rfl h'
        | literal => cases hid
      rcases ih _ name .here htoken with hwritten | ⟨stack', id', hvisit, hwritten, hid'⟩
      · exact .inr ⟨stack, id, hv, hwritten, hid⟩
      · cases hid'
        exact .inr ⟨stack', id, hvisit, hwritten, hid⟩

/-! ## Causes -/

/-- The token of a name stands in a place that is visited and that was written in the script or in an argument. -/
def Meets (scope : Scope) (script : Node) (name : String) : Prop :=
  ∃ v leaf, scope.Visits script v ∧ (v.tree = leaf ∨ v.tree = .statement leaf) ∧ leaf.HoldsToken name ∧
    scope.Written script leaf

/-- A name is expanded at a visit that takes place, and at one inside that expansion, at whatever depth, the same name
is a placeholder again. -/
def MeetsItself (scope : Scope) (script : Node) (name : String) : Prop :=
  ∃ outer place r inner place', scope.Visits script outer ∧ scope.IsPlaceholder outer.tree place name ∧
    name ∉ outer.stack ∧ scope.spliced place name = .ok r ∧ r.isBareIdentifier = false ∧
    ReflTransGen (scope.Enters scope.walk) ⟨name :: outer.stack, r⟩ inner ∧ scope.IsPlaceholder inner.tree place' name

/-- What must be the case for an error of a rendering to be reported. -/
def Justified (scope : Scope) (script : Node) : Error → Prop
  | .missingArgument name =>
    name ∈ scope.registry.names ∧ scope.arguments.find? name = none ∧ scope.Meets script name
  | .recursiveArgument name =>
    name ∈ scope.registry.names ∧ (scope.arguments.find? name).isSome ∧ scope.MeetsItself script name
  | .undefinedFlavor flavor =>
    flavor ∈ [Flavor.statement, .expression, .identifier, .literal] ∧
      ∃ name ∈ scope.registry.names, ∃ a, scope.arguments.find? name = some a ∧ a.flavor? flavor = none
  | .malformedArgument flavor fault =>
    flavor ∈ [Flavor.statement, .expression] ∧
      ∃ name ∈ scope.registry.names, ∃ a text, scope.arguments.find? name = some a ∧
        a.flavor? flavor = some text ∧ Script.parse text true = .error fault
  | _ => False

theorem meets_of_holdsToken {v : Visit} {leaf : Node} {name : String} (hv : scope.Visits script v)
    (hleaf : v.tree = leaf ∨ v.tree = .statement leaf) (ht : leaf.HoldsToken name) : scope.Meets script name := by
  have hc : v.tree.Contains leaf := by
    rcases hleaf with h | h <;> rw [h]
    · exact .here
    · exact .part (List.mem_singleton_self _) .here
  rcases traced_visits hv leaf name hc ht with hwritten | ⟨stack, id, hvisit, hwritten, hid⟩
  · exact ⟨v, leaf, hv, hleaf, ht, hwritten⟩
  · refine ⟨_, _, hvisit, .inl rfl, ?_, hwritten⟩
    cases ht with
    | identifier hid' h =>
      rw [hid] at hid'
      cases hid'
      exact .identifier rfl h
    | literal => cases hid

theorem meets_of_isPlaceholder {v : Visit} {place : Place} {name : String} (hv : scope.Visits script v)
    (hp : scope.IsPlaceholder v.tree place name) : scope.Meets script name := by
  obtain ⟨stack, tree⟩ := v
  cases hp with
  | statement h => exact meets_of_holdsToken hv (.inr rfl) (.identifier rfl (token_mem_of_wholeToken? h))
  | expression h => exact meets_of_holdsToken hv (.inl rfl) (.identifier rfl (token_mem_of_wholeToken? h))

/-- A name on the stack of a visit is being expanded around it. -/
theorem expansion_of_mem_stack {v : Visit} {name : String} (hv : scope.Visits script v) (hs : name ∈ v.stack) :
    ∃ outer place r, scope.Visits script outer ∧ scope.IsPlaceholder outer.tree place name ∧ name ∉ outer.stack ∧
      scope.spliced place name = .ok r ∧ r.isBareIdentifier = false ∧
      ReflTransGen (scope.Enters scope.walk) ⟨name :: outer.stack, r⟩ v := by
  induction hv with
  | refl => cases hs
  | @tail u w hv hd ih =>
    by_cases hmem : name ∈ u.stack
    · obtain ⟨outer, place, r, houter, hp, hfresh, hr, hb, hinside⟩ := ih hmem
      exact ⟨outer, place, r, houter, hp, hfresh, hr, hb, hinside.tail hd⟩
    · cases hd with
      | replacement hp hfresh hr hb =>
        rcases List.mem_cons.1 hs with rfl | hs
        · exact ⟨_, _, _, hv, hp, hfresh, hr, hb, .refl⟩
        · exact absurd hs hmem
      | shorthand => exact absurd hs hmem
      | part => exact absurd hs hmem

/-! ## Every error has its cause -/

theorem argument_ok_iff {name : String} {a : Argument} :
    scope.argument name = .ok a ↔ scope.arguments.find? name = some a := by
  unfold argument
  split <;> rename_i heq <;> simp [heq]

theorem argument_error {name : String} {e : Error} (h : scope.argument name = .error e) :
    e = .missingArgument name ∧ scope.arguments.find? name = none := by
  unfold argument at h
  split at h
  · cases h
  · rename_i hnone
    cases h
    exact ⟨rfl, hnone⟩

theorem toText_error {a : Argument} {flavor : Flavor} {e : Error} (h : a.toText flavor = .error e) :
    e = .undefinedFlavor flavor ∧ a.flavor? flavor = none := by
  unfold Argument.toText at h
  split at h
  · cases h
  · rename_i hnone
    cases h
    exact ⟨rfl, hnone⟩

/-- What is wrong with the argument of a name that is in use and is declared. -/
theorem justified_argument {name : String} {e : Error} (hn : name ∈ scope.registry.names)
    (hmeets : scope.Meets script name) (h : scope.argument name = .error e) : scope.Justified script e := by
  obtain ⟨rfl, hnone⟩ := argument_error h
  exact ⟨hn, hnone, hmeets⟩

theorem justified_textOf {flavor : Flavor} {name : String} {e : Error} (hf : flavor ∈ [Flavor.identifier, .literal])
    (hn : name ∈ scope.registry.names) (hmeets : scope.Meets script name) (h : scope.textOf flavor name = .error e) :
    scope.Justified script e := by
  simp only [textOf, Logged.except_bind_error_iff] at h
  rcases h with h | ⟨a, ha, h⟩
  · exact justified_argument hn hmeets h
  · obtain ⟨rfl, hnone⟩ := toText_error h
    refine ⟨?_, name, hn, a, argument_ok_iff.1 ha, hnone⟩
    simp only [List.mem_cons, List.not_mem_nil, or_false] at hf ⊢
    tauto

/-- The statements of an argument of a declared name. -/
theorem justified_statements {flavor : Flavor} {name : String} {a : Argument} {e : Error}
    (hf : flavor ∈ [Flavor.statement, .expression]) (hn : name ∈ scope.registry.names)
    (ha : scope.arguments.find? name = some a) (h : a.statements flavor = .error e) : scope.Justified script e := by
  simp only [Argument.statements, Logged.except_bind_error_iff] at h
  rcases h with h | ⟨text, htext, h⟩
  · obtain ⟨rfl, hnone⟩ := toText_error h
    refine ⟨?_, name, hn, a, ha, hnone⟩
    simp only [List.mem_cons, List.not_mem_nil, or_false] at hf ⊢
    tauto
  · unfold Argument.toText at htext
    split at htext <;> cases htext
    rename_i hflavor
    split at h
    · rename_i fault hparse
      cases h
      exact ⟨hf, name, hn, a, text, ha, hflavor, hparse⟩
    · cases h

theorem justified_spliced {place : Place} {name : String} {e : Error} (hn : name ∈ scope.registry.names)
    (hmeets : scope.Meets script name) (h : scope.spliced place name = .error e) : scope.Justified script e := by
  cases place with
  | statement =>
    simp only [spliced, Argument.toStatement, Logged.except_bind_error_iff] at h
    rcases h with h | ⟨a, ha, h | ⟨_, _, h⟩⟩
    · exact justified_argument hn hmeets h
    · exact justified_statements (by simp) hn (argument_ok_iff.1 ha) h
    · cases h
  | expression =>
    have hexpression : scope.argument name >>= Argument.toExpression = .error e := by
      simp only [spliced] at h
      cases he : scope.argument name >>= Argument.toExpression with
      | error e' => rw [he] at h; exact h
      | ok r => rw [he] at h; cases h
    simp only [Argument.toExpression, Logged.except_bind_error_iff] at hexpression
    rcases hexpression with h | ⟨a, ha, h | ⟨_, _, h⟩⟩
    · exact justified_argument hn hmeets h
    · exact justified_statements (by simp) hn (argument_ok_iff.1 ha) h
    · cases h

/-- The argument of a name that is being expanded was found. -/
theorem supplied_of_spliced {place : Place} {name : String} {r : Node} (h : scope.spliced place name = .ok r) :
    (scope.arguments.find? name).isSome := by
  cases hfind : scope.arguments.find? name with
  | some a => rfl
  | none => cases place <;> simp [spliced, argument, hfind, bind, Except.bind, Except.map] at h

/-- An error that arises at a visit has its cause. -/
theorem justified_of_failsAt {v : Visit} {e : Error} (hv : scope.Visits script v) (h : scope.FailsAt v e) :
    scope.Justified script e := by
  have hdeclared : ∀ {tree place name}, scope.IsPlaceholder tree place name → name ∈ scope.registry.names :=
    fun hp => mem_names_of_placeholder? (placeholder?_eq_some_iff.2 ⟨_, hp⟩)
  cases h with
  | recursion hp hs =>
    obtain ⟨outer, place, r, houter, hp', hfresh, hr, hb, hinside⟩ := expansion_of_mem_stack hv hs
    exact ⟨hdeclared hp, supplied_of_spliced hr, outer, place, r, _, _, houter, hp', hfresh, hr, hb, hinside, hp⟩
  | splice hp h => exact justified_spliced (hdeclared hp) (meets_of_isPlaceholder hv hp) h
  | identifier hid h =>
    obtain ⟨name, hm, hc, h⟩ := substitute_error h
    have hmeets := meets_of_holdsToken hv (.inl rfl) (.identifier hid hm)
    exact justified_textOf (by simp) (Registry.contains_iff.1 hc) hmeets h
  | literal h =>
    obtain ⟨name, hm, hc, h⟩ := substitute_error h
    have hmeets := meets_of_holdsToken hv (.inl rfl) (.literal hm)
    exact justified_textOf (by simp) (Registry.contains_iff.1 hc) hmeets h

theorem render_justified {e : Error} (h : (scope.render script).result = .error e) : scope.Justified script e := by
  obtain ⟨w, hw, hfails⟩ := walk_error ⟨[], script⟩ h
  exact justified_of_failsAt hw hfails

/-! ## The two kinds of errors -/

theorem isConstruction_of_justified {e : Error} (h : scope.Justified script e) : e.isConstruction = false := by
  cases e with
  | missingArgument | recursiveArgument | undefinedFlavor | malformedArgument => rfl
  | _ => cases h

end Scope

/-- A member of a mapping is taken or passed over, but never refused. -/
theorem Argument.addMember_ne_error (name : String) (a : Argument) (member : String × Json) (e : Error) :
    (addMember name a member).result ≠ .error e := by
  unfold addMember
  split
  · nofun
  · split <;> nofun

/-- What is wrong with supplied values is for the one who supplies them. -/
theorem Arguments.ofValue_error {value : Json} {e : Error} (h : (Arguments.ofValue value).result = .error e) :
    e.isConstruction = false := by
  unfold ofValue at h
  split at h
  · obtain ⟨arguments, member, -, h⟩ := Logged.foldlM_result_error h
    simp only [Logged.bind_result, Logged.except_bind_error_iff] at h
    rcases h with h | ⟨_, _, h⟩
    · unfold Argument.ofValue at h
      split at h
      · cases h
      · obtain ⟨a, entry, -, h⟩ := Logged.foldlM_result_error h
        exact absurd h (Argument.addMember_ne_error _ _ _ _)
      · cases h
        rfl
    · cases h
  · cases h
    rfl

/-- A comment is refused only if it declares a name again. -/
theorem Registry.addComment_error {options : Options} {r : Registry} {comment : String} {e : Error}
    (h : (Registry.addComment options r comment).result = .error e) : e.isConstruction = true := by
  unfold addComment declare at h
  split at h
  · split at h
    · split at h
      · cases h
        rfl
      · cases h
    · cases h
  · cases h

/-- What is wrong with a template is for its author. -/
theorem Template.make_error {source : String} {options : Options} {e : Error}
    (h : (Template.make source options).result = .error e) : e.isConstruction = true := by
  simp only [make, Logged.bind_result, Logged.lift_result, Logged.except_bind_error_iff] at h
  rcases h with h | ⟨_, _, h⟩
  · unfold Options.validate at h
    split at h
    · cases h
      rfl
    · cases h
  · split at h
    · cases h
      rfl
    · simp only [Logged.bind_result, Logged.except_bind_error_iff] at h
      rcases h with h | ⟨_, _, h | ⟨_, _, h⟩⟩
      · obtain ⟨r, comment, -, h⟩ := Logged.foldlM_result_error h
        exact Registry.addComment_error h
      · cases h
      · cases h

namespace Scope

/-- Every error of a rendering has its cause, and none of them is about the making of a template, while every
error of making one is. -/
theorem errors_justified :
    (∀ (template : Template) (arguments : Arguments) (e : Error),
      (template.renderWith arguments).result = .error e →
        (template.scope arguments).Justified template.script e ∧ e.isConstruction = false) ∧
    (∀ (template : Template) (value : Json) (e : Error), (template.render value).result = .error e →
      e.isConstruction = false) ∧
    ∀ (source : String) (options : Options) (e : Error), (Template.make source options).result = .error e →
      e.isConstruction = true := by
  have hrender : ∀ (template : Template) (arguments : Arguments) (e : Error),
      (template.renderWith arguments).result = .error e →
        (template.scope arguments).Justified template.script e ∧ e.isConstruction = false := by
    intro template arguments e h
    simp only [Template.renderWith, Logged.bind_result, Logged.except_bind_error_iff] at h
    rcases h with h | ⟨_, _, h⟩
    · exact ⟨render_justified h, isConstruction_of_justified (render_justified h)⟩
    · cases h
  refine ⟨hrender, fun template value e h => ?_, fun source options e h => Template.make_error h⟩
  simp only [Template.render, Logged.bind_result, Logged.except_bind_error_iff] at h
  rcases h with h | ⟨arguments, _, h⟩
  · exact Arguments.ofValue_error h
  · exact (hrender template arguments e h).2

/-- A script that is one placeholder. -/
def singleTemplate : Template := ⟨.ofStatements [.statement (.ref "$A$")], ⟨[("A", ""), ("B", "")]⟩, {}⟩

/-- An argument that leads to a name without one. -/
def incompleteArguments : Arguments := [("A", .ofText "f(\x7b $B$ \x7d)")]

theorem renderWith_incompleteArguments :
    (singleTemplate.renderWith incompleteArguments).result = .error (.missingArgument "B") ∧
      (singleTemplate.scope incompleteArguments).Justified singleTemplate.script (.missingArgument "B") := by
  have h : (singleTemplate.renderWith incompleteArguments).result = .error (.missingArgument "B") := by
    rw [Template.renderWith, render, walk_eq_iterate 20]
    decide +kernel
  exact ⟨h, (errors_justified.1 singleTemplate incompleteArguments _ h).1⟩

end Scope

end Stencil
