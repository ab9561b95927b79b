import Stencil.Proofs.Substitution
import Stencil.Proofs.Visits
/-!
# The two substitution policies

A policy says which tokens of a name or of a literal are replaced. What is put in the place of a whole statement or
expression does not depend on it, nor does where parentheses go and which properties are split. So a walk that
succeeds under the policy `all` succeeds under `first`, and what the two give differs in names and in the texts of
literals only (`walk_first`). Where no visit meets more than one token in a text, the two policies look at the same
tokens and the walks are one (`walk_eq_of_atMostOneToken`). `render_policies` is the statement about scripts.
-/

namespace Stencil

open Script

namespace Script.Node

/-! ## Trees without names -/

mutual

/-- The tree without its names and the texts of its literals. -/
def erased : Node → Node
  | .ref _ => .ref ""
  | .binding _ => .binding ""
  | .name _ => .name ""
  | .text _ _ => .text "" none
  | .shorthand _ => .shorthand ""
  | .atom a => .atom a
  | .node kind parts => .node kind (erasedAll parts)

/-- The trees without their names and the texts of their literals. -/
def erasedAll : List Node → List Node
  | [] => []
  | tree :: rest => tree.erased :: erasedAll rest

end

theorem erasedAll_eq_map (trees : List Node) : erasedAll trees = trees.map erased := by
  induction trees with
  | nil => rfl
  | cons tree rest ih => rw [erasedAll, ih, List.map_cons]

/-- Whether a call stands in a chain does not depend on names. -/
theorem callsInChain_erased : (tree : Node) → callsInChain tree.erased = callsInChain tree
  | .ref _ | .binding _ | .name _ | .text _ _ | .shorthand _ | .atom _ | .node _ [] => rfl
  | .node _ (first :: _) => Scope.callsInChain_congr _ _ (callsInChain_erased first)

theorem erased_guardCallee (callee : Node) : (guardCallee callee).erased = guardCallee callee.erased := by
  unfold guardCallee
  rw [callsInChain_erased]
  split
  · rfl
  · rfl

theorem erased_reassemble (kind : Kind) (parts : List Node) :
    (Scope.reassemble kind parts).erased = Scope.reassemble kind (parts.map erased) := by
  cases kind with
  | new hasArguments =>
    cases parts with
    | nil => rfl
    | cons callee args => simp [Scope.reassemble, erased, erasedAll_eq_map, erased_guardCallee]
  | _ => simp [Scope.reassemble, erased, erasedAll_eq_map]

/-! ## Leaves with tokens -/

/-- No more than one token stands in the text of a leaf. -/
def AtMostOneToken (tree : Node) : Prop := ∀ text ∈ tree.writing?, (Token.names text).length ≤ 1

instance : DecidablePred AtMostOneToken := fun tree =>
  inferInstanceAs (Decidable (∀ text ∈ tree.writing?, (Token.names text).length ≤ 1))

end Script.Node

namespace Scope

open Node

/-- The scope with another policy. -/
def withPolicy (scope : Scope) (policy : SubstitutionPolicy) : Scope := { scope with policy := policy }

variable {scope : Scope} {p q : SubstitutionPolicy}

@[simp] theorem withPolicy_policy : (scope.withPolicy p).policy = p := rfl

@[simp] theorem withPolicy_failure? : (scope.withPolicy p).failure? = scope.failure? := rfl

theorem isPlaceholder_withPolicy {tree : Node} {place : Place} {name : String}
    (h : (scope.withPolicy p).IsPlaceholder tree place name) : (scope.withPolicy q).IsPlaceholder tree place name := by
  cases h with
  | statement h => exact .statement h
  | expression h => exact .expression h

/-! ## Where all tokens can be replaced, the first can -/

/-- The first token is the first of all tokens. -/
theorem substitute_all_error {flavor : Flavor} {text : String} {e : Error}
    (h : (scope.withPolicy .first).substitute flavor text = .error e) :
    (scope.withPolicy .all).substitute flavor text = .error e := by
  rw [substitute_error_iff] at h ⊢
  simp only [withPolicy_policy, withPolicy_failure?, SubstitutionPolicy.considered] at h ⊢
  cases hnames : Token.names text with
  | nil => simp [hnames] at h
  | cons name rest =>
    simp only [hnames, List.take_succ_cons, List.take_zero, List.findSome?_singleton] at h
    simp [h]

theorem rename_first {what id new : String} (h : ((scope.withPolicy .all).rename what id).result = .ok new) :
    ∃ new', ((scope.withPolicy .first).rename what id).result = .ok new' := by
  cases hfirst : ((scope.withPolicy .first).rename what id).result with
  | ok new' => exact ⟨new', rfl⟩
  | error e => simp [rename, substitute_all_error (rename_error hfirst)] at h

theorem replaceInLiteral_first {value : String} {raw : Option String} {new : String × Option String}
    (h : ((scope.withPolicy .all).replaceInLiteral value raw).result = .ok new) :
    ∃ new', ((scope.withPolicy .first).replaceInLiteral value raw).result = .ok new' := by
  cases hfirst : ((scope.withPolicy .first).replaceInLiteral value raw).result with
  | ok new' => exact ⟨new', rfl⟩
  | error e => simp [replaceInLiteral, substitute_all_error (replaceInLiteral_error hfirst)] at h

/-- What a walk gives under the policy `all` and what it gives under `first` have the same form. -/
theorem walk_first {stack : List String} {tree out : Node}
    (h : ((scope.withPolicy .all).walk stack tree).result = .ok out) :
    ∃ out', ((scope.withPolicy .first).walk stack tree).result = .ok out' ∧ out'.erased = out.erased := by
  refine walk_ok_induction (P := fun stack tree out =>
    ∃ out', ((scope.withPolicy .first).walk stack tree).result = .ok out' ∧ out'.erased = out.erased)
    ?leaf ?splice ?ref ?binding ?name ?text ?split ?shorthand ?atom ?node h
  -- what is put in is the same under both policies, so the stacks and the trees that are visited are too
  case leaf =>
    intro stack tree place name r hp hs hr hb
    exact ⟨r, walk_bare (isPlaceholder_withPolicy hp) hs hr hb, rfl⟩
  case splice =>
    intro stack tree place name r out hp hs hr hb _ ih
    have hp' : (scope.withPolicy .first).IsPlaceholder tree place name := isPlaceholder_withPolicy hp
    have hr' : (scope.withPolicy .first).spliced place name = .ok r := hr
    rwa [walk_spliced hp' hs hr' hb]
  case split =>
    intro stack id out hw _ ih
    have hw' : ((scope.withPolicy .first).registry.wholeToken? id).isSome := hw
    rwa [walk_split hw']
  case node =>
    intro stack kind parts outs hp hall
    obtain ⟨outs', hwalked, hsame⟩ := forall₂_exists (hall.imp fun _ _ hw => hw.2)
    refine ⟨reassemble kind outs', walk_parts hp hwalked, ?_⟩
    rw [erased_reassemble, erased_reassemble, map_eq_of_forall₂ hsame.flip]
  -- in the leaves the new texts may differ, and only that there is one matters
  case ref =>
    intro stack id new hp hnew
    obtain ⟨new', hnew'⟩ := rename_first hnew
    have hp' : (scope.withPolicy .first).placeholder? (.ref id) = none := hp
    rw [walk_ref hp']
    exact ⟨.ref new', Logged.result_bind_pure hnew', rfl⟩
  case binding =>
    intro stack id new hnew
    obtain ⟨new', hnew'⟩ := rename_first hnew
    rw [walk_binding]
    exact ⟨.binding new', Logged.result_bind_pure hnew', rfl⟩
  case name =>
    intro stack id new hnew
    obtain ⟨new', hnew'⟩ := rename_first hnew
    rw [walk_name]
    exact ⟨.name new', Logged.result_bind_pure hnew', rfl⟩
  case text =>
    intro stack value raw new hnew
    obtain ⟨new', hnew'⟩ := replaceInLiteral_first hnew
    rw [walk_text]
    exact ⟨.text new'.1 new'.2, Logged.result_bind_pure hnew', rfl⟩
  case shorthand =>
    intro stack id new hw hnew
    obtain ⟨new', hnew'⟩ := rename_first hnew
    have hw' : (scope.withPolicy .first).registry.wholeToken? id = none := hw
    rw [walk_shorthand hw']
    exact ⟨.shorthand new', Logged.result_bind_pure hnew', rfl⟩
  case atom =>
    intro stack a
    rw [walk_atom]
    exact ⟨.atom a, rfl, rfl⟩

/-! ## Where there is one token, the policies agree -/

theorem substituteSegments_eq_of_single {flavor : Flavor} {segments : List Token.Segment}
    (h : (Token.tokens segments).length ≤ 1) :
    (scope.withPolicy p).substituteSegments flavor segments =
      (scope.withPolicy q).substituteSegments flavor segments := by
  induction segments with
  | nil => rfl
  | cons segment rest ih =>
    cases segment with
    | char c => simp only [substituteSegments, ih h]
    | token name =>
      -- nothing behind the token is replaced, whether or not it is looked at
      have hnone : Token.tokens rest = [] := by simpa using h
      have hrest : ∀ policy, (scope.withPolicy policy).substituteSegments flavor rest = .ok ⟨verbatim rest, false⟩ := by
        intro policy
        apply substituteSegments_undeclared
        cases policy <;> simp [hnone, SubstitutionPolicy.considered]
      cases p <;> cases q <;> simp only [substituteSegments, withPolicy_policy, hrest, Logged.except_ok_bind] <;> rfl

theorem substitute_eq_of_single {flavor : Flavor} {text : String} (h : (Token.names text).length ≤ 1) :
    (scope.withPolicy p).substitute flavor text = (scope.withPolicy q).substitute flavor text := by
  simp only [substitute, substituteSegments_eq_of_single (p := p) (q := q) h]

/-- One visit does the same under both policies, whatever is done inside it. -/
theorem step_eq_of_atMostOneToken (visit : List String → Node → Logged Node) (stack : List String) {tree : Node}
    (h : tree.AtMostOneToken) :
    (scope.withPolicy p).step visit stack tree = (scope.withPolicy q).step visit stack tree := by
  have hrename : ∀ what id, tree.writing? = some id →
      (scope.withPolicy p).rename what id = (scope.withPolicy q).rename what id := by
    intro what id hid
    simp only [rename, substitute_eq_of_single (p := p) (q := q) (h id hid)]
  have hplaceholder : (scope.withPolicy p).placeholder? tree = (scope.withPolicy q).placeholder? tree := rfl
  unfold step
  rw [hplaceholder]
  split
  · rfl
  · cases tree with
    | ref id | binding id | name id =>
      simp only [renameIdentifier, renameProperty, hrename _ id rfl]
    | shorthand id =>
      simp only [renameIdentifier, hrename _ id rfl]
      rfl
    | text value raw =>
      simp only [replaceInLiteral, substitute_eq_of_single (p := p) (q := q) (h value rfl)]
    | atom a => rfl
    | node kind parts => rfl

theorem walk_eq_of_atMostOneToken (p q : SubstitutionPolicy) (v : Visit)
    (h : ∀ w, Relation.ReflTransGen ((scope.withPolicy p).Enters (scope.withPolicy p).walk) v w →
      w.tree.AtMostOneToken) :
    (scope.withPolicy p).walk v.stack v.tree = (scope.withPolicy q).walk v.stack v.tree := by
  induction v using (descends_wf (scope.withPolicy p)).induction with
  | _ v ih =>
  calc (scope.withPolicy p).walk v.stack v.tree
      = (scope.withPolicy p).step (scope.withPolicy p).walk v.stack v.tree := walk_eq_step ..
    _ = (scope.withPolicy p).step (scope.withPolicy q).walk v.stack v.tree :=
        step_congr_of_enters fun w hw => ih w hw.descends fun u hu => h u (.head hw hu)
    _ = (scope.withPolicy q).step (scope.withPolicy q).walk v.stack v.tree :=
        step_eq_of_atMostOneToken _ _ (h v .refl)
    _ = (scope.withPolicy q).walk v.stack v.tree := (walk_eq_step ..).symm

/-- A script that can be rendered under the policy `all` can be rendered under `first`, and the two results have the
same form. If no visit that takes place, under one policy or the other, meets more than one token in a text, the two
policies give the same result, be it a tree or an error, and the same records. -/
theorem render_policies (scope : Scope) (script : Node) :
    (∀ out, ((scope.withPolicy .all).render script).result = .ok out →
      ∃ out', ((scope.withPolicy .first).render script).result = .ok out' ∧ out'.erased = out.erased) ∧
    ∀ policy, (∀ v, (scope.withPolicy policy).Visits script v → v.tree.AtMostOneToken) →
      (scope.withPolicy .first).render script = (scope.withPolicy .all).render script := by
  refine ⟨fun out h => walk_first h, fun policy h => ?_⟩
  have hwalk : ∀ other, (scope.withPolicy policy).render script = (scope.withPolicy other).render script :=
    fun other => walk_eq_of_atMostOneToken policy other ⟨[], script⟩ h
  rw [← hwalk .first, ← hwalk .all]

/-- Two tokens in a name and in a literal, and a placeholder for a callee. -/
def twoTokens : Node :=
  .ofStatements [.statement (.node (.new true)
    [.ref "$F$", .ref "x$A$y$B$", .text "$Z$ $A$" (some "'$Z$ $A$'")])]

/-- A token in a name, and a placeholder whose argument leads to a name without one. -/
def oneToken : Node :=
  .ofStatements [.statement (.node (.call .plain) [.ref "get$A$", .ref "$G$"])]

/-- Arguments that hold two tokens in a name, and one that leads to a missing argument. -/
def tokenArguments : Scope :=
  ⟨⟨[("A", ""), ("B", ""), ("F", ""), ("G", ""), ("M", "")]⟩,
    [("A", .ofText "a"), ("B", .ofText "b"), ("F", .ofText "f().$A$$B$"), ("G", .ofText "[$M$, $A$]")], .all⟩

theorem render_twoTokens_oneToken :
    ((tokenArguments.withPolicy .all).render twoTokens).result = .ok (.ofStatements [.statement (.node (.new true)
      [.parenthesized (.node (.dot .plain) [.node (.call .plain) [.ref "f"], .name "ab"]), .ref "xayb",
        .text "$Z$ a" (some "'$Z$ a'")])]) ∧
    (∃ out, ((tokenArguments.withPolicy .first).render twoTokens).result = .ok out ∧
      out.erased = .ofStatements [.statement (.node (.new true)
        [.parenthesized (.node (.dot .plain) [.node (.call .plain) [.ref ""], .name ""]), .ref "", .text "" none])]) ∧
    (∀ v, (tokenArguments.withPolicy .all).Visits oneToken v → v.tree.AtMostOneToken) ∧
    ((tokenArguments.withPolicy .first).render oneToken).result = .error (.missingArgument "M") := by
  have hall : ((tokenArguments.withPolicy .all).render twoTokens).result = .ok (.ofStatements [.statement (.node
      (.new true) [.parenthesized (.node (.dot .plain) [.node (.call .plain) [.ref "f"], .name "ab"]), .ref "xayb",
        .text "$Z$ a" (some "'$Z$ a'")])]) := by
    rw [render, walk_eq_iterate 20]
    decide +kernel
  have hvisits : ∀ v, (tokenArguments.withPolicy .all).Visits oneToken v → v.tree.AtMostOneToken := by
    intro v hv
    have hevery : (tokenArguments.withPolicy .all).everyVisit (fun v => decide v.tree.AtMostOneToken) 20
        ⟨[], oneToken⟩ = true := by decide +kernel
    simpa using forall_visits_of_everyVisit hevery v hv.reaches
  refine ⟨hall, (render_policies tokenArguments twoTokens).1 _ hall, hvisits, ?_⟩
  rw [(render_policies tokenArguments oneToken).2 .all hvisits, render, walk_eq_iterate 20]
  decide +kernel

end Scope

end Stencil
