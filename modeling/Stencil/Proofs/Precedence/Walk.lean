import Stencil.Proofs.Precedence.Grammar
/-!
# Rendering keeps expressions apart

What is put in the place of an expression gets parentheses unless it is `Closed`: it stands anywhere but in the
callee of `new`, which is looked at after its parts. `Keeps` says what the places around a tree see of it, and that
they see no worse after the walk; `fits_node` and `keeps_node` are the step from the parts of a form to the form.
`render_wellParenthesised` is the statement about whole scripts.
-/

namespace Stencil.Scope

open Script Node

variable {scope : Scope} {g : Grouping}

/-! ## What a place sees of a tree -/

/-- A tree that stands anywhere without parentheses, but for the callee of `new`. -/
structure Closed (tree : Node) : Prop where
  level : tree.level = Level.tight
  opening : tree.opening? = none
  openIn : tree.hasOpenIn = false
  clash : ∀ op, tree.clashesWith op = false

/-- What the places around a tree see of `out` is no worse than what they see of `tree`. A statement stands only
where nothing is asked of it. -/
structure Keeps (tree out : Node) : Prop where
  level : tree.level ≤ out.level
  opening : Level.sequence ≤ tree.level → ∀ o, tree.opening? ≠ some o → out.opening? ≠ some o
  openIn : Level.sequence ≤ tree.level → tree.hasOpenIn = false → out.hasOpenIn = false
  clash : Level.sequence ≤ tree.level → ∀ op, tree.clashesWith op = false → out.clashesWith op = false

theorem level_le_tight (tree : Node) : tree.level ≤ Level.tight := by
  have hlink : ∀ link, Level.ofLink link ≤ Level.tight := by intro link; cases link <;> decide
  have hkind : ∀ kind : Kind, kind.level ≤ Level.tight := by
    intro kind
    cases kind with
    | binary op => cases op <;> decide
    | new hasArguments => cases hasArguments <;> decide
    | dot link => exact hlink link
    | index link => exact hlink link
    | call link => exact hlink link
    | _ => exact Nat.le_of_ble_eq_true rfl
  unfold Node.level
  split
  · exact hkind _
  all_goals decide

theorem Keeps.refl (tree : Node) : Keeps tree tree :=
  ⟨Nat.le_refl _, fun _ _ h => h, fun _ h => h, fun _ _ h => h⟩

theorem Keeps.trans {a b c : Node} (hab : Keeps a b) (hbc : Keeps b c) : Keeps a c where
  level := Nat.le_trans hab.level hbc.level
  opening hl o h := hbc.opening (Nat.le_trans hl hab.level) o (hab.opening hl o h)
  openIn hl h := hbc.openIn (Nat.le_trans hl hab.level) (hab.openIn hl h)
  clash hl op h := hbc.clash (Nat.le_trans hl hab.level) op (hab.clash hl op h)

theorem Closed.keeps {out : Node} (h : Closed out) (tree : Node) : Keeps tree out where
  level := by rw [h.level]; exact level_le_tight tree
  opening _ o _ := by simp [h.opening]
  openIn _ _ := h.openIn
  clash _ op _ := h.clash op

theorem keeps_of_statement {tree : Node} (h : tree.level = Level.statement) (out : Node) : Keeps tree out := by
  refine ⟨by rw [h]; exact Nat.zero_le _, ?_, ?_, ?_⟩ <;> (intro hl; rw [h] at hl; cases hl)

/-! ## From the parts of a form to the form -/

/-- What a form begins with is an expression. -/
theorem demand_of_opensWithFirst {kind : Kind} (h : kind.opensWithFirst = true) :
    Level.sequence ≤ kind.demand 0 := by
  cases kind with
  | script | block => cases h
  | update isPrefix _ => cases isPrefix <;> exact Nat.le_of_ble_eq_true rfl
  | binary op => cases op <;> decide
  | dot link => cases link <;> decide
  | index link => cases link <;> decide
  | call link => cases link <;> decide
  | _ => exact Nat.le_of_ble_eq_true rfl

/-- What stands in the open is an expression. -/
theorem demand_of_exposes {kind : Kind} {i : Nat} (h : kind.exposes i = true) : Level.sequence ≤ kind.demand i := by
  cases kind with
  | sequence | unary | await | yield | variableList => exact Nat.le_of_ble_eq_true rfl
  | update isPrefix _ => cases isPrefix <;> exact Nat.le_of_ble_eq_true rfl
  | binary op =>
    simp only [Kind.demand]
    cases op <;> split <;> decide
  | assign | arrow | declarator =>
    obtain rfl : i = 1 := by simpa [Kind.exposes] using h
    exact Nat.le_of_ble_eq_true rfl
  | conditional =>
    simp only [Kind.demand]
    split <;> decide
  | _ => cases h

theorem anyOpenIn_eq_false_iff {kind : Kind} {parts : List Node} {i : Nat} :
    anyOpenIn kind i parts = false ↔ ∀ p ∈ parts.zipIdx i, kind.exposes p.2 = true → p.1.hasOpenIn = false := by
  induction parts generalizing i with
  | nil => simp [anyOpenIn]
  | cons part rest ih =>
    simp only [anyOpenIn, Bool.or_eq_false_iff, ih, List.zipIdx_cons, List.forall_mem_cons]
    cases kind.exposes i <;> simp

theorem closed_node {kind : Kind} {parts : List Node} (hlevel : kind.level = Level.tight)
    (hopening : (Node.node kind parts).opening? = none) (hexposes : ∀ i, kind.exposes i = false) :
    Closed (.node kind parts) := by
  have hbinary : ∀ op, kind ≠ .binary op := by
    rintro op rfl
    cases op <;> cases hlevel
  refine ⟨hlevel, hopening, ?_, fun op => ?_⟩
  · simp [hasOpenIn, hbinary, anyOpenIn_eq_false_iff, hexposes]
  · unfold clashesWith
    split
    · rename_i heq
      cases heq
      exact absurd rfl (hbinary _)
    · rfl

theorem closed_parenthesized (tree : Node) : Closed (.parenthesized tree) := closed_node rfl rfl fun _ => rfl

/-- What a form looks like from outside, when it is built from other parts that look no worse. -/
theorem keeps_node {kind : Kind} {parts outs : List Node} (hfits : g.Fits (.node kind parts))
    (h : List.Forall₂ Keeps parts outs) : Keeps (.node kind parts) (.node kind outs) where
  level := Nat.le_refl _
  opening _ o ho := by
    cases h with
    | nil => exact ho
    | @cons first _ _ _ hfirst _ =>
      simp only [opening?] at ho ⊢
      split <;> rename_i hopens
      · rw [if_pos hopens] at ho
        have hlevel := Nat.le_trans (demand_of_opensWithFirst hopens) (hfits.1 (first, 0) (by simp))
        exact hfirst.opening hlevel o ho
      · rwa [if_neg hopens] at ho
  openIn _ ho := by
    simp only [hasOpenIn, Bool.or_eq_false_iff, anyOpenIn_eq_false_iff] at ho ⊢
    refine ⟨ho.1, fun p hp hexposed => ?_⟩
    obtain ⟨part, hpart, hkeeps⟩ := forall₂_zipIdx h hp
    have hlevel := Nat.le_trans (demand_of_exposes hexposed) (hfits.1 (part, p.2) hpart)
    exact hkeeps.openIn hlevel (ho.2 (part, p.2) hpart hexposed)
  clash _ op ho := by cases kind <;> exact ho

/-- The rules for a form are kept, when it is built from other parts that look no worse; callees apart. -/
theorem fits_node {bodies : List Opening} {kind : Kind} {parts outs : List Node}
    (hfits : Grouping.Fits ⟨bodies, false⟩ (.node kind parts)) (h : List.Forall₂ Keeps parts outs) :
    Grouping.Fits ⟨bodies, false⟩ (.node kind outs) := by
  obtain ⟨hlevels, hadmits⟩ := hfits
  refine ⟨fun p hp => ?_, ?_⟩
  · obtain ⟨part, hpart, hkeeps⟩ := forall₂_zipIdx h hp
    exact Nat.le_trans (hlevels (part, p.2) hpart) hkeeps.level
  -- each other rule is about parts whose place demands an expression, and of expressions `Keeps` says all of it
  cases kind with
  | expressionStatement =>
    cases h with
    | nil => rfl
    | @cons value _ _ _ hvalue _ =>
      have hlevel := hlevels (value, 0) (by simp)
      simp only [Grouping.admits, beq_iff_eq] at hadmits ⊢
      exact Option.eq_none_iff_forall_ne_some.2 fun o => hvalue.opening hlevel o (by simp [hadmits])
  | arrow =>
    cases h with
    | nil => rfl
    | cons _ hrest =>
      cases hrest with
      | nil => rfl
      | @cons body _ _ _ hbody _ =>
        have hlevel := Nat.le_of_succ_le (hlevels (body, 1) (by simp))
        simp only [Grouping.admits, List.all_eq_true, bne_iff_ne] at hadmits ⊢
        exact fun o ho => hbody.opening hlevel o (hadmits o ho)
  | binary op =>
    simp only [Grouping.admits, List.all_eq_true, Bool.not_eq_true'] at hadmits ⊢
    intro out hout
    obtain ⟨i, hi⟩ := List.mem_iff_getElem?.1 hout
    have hzip : (out, i) ∈ outs.zipIdx := List.mem_zipIdx_iff_getElem?.2 hi
    obtain ⟨part, hpart, hkeeps⟩ := forall₂_zipIdx h hzip
    have hlevel := Nat.le_trans (demand_of_exposes rfl) (hlevels (part, i) hpart)
    exact hkeeps.clash hlevel op (hadmits part (List.fst_mem_of_mem_zipIdx hpart))
  | forLoop | forIn | forOf =>
    cases h with
    | nil => rfl
    | @cons head _ _ _ hhead _ =>
      have hlevel := hlevels (head, 0) (by simp)
      simp only [Grouping.admits, Bool.not_eq_true'] at hadmits ⊢
      exact hhead.openIn (Nat.le_trans (Nat.le_of_ble_eq_true rfl) hlevel) hadmits
  | new => cases h <;> rfl
  | _ => rfl

/-! ## Callees of `new` -/

/-- A callee without a call in its chain has no call at the head of it. -/
theorem isCall_chainHead {tree : Node} (h : callsInChain tree = false) : tree.chainHead.isCall = false := by
  fun_induction chainHead tree with
  | case1 _ _ ih => exact ih h
  | case2 _ _ ih => exact ih h
  | case3 _ _ _ ih => exact ih h
  | case4 tree hdot hindex htagged =>
    unfold isCall
    split
    · simp [callsInChain] at h
    · simp [callsInChain] at h
    · rename_i link object _
      cases link <;> simp_all [callsInChain]
    · rename_i link object _
      cases link <;> simp_all [callsInChain]
    · rfl

theorem guardCallee_cases (callee : Node) :
    guardCallee callee = callee ∧ callee.chainHead.isCall = false ∨ guardCallee callee = .parenthesized callee := by
  unfold guardCallee
  split <;> rename_i h
  · exact .inr rfl
  · exact .inl ⟨rfl, isCall_chainHead (by simpa using h)⟩

theorem keeps_guardCallee (callee : Node) : Keeps callee (guardCallee callee) := by
  rcases guardCallee_cases callee with ⟨h, -⟩ | h <;> rw [h]
  · exact .refl callee
  · exact (closed_parenthesized callee).keeps callee

/-- Without a call in the callee of `new`, looking at callees asks for no more. -/
theorem fits_of_callee {bodies : List Opening} {kind : Kind} {parts : List Node}
    (h : Grouping.Fits ⟨bodies, false⟩ (.node kind parts))
    (hcallee : ∀ hasArguments callee args, kind = .new hasArguments → parts = callee :: args →
      callee.chainHead.isCall = false) : Grouping.Fits ⟨bodies, true⟩ (.node kind parts) := by
  obtain ⟨hlevels, hadmits⟩ := h
  refine ⟨hlevels, ?_⟩
  cases kind with
  | new hasArguments =>
    cases parts with
    | nil => rfl
    | cons callee args => simp [Grouping.admits, hcallee hasArguments callee args rfl rfl]
  | expressionStatement | arrow | forLoop | forIn | forOf => rcases parts with _ | ⟨_, _ | _⟩ <;> exact hadmits
  | _ => exact hadmits

/-- A form is put together so that its callee has no call in the open, and looks no worse than before. -/
theorem fits_reassemble {bodies : List Opening} {kind : Kind} {parts outs : List Node}
    (hfits : Grouping.Fits ⟨bodies, false⟩ (.node kind parts)) (h : List.Forall₂ Keeps parts outs) :
    Grouping.Fits ⟨bodies, true⟩ (reassemble kind outs) ∧ Keeps (.node kind parts) (reassemble kind outs) := by
  unfold reassemble
  split
  · rename_i hasArguments callee args
    obtain _ | ⟨hcallee, hargs⟩ := h
    -- parentheses around the callee look no worse than the callee
    have hguarded := List.Forall₂.cons (hcallee.trans (keeps_guardCallee callee)) hargs
    refine ⟨fits_of_callee (fits_node hfits hguarded) ?_, keeps_node hfits hguarded⟩
    rintro _ _ _ - ⟨⟩
    rcases guardCallee_cases callee with ⟨heq, hcall⟩ | heq <;> rw [heq]
    · exact hcall
    · rfl
  · rename_i hnot
    refine ⟨fits_of_callee (fits_node hfits h) ?_, keeps_node hfits h⟩
    rintro hasArguments callee args rfl rfl
    exact absurd rfl (hnot hasArguments callee args rfl)

/-! ## What is put in -/

/-- An expression needs no parentheses where it is put in, or gets them. -/
theorem closed_guardPrecedence {e : Node} (h : isSelfContained e = true → e.opening? = none) :
    Closed (guardPrecedence e) := by
  unfold guardPrecedence
  split <;> rename_i hself
  · have hopening := h hself
    unfold isSelfContained at hself
    split at hself
    · exact ⟨rfl, rfl, rfl, fun _ => rfl⟩
    · exact ⟨rfl, rfl, rfl, fun _ => rfl⟩
    · rename_i a
      cases a <;> simp only [Bool.false_eq_true] at hself <;> exact ⟨rfl, rfl, rfl, fun _ => rfl⟩
    · split at hself <;> simp only [Bool.false_eq_true] at hself <;> exact closed_node rfl hopening fun _ => rfl
    · cases hself
  · exact closed_parenthesized e

theorem fits_parenthesized {e : Node} (h : Level.sequence ≤ e.level) : g.Fits (.parenthesized e) :=
  ⟨by simpa [Kind.demand] using h, rfl⟩

/-- A function that is called at once keeps all rules, whatever its body. -/
theorem wellParenthesised_invoked {body : List Node} (h : ∀ s ∈ body, g.WellParenthesised s) :
    g.WellParenthesised (Argument.invoked body) := by
  have hblock : g.WellParenthesised (.node .block body) := everywhere_node.2 ⟨⟨fun _ _ => Nat.zero_le _, rfl⟩, h⟩
  have hparameters : g.WellParenthesised (.node .parameters []) := ⟨⟨by simp, rfl⟩, trivial⟩
  have hfunction : g.Fits (.node (.functionExpression {}) [.absent, .node .parameters [], .node .block body]) :=
    ⟨by simp [Kind.demand, Node.level, Kind.level, absent, Level.sequence, Level.tight], rfl⟩
  refine everywhere_node.2 ⟨⟨by simp [Kind.demand, Node.level, Kind.level, parenthesized, Level.ofLink], rfl⟩, ?_⟩
  refine List.forall_mem_singleton.2 (everywhere_node.2 ⟨fits_parenthesized (Nat.le_of_ble_eq_true rfl), ?_⟩)
  refine List.forall_mem_singleton.2 (everywhere_node.2 ⟨hfunction, ?_⟩)
  simp only [List.mem_cons, List.not_mem_nil, or_false, forall_eq_or_imp, forall_eq]
  exact ⟨trivial, hparameters, hblock⟩

/-- What an argument is as an expression, before it gets parentheses. -/
theorem wellParenthesised_asExpression {body : List Node} (h : ∀ s ∈ body, g.WellParenthesised s) :
    g.WellParenthesised (Argument.asExpression body) ∧ Level.sequence ≤ (Argument.asExpression body).level ∧
      (isSelfContained (Argument.asExpression body) = true → (Argument.asExpression body).opening? = none) := by
  refine ⟨everywhere_asExpression h (fun _ _ hd => ⟨hd.1, rfl⟩) (wellParenthesised_invoked h), ?_⟩
  unfold Argument.asExpression
  split
  · rename_i value
    -- it began a statement of its own, so it begins with nothing that a statement takes for something else
    obtain ⟨hlevels, hadmits⟩ := (h _ List.mem_cons_self).here
    exact ⟨hlevels (value, 0) (by simp), fun _ => by simpa [Grouping.admits] using hadmits⟩
  · exact ⟨Nat.le_of_ble_eq_true rfl, fun hself => by cases hself⟩
  · exact ⟨Nat.le_of_ble_eq_true rfl, fun _ => rfl⟩

/-- What is put in the place of an expression stands there without further parentheses. -/
theorem spliced_expression (hargs : scope.ArgumentScripts g.WellParenthesised) {name : String} {r : Node}
    (h : scope.spliced .expression name = .ok r) : g.WellParenthesised r ∧ Closed r := by
  obtain ⟨script, hscript, ⟨hplace, -⟩ | ⟨-, rfl⟩⟩ := spliced_script hargs h
  · cases hplace
  obtain ⟨hwell, hlevel, hopening⟩ := wellParenthesised_asExpression fun s hs => Everywhere.part hscript hs
  exact ⟨everywhere_guardPrecedence hwell (fits_parenthesized hlevel), closed_guardPrecedence hopening⟩

theorem spliced_statement (hargs : scope.ArgumentScripts g.WellParenthesised) {name : String} {r : Node}
    (h : scope.spliced .statement name = .ok r) : g.WellParenthesised r := by
  obtain ⟨script, hscript, ⟨-, rfl⟩ | ⟨hplace, -⟩⟩ := spliced_script hargs h
  · exact everywhere_asStatement (fun s hs => Everywhere.part hscript hs) ⟨fun _ _ => Nat.zero_le _, rfl⟩
  · cases hplace

/-- What is put in for a placeholder keeps the rules, and so does the place it is put in. -/
theorem spliced_keeps (hargs : scope.ArgumentScripts g.WellParenthesised) {tree : Node} {place : Place} {name : String}
    {r : Node} (hp : scope.IsPlaceholder tree place name) (h : scope.spliced place name = .ok r) :
    g.WellParenthesised r ∧ ∀ out, Keeps r out → Keeps tree out := by
  cases hp with
  | statement => exact ⟨spliced_statement hargs h, fun out _ => keeps_of_statement rfl out⟩
  | expression =>
    obtain ⟨hwell, hclosed⟩ := spliced_expression hargs h
    exact ⟨hwell, fun out hout => (hclosed.keeps _).trans hout⟩

theorem wellParenthesised_of_isBareIdentifier {tree : Node} (h : tree.isBareIdentifier = true) :
    g.WellParenthesised tree := by
  unfold isBareIdentifier at h
  split at h
  · trivial
  · exact ⟨⟨by simp [Kind.demand, Node.level, Level.sequence, Level.tight], rfl⟩, trivial, trivial⟩
  · cases h

/-! ## The walk -/

/-- A form whose parts have been walked keeps all rules. -/
theorem wellParenthesised_reassemble {bodies : List Opening} {kind : Kind} {parts outs : List Node}
    (hfits : Grouping.Fits ⟨bodies, false⟩ (.node kind parts))
    (h : List.Forall₂ (fun part out => Grouping.WellParenthesised ⟨bodies, true⟩ out ∧ Keeps part out) parts outs) :
    Grouping.WellParenthesised ⟨bodies, true⟩ (reassemble kind outs) ∧
      Keeps (.node kind parts) (reassemble kind outs) := by
  have hkeeps : List.Forall₂ Keeps parts outs := h.imp fun _ _ hw => hw.2
  obtain ⟨hfit, hkept⟩ := fits_reassemble hfits hkeeps
  refine ⟨(everywhere_reassemble ?_).2 ⟨hfit, fun out hm => ?_⟩, hkept⟩
  · rintro hasArguments callee args rfl rfl
    have hlevel := (fits_node hfits hkeeps).1 (callee, 0) (by simp)
    exact fits_parenthesized (Nat.le_trans (Nat.le_of_ble_eq_true rfl) hlevel)
  · obtain ⟨part, -, hout, -⟩ := forall₂_mem_right h hm
    exact hout

/-- A walk leaves every expression where the grammar admits it, and no place sees a difference for the worse. -/
theorem walk_wellParenthesised {bodies : List Opening}
    (hargs : scope.ArgumentScripts (Grouping.WellParenthesised ⟨bodies, false⟩)) {stack : List String}
    {tree out : Node} (h : (scope.walk stack tree).result = .ok out)
    (htree : Grouping.WellParenthesised ⟨bodies, false⟩ tree) :
    Grouping.WellParenthesised ⟨bodies, true⟩ out ∧ Keeps tree out := by
  revert htree
  refine walk_ok_induction (P := fun _ tree out => Grouping.WellParenthesised ⟨bodies, false⟩ tree →
    Grouping.WellParenthesised ⟨bodies, true⟩ out ∧ Keeps tree out)
    ?leaf ?splice ?ref ?binding ?name ?text ?split ?shorthand ?atom ?node h
  case leaf =>
    intro _ tree place name r hp _ hr hb _
    exact ⟨wellParenthesised_of_isBareIdentifier hb, (spliced_keeps hargs hp hr).2 r (.refl r)⟩
  case splice =>
    intro _ tree place name r out hp _ hr _ _ ih _
    obtain ⟨hwell, hkeeps⟩ := spliced_keeps hargs hp hr
    exact ⟨(ih hwell).1, hkeeps out (ih hwell).2⟩
  case split =>
    intro _ id out _ _ ih _
    have hproperty : Grouping.Fits ⟨bodies, false⟩ (.node .property [.name id, .ref id]) :=
      ⟨by simp [Kind.demand, Node.level, Level.sequence, Level.assignment, Level.tight], rfl⟩
    have hclosed : Closed (.node .property [.name id, .ref id]) := closed_node rfl rfl fun _ => rfl
    obtain ⟨hout, hkeeps⟩ := ih ⟨hproperty, trivial, trivial, trivial⟩
    exact ⟨hout, (hclosed.keeps _).trans hkeeps⟩
  case node =>
    intro _ kind parts outs _ hall htree
    obtain ⟨hfits, hparts⟩ := everywhere_node.1 htree
    have hwalked := (List.forall₂_and_left _ _).2 ⟨hparts, hall⟩
    exact wellParenthesised_reassemble hfits (hwalked.imp fun _ _ hw => hw.2.2 hw.1)
  case atom => exact fun _ a _ => ⟨trivial, .refl _⟩
  -- the other leaves stand anywhere, whatever is written in them
  all_goals
    intros
    exact ⟨trivial, Closed.keeps ⟨rfl, rfl, rfl, fun _ => rfl⟩ _⟩

/-- If the script and the scripts of its arguments are well-parenthesised, callees of `new` apart, then so is
what rendering gives, callees included. -/
theorem render_wellParenthesised (bodies : List Opening) (scope : Scope) (script out : Node)
    (hscript : Grouping.WellParenthesised ⟨bodies, false⟩ script)
    (hargs : scope.ArgumentScripts (Grouping.WellParenthesised ⟨bodies, false⟩))
    (h : (scope.render script).result = .ok out) : Grouping.WellParenthesised ⟨bodies, true⟩ out :=
  (walk_wellParenthesised hargs h hscript).1

/-- A power and an instance, both of placeholders. -/
def powerAndInstance : Node :=
  .ofStatements [.statement (.node (.binary .power) [.ref "$E$", .ref "n"]),
    .statement (.node (.new true) [.ref "$F$"])]

/-- Arguments that may not stand there as they are. -/
def openScope : Scope := ⟨⟨[("E", ""), ("F", "")]⟩, [("E", .ofText "-x"), ("F", .ofText "f().g")], .all⟩

theorem openScope_render :
    let bodies := [Opening.brace, .functionKeyword, .classKeyword]
    Grouping.WellParenthesised ⟨bodies, false⟩ powerAndInstance ∧
      openScope.ArgumentScripts (Grouping.WellParenthesised ⟨bodies, false⟩) ∧
      ∃ out, (openScope.render powerAndInstance).result = .ok out ∧ Grouping.WellParenthesised ⟨bodies, true⟩ out := by
  intro bodies
  have hscript : Grouping.WellParenthesised ⟨bodies, false⟩ powerAndInstance := by decide
  have hargs : openScope.ArgumentScripts (Grouping.WellParenthesised ⟨bodies, false⟩) :=
    argumentScripts_of_entries (by decide +kernel)
  have hout : (openScope.render powerAndInstance).result = .ok (.ofStatements
      [.statement (.node (.binary .power)
        [.parenthesized (.node (.unary .minus) [.ref "x"]), .ref "n"]),
      .statement (.node (.new true)
        [.parenthesized (.node (.dot .plain) [.node (.call .plain) [.ref "f"], .name "g"])])]) := by
    rw [render, walk_eq_iterate 20]
    decide +kernel
  exact ⟨hscript, hargs, _, hout, render_wellParenthesised bodies _ _ _ hscript hargs hout⟩

end Stencil.Scope
