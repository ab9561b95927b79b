import Stencil.Proofs.Renaming
/-!
# Expansion does not depend on where it takes place

The names that are being expanded decide whether a walk succeeds, and not what it gives. `walk_of_subset` says that a
successful walk stays the same when fewer names are being expanded, so one placeholder in one kind of place has one
`expansion`. `walk_filled` is what a successful walk gives: the tree with these expansions in the place of its
placeholders, and each of them is made of expansions in the same way. `walk_context_free` is the statement.
-/

namespace Stencil.Scope

open Script

variable {scope : Scope}

/-! ## Fewer names -/

/-- What succeeds while names are being expanded succeeds in the same way while only some of them are. -/
theorem walk_of_subset {s t : List String} {tree out : Node} (hst : s ⊆ t)
    (h : (scope.walk t tree).result = .ok out) : (scope.walk s tree).result = .ok out := by
  refine walk_ok_induction (P := fun stack tree out => ∀ s ⊆ stack, (scope.walk s tree).result = .ok out)
    ?leaf ?splice ?ref ?binding ?name ?text ?split ?shorthand ?atom ?node h s hst
  -- a name that is not among many is not among some of them
  case leaf =>
    intro stack tree place name r hp hs hr hb s hst
    exact walk_bare hp (fun hm => hs (hst hm)) hr hb
  case splice =>
    intro stack tree place name r out hp hs hr hb _ ih s hst
    rw [walk_spliced hp (fun hm => hs (hst hm)) hr hb]
    exact ih _ (List.cons_subset_cons name hst)
  case split =>
    intro stack id out hw _ ih s hst
    rw [walk_split hw]
    exact ih s hst
  case node =>
    intro stack kind parts outs hp hparts s hst
    exact walk_parts hp (hparts.imp fun part out hpart => hpart.2 s hst)
  -- all other leaves are looked at without the names
  case ref =>
    intro stack id new hp hn s _
    rw [walk_ref hp]
    exact Logged.result_bind_pure hn
  case binding =>
    intro stack id new hn s _
    rw [walk_binding]
    exact Logged.result_bind_pure hn
  case name =>
    intro stack id new hn s _
    rw [walk_name]
    exact Logged.result_bind_pure hn
  case text =>
    intro stack value raw new hn s _
    rw [walk_text]
    exact Logged.result_bind_pure hn
  case shorthand =>
    intro stack id new hw hn s _
    rw [walk_shorthand hw]
    exact Logged.result_bind_pure hn
  case atom =>
    intro stack a s _
    rw [walk_atom]
    rfl

/-- Two walks of a tree that succeed give the same. -/
theorem walk_unique {s t : List String} {tree out out' : Node} (h : (scope.walk s tree).result = .ok out)
    (h' : (scope.walk t tree).result = .ok out') : out = out' := by
  have hempty := walk_of_subset (List.nil_subset s) h
  rw [walk_of_subset (List.nil_subset t) h'] at hempty
  exact (Except.ok.inj hempty).symm

/-! ## Placeholders filled -/

/-- What a placeholder in a kind of place becomes if nothing is being expanded around it. -/
def expansion (scope : Scope) (place : Place) (name : String) : Node :=
  match scope.spliced place name with
  | .ok r =>
    if r.isBareIdentifier then r
    else match (scope.walk [] r).result with
      | .ok out => out
      | .error _ => r
  | .error _ => .absent

mutual

/-- The tree with something in the place of its placeholders and with the tokens replaced in all other names and
literals. -/
def filled (scope : Scope) (put : Place → String → Node) : Node → Node
  | .ref id =>
    match scope.registry.wholeToken? id with
    | some name => put .expression name
    | none => .ref (scope.replaced .identifier id)
  | .binding id => .binding (scope.replaced .identifier id)
  | .name id => .name (scope.replaced .identifier id)
  | .text value raw =>
    let new := scope.replaced .literal value
    if new = value then .text value raw else .text new (some (Quoted.single new))
  | .shorthand id =>
    match scope.registry.wholeToken? id with
    | some name => .node .property [.name (scope.replaced .identifier id), put .expression name]
    | none => .shorthand (scope.replaced .identifier id)
  | .atom a => .atom a
  | .node kind parts =>
    match scope.statementPlaceholder? (.node kind parts) with
    | some name => put .statement name
    | none => reassemble kind (scope.filledAll put parts)

/-- The trees with something in the place of their placeholders. -/
def filledAll (scope : Scope) (put : Place → String → Node) : List Node → List Node
  | [] => []
  | tree :: rest => scope.filled put tree :: scope.filledAll put rest

end

variable {put : Place → String → Node}

theorem filled_placeholder {tree : Node} {place : Place} {name : String} (hp : scope.IsPlaceholder tree place name) :
    scope.filled put tree = put place name := by
  cases hp with
  | statement h => simp [Node.statement, filled, statementPlaceholder?, expressionPlaceholder?, h]
  | expression h => simp [filled, h]

theorem filled_form {kind : Kind} {parts : List Node} (hp : scope.placeholder? (.node kind parts) = none) :
    scope.filled put (.node kind parts) = reassemble kind (scope.filledAll put parts) := by
  have hstatement : scope.statementPlaceholder? (.node kind parts) = none := by
    simpa [placeholder?, expressionPlaceholder?] using hp
  rw [filled, hstatement]

theorem filledAll_eq_map (trees : List Node) : scope.filledAll put trees = trees.map (scope.filled put) := by
  induction trees with
  | nil => rfl
  | cons tree rest ih => rw [filledAll, ih, List.map_cons]

theorem replaced_of_rename {what id new : String} (h : (scope.rename what id).result = .ok new) :
    new = scope.replaced .identifier id := by
  rcases rename_ok_cases h with ⟨hs, rfl⟩ | hs <;> rw [replaced, hs]

theorem expansion_of_bare {place : Place} {name : String} {r : Node} (hr : scope.spliced place name = .ok r)
    (hb : r.isBareIdentifier = true) : scope.expansion place name = r := by
  simp [expansion, hr, hb]

theorem expansion_of_walk {stack : List String} {place : Place} {name : String} {r out : Node}
    (hr : scope.spliced place name = .ok r) (hb : r.isBareIdentifier = false)
    (h : (scope.walk stack r).result = .ok out) : scope.expansion place name = out := by
  simp [expansion, hr, hb, walk_of_subset (List.nil_subset stack) h]

theorem filled_text {value : String} {raw : Option String} {new : String × Option String}
    (h : (scope.replaceInLiteral value raw).result = .ok new) :
    scope.filled put (.text value raw) = .text new.1 new.2 := by
  simp only [replaceInLiteral, Logged.bind_result, Logged.lift_result, Logged.except_bind_ok_iff] at h
  obtain ⟨result, hs, h⟩ := h
  have hnew : scope.replaced .literal value = result.getD value := by
    rw [replaced, hs]
    cases result <;> rfl
  simp only [filled, hnew]
  cases result with
  | none =>
    cases h
    exact if_pos rfl
  | some changed =>
    simp only at h
    split at h <;> rename_i heq
    · cases h
      exact if_pos heq
    · cases h
      exact if_neg heq

/-- A successful walk puts the expansions in the place of the placeholders, whatever is being expanded around it. -/
theorem walk_filled {stack : List String} {tree out : Node} (h : (scope.walk stack tree).result = .ok out) :
    out = scope.filled scope.expansion tree := by
  refine walk_ok_induction (P := fun _ tree out => out = scope.filled scope.expansion tree)
    ?leaf ?splice ?ref ?binding ?name ?text ?split ?shorthand ?atom ?node h
  case leaf =>
    intro stack tree place name r hp _ hr hb
    rw [filled_placeholder hp, expansion_of_bare hr hb]
  case splice =>
    intro stack tree place name r out hp _ hr hb hwalk _
    rw [filled_placeholder hp, expansion_of_walk hr hb hwalk]
  case split =>
    intro stack id out hw _ ih
    obtain ⟨name, hname⟩ := Option.isSome_iff_exists.1 hw
    rw [ih, filled_form rfl]
    simp [filledAll, filled, hname, reassemble]
  case node =>
    intro stack kind parts outs hp hparts
    have houts : outs = parts.map (scope.filled scope.expansion) := by
      have hequal : outs.map id = parts.map (scope.filled scope.expansion) :=
        (map_eq_of_forall₂ (hparts.imp fun part out hpart => hpart.2.symm)).symm
      simpa using hequal
    rw [filled_form hp, filledAll_eq_map, houts]
  case ref =>
    intro stack id new hp hn
    have hnone : scope.registry.wholeToken? id = none := hp
    rw [filled, hnone, replaced_of_rename hn]
  case binding =>
    intro stack id new hn
    rw [filled, replaced_of_rename hn]
  case name =>
    intro stack id new hn
    rw [filled, replaced_of_rename hn]
  case text =>
    intro stack value raw new hn
    exact (filled_text hn).symm
  case shorthand =>
    intro stack id new hw hn
    rw [filled, hw, replaced_of_rename hn]
  case atom =>
    intro stack a
    rw [filled]

/-! ## Placeholders that are met -/

/-- Inside a walk that succeeds every visit succeeds. -/
theorem walk_ok_of_descends {v w : Visit} (h : scope.Descends v w)
    (hv : ∃ out, (scope.walk v.stack v.tree).result = .ok out) :
    ∃ out, (scope.walk w.stack w.tree).result = .ok out := by
  obtain ⟨out, hv⟩ := hv
  cases h with
  | replacement hp hs hr hb => exact ⟨out, by rwa [walk_spliced hp hs hr hb] at hv⟩
  | shorthand hw => exact ⟨out, by rwa [walk_split hw] at hv⟩
  | part hp hm =>
    rw [walk_node hp, Logged.bind_result, Logged.except_bind_ok_iff] at hv
    obtain ⟨outs, houts, -⟩ := hv
    obtain ⟨out, -, hout⟩ := forall₂_mem_left ((Logged.mapM_result_ok_iff _ _ _).1 houts) hm
    exact ⟨out, hout⟩

theorem walk_ok_of_reaches {script : Node} {v : Visit} (hv : scope.Reaches script v)
    (h : ∃ out, (scope.render script).result = .ok out) : ∃ out, (scope.walk v.stack v.tree).result = .ok out := by
  induction hv with
  | refl => exact h
  | tail _ hd ih => exact walk_ok_of_descends hd ih

/-- Where a placeholder becomes something, it becomes its expansion, which is made of expansions in its turn. -/
theorem walk_placeholder_ok {stack : List String} {tree out : Node} {place : Place} {name : String}
    (hp : scope.IsPlaceholder tree place name) (h : (scope.walk stack tree).result = .ok out) :
    out = scope.expansion place name ∧ ∃ r, scope.spliced place name = .ok r ∧
      scope.expansion place name = if r.isBareIdentifier then r else scope.filled scope.expansion r := by
  refine ⟨(walk_filled h).trans (filled_placeholder hp), ?_⟩
  by_cases hs : name ∈ stack
  · rw [walk_recursive hp hs] at h
    cases h
  · rw [walk_expand hp hs, Logged.bind_result, expand_result hp, Logged.except_bind_ok_iff] at h
    obtain ⟨r, hr, h⟩ := h
    refine ⟨r, hr, ?_⟩
    split at h <;> rename_i hb
    · rw [if_pos hb, expansion_of_bare hr hb]
    · rw [if_neg hb, expansion_of_walk hr (by simpa using hb) h, walk_filled h]

/-- Two walks of a tree that succeed give the same, whatever is being expanded around them, and a walk that succeeds
also does so while fewer names are being expanded. In a script that is rendered every placeholder in the same kind of
place becomes the same tree, wherever it is met: in the script itself or inside an argument. -/
theorem walk_context_free (scope : Scope) :
    (∀ s t tree out out', (scope.walk s tree).result = .ok out → (scope.walk t tree).result = .ok out' → out = out') ∧
    (∀ s t tree out, s ⊆ t → (scope.walk t tree).result = .ok out → (scope.walk s tree).result = .ok out) ∧
    ∀ script out, (scope.render script).result = .ok out →
      out = scope.filled scope.expansion script ∧
      ∀ v, scope.Reaches script v → ∀ place name, scope.IsPlaceholder v.tree place name →
        (scope.walk v.stack v.tree).result = .ok (scope.expansion place name) ∧
        ∃ r, scope.spliced place name = .ok r ∧
          scope.expansion place name = if r.isBareIdentifier then r else scope.filled scope.expansion r := by
  refine ⟨fun _ _ _ _ _ => walk_unique, fun _ _ _ _ => walk_of_subset, fun script out h => ⟨walk_filled h, ?_⟩⟩
  intro v hv place name hp
  obtain ⟨out', hout⟩ := walk_ok_of_reaches hv ⟨out, h⟩
  obtain ⟨rfl, hr⟩ := walk_placeholder_ok hp hout
  exact ⟨hout, hr⟩

/-- A placeholder that stands in the script and inside the argument of another one. -/
def sharedArguments : Scope :=
  ⟨⟨[("A", ""), ("B", ""), ("C", "")]⟩,
    [("A", .ofText "[$C$]"), ("B", .ofText "g($A$)"), ("C", .ofText "c")], .all⟩

/-- The two placeholders beside each other. -/
def sideBySide : Node := .node (.call .plain) [.ref "f", .ref "$A$", .ref "$B$"]

theorem render_sideBySide :
    (sharedArguments.walk ["B"] (.ref "$A$")).result = .ok (.node .array [.ref "c"]) ∧
    (sharedArguments.walk [] (.ref "$A$")).result = .ok (.node .array [.ref "c"]) ∧
    sharedArguments.Reaches sideBySide ⟨["B"], .ref "$A$"⟩ ∧
    sharedArguments.expansion .expression "A" = .node .array [.ref "c"] ∧
    (∀ stack out, (sharedArguments.walk stack (.ref "$A$")).result = .ok out → out = .node .array [.ref "c"]) := by
  obtain ⟨hunique, hsubset, hrender⟩ := walk_context_free sharedArguments
  have hinside : (sharedArguments.walk ["B"] (.ref "$A$")).result = .ok (.node .array [.ref "c"]) := by
    rw [walk_eq_iterate 5]
    decide +kernel
  have hsuccess : (sharedArguments.render sideBySide).result = .ok (.node (.call .plain)
      [.ref "f", .node .array [.ref "c"], .node (.call .plain) [.ref "g", .node .array [.ref "c"]]]) := by
    rw [render, walk_eq_iterate 10]
    decide +kernel
  have hreaches : sharedArguments.Reaches sideBySide ⟨["B"], .ref "$A$"⟩ := by
    have hargument : sharedArguments.Descends ⟨[], .ref "$B$"⟩ ⟨["B"], .node (.call .plain) [.ref "g", .ref "$A$"]⟩ :=
      .replacement (.expression (by decide +kernel)) List.not_mem_nil (by decide +kernel) rfl
    exact ((Relation.ReflTransGen.single (.part (by decide +kernel) (by simp))).tail hargument).tail
      (.part (by decide +kernel) (by simp))
  obtain ⟨hexpansion, -⟩ := (hrender _ _ hsuccess).2 _ hreaches .expression "A" (.expression (by decide +kernel))
  exact ⟨hinside, hsubset _ _ _ _ (List.nil_subset _) hinside, hreaches, (hunique _ _ _ _ _ hinside hexpansion).symm,
    fun stack out h => hunique _ _ _ _ _ h hinside⟩

end Stencil.Scope
