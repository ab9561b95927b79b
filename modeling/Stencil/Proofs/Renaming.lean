import Stencil.Proofs.Substitution
import Stencil.Proofs.Walk
/-!
# Rendering with names

If every argument is a plain text that is read as one identifier of that name, rendering is renaming. A placeholder in
the place of a statement or an expression takes the way over a tree that is read and put in, one inside a name or a
literal the way over texts, and a shorthand property is split first. `renamed` knows one way only: tokens are replaced
in all names and literals. `named_spliced` and `substitute_wholeToken` say that the ways lead to the same name, and
`walk_renamed` that the walk gives what `renamed` gives. `render_renamed` is the statement about scripts.
-/

namespace Stencil

open Script

theorem Argument.ofText_toText (text : String) (flavor : Flavor) : (Argument.ofText text).toText flavor = .ok text := by
  cases flavor <;> rfl

namespace Scope

/-- Every declared name has a plain text that is read as one statement, the identifier of exactly that name. -/
def SuppliesNames (scope : Scope) : Prop :=
  ∀ name ∈ scope.registry.names, ∃ text, scope.arguments.find? name = some (.ofText text) ∧
    ∃ parsed, Script.parse text true = .ok parsed ∧ parsed.script.parts = [.statement (.ref text)]

/-! ## Renaming -/

/-- A text with its tokens replaced; it stays where none is. -/
def replaced (scope : Scope) (flavor : Flavor) (text : String) : String :=
  match scope.substitute flavor text with
  | .ok (some new) => new
  | _ => text

mutual

/-- The tree with the tokens replaced in all its names and literals. A shorthand property that is a placeholder
becomes a key and a value, and the callee of `new` gets the parentheses that it needs. -/
def renamed (scope : Scope) : Node → Node
  | .ref id => .ref (scope.replaced .identifier id)
  | .binding id => .binding (scope.replaced .identifier id)
  | .name id => .name (scope.replaced .identifier id)
  | .text value raw =>
    let new := scope.replaced .literal value
    if new = value then .text value raw else .text new (some (Quoted.single new))
  | .shorthand id =>
    let new := scope.replaced .identifier id
    if (scope.registry.wholeToken? id).isSome then .node .property [.name new, .ref new] else .shorthand new
  | .atom a => .atom a
  | .node kind parts => reassemble kind (scope.renamedAll parts)

/-- The trees with the tokens replaced in all their names and literals. -/
def renamedAll (scope : Scope) : List Node → List Node
  | [] => []
  | tree :: rest => scope.renamed tree :: scope.renamedAll rest

end

variable {scope : Scope}

/-! ## One name -/

theorem named_textOf {name text : String} (ha : scope.arguments.find? name = some (.ofText text)) (flavor : Flavor) :
    scope.textOf flavor name = .ok text := by
  simp [textOf, argument, ha, Argument.ofText_toText]

/-- What is put in the place of a statement or an expression is the name that is put in other names. -/
theorem named_spliced (h : scope.SuppliesNames) {name text : String} (hn : name ∈ scope.registry.names)
    (ha : scope.arguments.find? name = some (.ofText text)) :
    scope.spliced .statement name = .ok (.statement (.ref text)) ∧
      scope.spliced .expression name = .ok (.ref text) := by
  obtain ⟨text', ha', parsed, hparse, hparts⟩ := h name hn
  have htext : text' = text := by
    have := (named_textOf ha' .default).symm.trans (named_textOf ha .default)
    simpa using this
  subst htext
  have hstatements : ∀ flavor, (Argument.ofText text').statements flavor = .ok [.statement (.ref text')] := by
    intro flavor
    simp [Argument.statements, Argument.ofText_toText, hparse, hparts]
  constructor
  · simp only [spliced, argument, ha, Logged.except_ok_bind, Argument.toStatement, hstatements]
    rfl
  · simp only [spliced, argument, ha, Logged.except_ok_bind, Argument.toExpression, hstatements]
    rfl

/-! ## Texts -/

theorem named_substitute (h : scope.SuppliesNames) (flavor : Flavor) (text : String) :
    ∃ new, scope.substitute flavor text = .ok new := by
  refine substitute_ok_of_textOf (fun name hn => ?_) text
  obtain ⟨text', ha, -⟩ := h name hn
  exact ⟨text', named_textOf ha flavor⟩

theorem named_rename (h : scope.SuppliesNames) (what id : String) :
    (scope.rename what id).result = .ok (scope.replaced .identifier id) := by
  obtain ⟨new, hnew⟩ := named_substitute h .identifier id
  simp only [rename, replaced, Logged.bind_result, Logged.lift_result, hnew, Logged.except_ok_bind]
  cases new with
  | none => rfl
  | some new => rfl

theorem named_replaceInLiteral (h : scope.SuppliesNames) (value : String) (raw : Option String) :
    (scope.replaceInLiteral value raw).result = .ok (if scope.replaced .literal value = value then (value, raw)
      else (scope.replaced .literal value, some (Quoted.single (scope.replaced .literal value)))) := by
  obtain ⟨new, hnew⟩ := named_substitute h .literal value
  simp only [replaceInLiteral, replaced, Logged.bind_result, Logged.lift_result, hnew, Logged.except_ok_bind]
  cases new with
  | none => simp
  | some new =>
    by_cases heq : new = value
    · simp [heq]
    · simp only [heq, if_false]
      rfl

/-! ## The walk -/

theorem walk_placeholder_renamed (h : scope.SuppliesNames) {tree : Node} {place : Place} {name : String}
    (hp : scope.IsPlaceholder tree place name) : (scope.walk [] tree).result = .ok (scope.renamed tree) := by
  have hn := mem_names_of_placeholder? (placeholder?_eq_some_iff.2 ⟨place, hp⟩)
  obtain ⟨text, ha, -⟩ := h name hn
  obtain ⟨hstatement, hexpression⟩ := named_spliced h hn ha
  have hreplaced : ∀ {id}, scope.registry.wholeToken? id = some name → scope.replaced .identifier id = text := by
    intro id hw
    simp [replaced, substitute_wholeToken hw (named_textOf ha .identifier)]
  cases hp with
  | statement hw =>
    rw [walk_bare (.statement hw) (by simp) hstatement rfl]
    simp [renamed, renamedAll, Node.statement, reassemble, hreplaced hw]
  | expression hw =>
    rw [walk_bare (.expression hw) (by simp) hexpression rfl]
    simp [renamed, hreplaced hw]

mutual

/-- The walk of a tree renames it. Nothing is put in that is walked again, so the tree gets smaller. -/
theorem walk_renamed (h : scope.SuppliesNames) : (tree : Node) → (scope.walk [] tree).result = .ok (scope.renamed tree)
  | .ref id => by
    cases hp : scope.placeholder? (.ref id) with
    | some name =>
      obtain ⟨place, hp⟩ := placeholder?_eq_some_iff.1 hp
      exact walk_placeholder_renamed h hp
    | none =>
      rw [walk_ref hp]
      exact Logged.result_bind_pure (named_rename h _ id)
  | .binding id => by
    rw [walk_binding]
    exact Logged.result_bind_pure (named_rename h _ id)
  | .name id => by
    rw [walk_name]
    exact Logged.result_bind_pure (named_rename h _ id)
  | .text value raw => by
    rw [walk_text, Logged.result_bind_pure (named_replaceInLiteral h value raw), renamed]
    split <;> rfl
  | .shorthand id => by
    cases hw : scope.registry.wholeToken? id with
    | some name =>
      have hkey : (scope.walk [] (.name id)).result = .ok (scope.renamed (.name id)) := by
        rw [walk_name]
        exact Logged.result_bind_pure (named_rename h _ id)
      have hvalue := walk_placeholder_renamed h (.expression hw)
      rw [walk_split (by simp [hw]), walk_parts rfl (.cons hkey (.cons hvalue .nil))]
      simp [renamed, reassemble, hw]
    | none =>
      have hrenamed : scope.renamed (.shorthand id) = .shorthand (scope.replaced .identifier id) := by
        simp [renamed, hw]
      rw [walk_shorthand hw, hrenamed]
      exact Logged.result_bind_pure (named_rename h _ id)
  | .atom a => by
    rw [walk_atom]
    rfl
  | .node kind parts => by
    cases hp : scope.placeholder? (.node kind parts) with
    | some name =>
      obtain ⟨place, hp⟩ := placeholder?_eq_some_iff.1 hp
      exact walk_placeholder_renamed h hp
    | none => exact walk_parts hp (walk_renamedAll h parts)

theorem walk_renamedAll (h : scope.SuppliesNames) : (trees : List Node) →
    List.Forall₂ (fun tree out => (scope.walk [] tree).result = .ok out) trees (scope.renamedAll trees)
  | [] => .nil
  | tree :: rest => .cons (walk_renamed h tree) (walk_renamedAll h rest)

end

/-- If every declared name is supplied with a plain text that is an identifier, rendering succeeds and gives the script
with the tokens replaced in all its names and literals, which fails nowhere. A placeholder gets the same name where it
is a statement, where it is an expression and where it is a name that is bound, whatever tokens stand in that name. -/
theorem render_renamed (scope : Scope) (script : Node) (h : scope.SuppliesNames) :
    (∀ flavor text, ∃ new, scope.substitute flavor text = .ok new) ∧
    (scope.render script).result = .ok (scope.renamed script) ∧
    ∀ id name text, scope.registry.wholeToken? id = some name → scope.arguments.find? name = some (.ofText text) →
      scope.spliced .statement name = .ok (.statement (.ref text)) ∧
      scope.spliced .expression name = .ok (.ref text) ∧
      scope.substitute .identifier id = .ok (some text) := by
  refine ⟨named_substitute h, walk_renamed h script, fun id name text hw ha => ?_⟩
  obtain ⟨hstatement, hexpression⟩ := named_spliced h (mem_names_of_wholeToken? hw) ha
  exact ⟨hstatement, hexpression, substitute_wholeToken hw (named_textOf ha .identifier)⟩

/-- A placeholder as a statement, as what is bound, as a part of a name, as a shorthand property, as a callee and in a
literal. -/
def manyRoles : Node :=
  .ofStatements [.statement (.ref "$A$"),
    .node (.variableList .lexical) [.node .declarator [.binding "$A$",
      .node (.new true) [.ref "$A$", .node .object [.shorthand "$A$"],
        .node (.dot .plain) [.ref "get$B$", .name "$A$"], .text "$B$" (some "\"$B$\"")]]]]

/-- Names for both placeholders; the first is the token of the second. -/
def twoNames : Scope := ⟨⟨[("A", ""), ("B", "")]⟩, [("A", .ofText "$B$"), ("B", .ofText "b")], .all⟩

theorem render_manyRoles :
    twoNames.SuppliesNames ∧ (twoNames.render manyRoles).result = .ok (.ofStatements [.statement (.ref "$B$"),
      .node (.variableList .lexical) [.node .declarator [.binding "$B$",
        .node (.new true) [.ref "$B$", .node .object [.node .property [.name "$B$", .ref "$B$"]],
          .node (.dot .plain) [.ref "getb", .name "$B$"], .text "b" (some "'b'")]]]]) := by
  have hread : ∀ text ∈ ["$B$", "b"], ∃ parsed, Script.parse text true = .ok parsed ∧
      parsed.script.parts = [.statement (.ref text)] := by
    intro text hm
    have hparts : ∀ text ∈ ["$B$", "b"], (Script.parse text true).toOption.map (·.script.parts) =
        some [.statement (.ref text)] := by decide +kernel
    specialize hparts text hm
    cases hparse : Script.parse text true with
    | error fault => simp [hparse, Except.toOption] at hparts
    | ok parsed => exact ⟨parsed, rfl, by simpa [hparse, Except.toOption] using hparts⟩
  have hnames : twoNames.SuppliesNames := by
    intro name hn
    have hn' : name = "A" ∨ name = "B" := by simpa [twoNames, Registry.names] using hn
    rcases hn' with rfl | rfl
    · exact ⟨"$B$", rfl, hread _ (by simp)⟩
    · exact ⟨"b", rfl, hread _ (by simp)⟩
  refine ⟨hnames, ?_⟩
  rw [(render_renamed twoNames manyRoles hnames).2.1]
  decide +kernel

end Scope

end Stencil
