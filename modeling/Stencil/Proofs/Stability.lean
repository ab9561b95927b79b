import Stencil.Proofs.Duplicates
import Stencil.Proofs.Reading.Leading
import Stencil.Proofs.Untouched
import Stencil.Template
/-!
# Rendering what was rendered

A text that was rendered can be made into a template again. One would like that template to declare nothing and to
give the same text. `stable_iff` says what that comes to for any text: it is read, no comment in it declares a
placeholder, and the tree that it is read as is printed as that text. Nothing in rendering sees to it: an argument is
read where `return` is allowed, a template where it is not, and a statement that an argument puts in may return.
`renderWith_returns` says when it does and that the text is then not read as the tree that it was printed from;
`make_ne_ok_of_leading_return` that no template can be made of the text if the `return` comes first.
-/

namespace Stencil

open Script

/-! ## Comments that declare nothing -/

namespace Registry

theorem setEntry_ne_nil (name description : String) (entries : List (String × String)) :
    setEntry name description entries ≠ [] := by
  cases entries with
  | nil => simp [setEntry]
  | cons entry rest =>
    simp only [setEntry]
    split <;> simp

/-- A comment that declares a placeholder leaves no registry empty. -/
theorem addComment_eq_empty_iff {options : Options} {r : Registry} {comment : String} :
    (addComment options r comment).result = .ok {} ↔
      r = {} ∧ Declaration.ofComment? options.directive comment = none := by
  simp only [addComment]
  split
  · rename_i d hd
    refine iff_of_false (fun h => ?_) (by simp [hd])
    exact setEntry_ne_nil _ _ _ (congrArg entries (declare_ok h)).symm
  · rename_i hd
    simp [hd]

/-- No placeholder is declared if and only if no comment declares one. -/
theorem ofComments_eq_empty_iff {options : Options} {comments : List String} :
    (ofComments options comments).result = .ok {} ↔
      ∀ comment ∈ comments, Declaration.ofComment? options.directive comment = none := by
  have hfold : ∀ r, (comments.foldlM (addComment options) r).result = .ok {} ↔
      r = {} ∧ ∀ comment ∈ comments, Declaration.ofComment? options.directive comment = none := by
    induction comments with
    | nil => simp
    | cons comment rest ih =>
      intro r
      simp only [List.foldlM_cons, Logged.bind_result, Logged.except_bind_ok_iff, ih, List.forall_mem_cons]
      rw [← and_assoc, ← addComment_eq_empty_iff]
      constructor
      · rintro ⟨_, h, rfl, hrest⟩
        exact ⟨h, hrest⟩
      · rintro ⟨h, hrest⟩
        exact ⟨_, h, rfl, hrest⟩
  simp [ofComments, hfold]

end Registry

namespace Template

/-- A text is made into a template that declares nothing and renders it again. -/
def Stable (options : Options) (code : String) : Prop :=
  ∃ again, (make code options).result = .ok again ∧ again.placeholders = {} ∧ (again.renderWith []).result = .ok code

/-- A text is read as a script that is printed as that text, and no comment in it declares a placeholder. -/
def Reproduced (options : Options) (code : String) : Prop :=
  ∃ parsed, Script.parse code false = .ok parsed ∧
    (∀ comment ∈ parsed.comments, Declaration.ofComment? options.directive comment = none) ∧
    parsed.script.guarded.print options.minify = code

instance (options : Options) (code : String) : Decidable (Reproduced options code) :=
  decidable_of_iff (∃ parsed ∈ (Script.parse code false).toOption,
    (∀ comment ∈ parsed.comments, Declaration.ofComment? options.directive comment = none) ∧
    parsed.script.guarded.print options.minify = code) (by
      unfold Reproduced
      cases Script.parse code false <;> simp [Except.toOption])

theorem make_ok_iff {source : String} {options : Options} {template : Template} :
    (make source options).result = .ok template ↔ options.validate = .ok () ∧ ∃ parsed,
      Script.parse source false = .ok parsed ∧
      (Registry.ofComments options parsed.comments).result = .ok template.placeholders ∧
      template.script = parsed.script ∧ template.options = options := by
  obtain ⟨script, placeholders, options'⟩ := template
  cases hparse : Script.parse source false with
  | error fault => simp [make, hparse, Logged.except_bind_ok_iff]
  | ok parsed =>
    simp only [make, hparse, Logged.bind_result, Logged.lift_result, Logged.debug_result, Logged.pure_result,
      Logged.except_bind_ok_iff, Except.ok.injEq, Template.mk.injEq]
    constructor
    · rintro ⟨_, hvalid, placeholders, hcomments, _, -, rfl, rfl, rfl⟩
      exact ⟨hvalid, parsed, rfl, hcomments, rfl, rfl⟩
    · rintro ⟨hvalid, _, rfl, hcomments, rfl, rfl⟩
      exact ⟨(), hvalid, _, hcomments, (), trivial, rfl, rfl, rfl⟩

theorem renderWith_of_nothing_declared {template : Template} (h : template.placeholders = {}) (arguments : Arguments) :
    (template.renderWith arguments).result = .ok (template.script.guarded.print template.options.minify) := by
  have hnames : (template.scope arguments).registry.names = [] := by simp [scope, h, Registry.names]
  simp [renderWith, Scope.render_of_nothing_declared hnames]

/-- With options that a template can have, a text is rendered again if and only if it is read and printed the same. -/
theorem stable_iff {options : Options} {code : String} (h : options.validate = .ok ()) :
    Stable options code ↔ Reproduced options code := by
  constructor
  · rintro ⟨again, hmake, hempty, hrender⟩
    obtain ⟨-, parsed, hparse, hcomments, hscript, rfl⟩ := make_ok_iff.1 hmake
    rw [renderWith_of_nothing_declared hempty, Except.ok.injEq, hscript] at hrender
    rw [hempty] at hcomments
    exact ⟨parsed, hparse, Registry.ofComments_eq_empty_iff.1 hcomments, hrender⟩
  · rintro ⟨parsed, hparse, hcomments, hprint⟩
    refine ⟨⟨parsed.script, {}, options⟩, make_ok_iff.2 ⟨h, parsed, hparse, ?_, rfl, rfl⟩, rfl, ?_⟩
    · exact Registry.ofComments_eq_empty_iff.2 hcomments
    · rw [renderWith_of_nothing_declared rfl, hprint]

example : Stable {} "(x || y)((b, c));" := (stable_iff rfl).2 (by decide +kernel)

end Template

/-! ## Returns that arguments bring -/

namespace Scope

open Node

variable {scope : Scope}

theorem not_returns_of_isBareIdentifier {tree : Node} (h : tree.isBareIdentifier = true) (look : Node → Node) :
    ¬ Returns look tree := by
  unfold isBareIdentifier at h
  split at h
  · exact not_returns_leaf rfl
  · exact not_returns_of_runs nofun fun _ => rfl
  · cases h

/-- An expression with the parentheses that it gets does not return. -/
theorem not_returns_guardPrecedence (e : Node) (look : Node → Node) : ¬ Returns look (guardPrecedence e) := by
  unfold guardPrecedence
  split <;> rename_i hself
  · unfold isSelfContained at hself
    split at hself
    · exact not_returns_leaf rfl
    · exact not_returns_leaf rfl
    · exact not_returns_leaf rfl
    · split at hself
      all_goals first
        | exact not_returns_of_runs nofun fun _ => rfl
        | cases hself
    · cases hself
  · exact not_returns_of_runs nofun fun _ => rfl

theorem returns_reassemble {kind : Kind} {parts outs : List Node}
    (h : List.Forall₂ (fun part out => Returns scope.resolve (scope.resolve part) ↔ Returns id out) parts outs) :
    Returns scope.resolve (.node kind parts) ↔ Returns id (reassemble kind outs) := by
  rcases reassemble_cases kind outs with heq | ⟨hasArguments, callee, args, rfl, -, heq⟩ <;> rw [heq]
  · rw [returns_node_iff, returns_node_iff]
    exact or_congr Iff.rfl (exists_zipIdx_congr h (kind.runs · = true) fun _ _ hr => hr)
  · exact iff_of_false (not_returns_of_runs nofun fun _ => rfl) (not_returns_of_runs nofun fun _ => rfl)

/-- What a walk gives returns if and only if the tree does, looking through the placeholders. -/
theorem walk_returns_iff {stack : List String} {tree out : Node} (h : (scope.walk stack tree).result = .ok out) :
    Returns scope.resolve (scope.resolve tree) ↔ Returns id out := by
  refine walk_ok_induction (P := fun _ tree out => Returns scope.resolve (scope.resolve tree) ↔ Returns id out)
    ?leaf ?splice ?ref ?binding ?name ?text ?split ?shorthand ?atom ?node h
  case leaf =>
    intro _ tree place name r hp _ hr hb
    refine iff_of_false ?_ (not_returns_of_isBareIdentifier hb _)
    cases hp with
    | statement h =>
      rw [resolve_placeholder (.statement h) hr]
      exact not_returns_of_isBareIdentifier hb _
    | expression => exact not_returns_leaf rfl
  case splice =>
    intro _ tree place name r out hp _ hr hb _ ih
    rw [resolve_of_not_bare hb] at ih
    cases hp with
    | statement h => rwa [resolve_placeholder (.statement h) hr]
    | expression =>
      obtain ⟨e, -, rfl⟩ := spliced_expression_ok hr
      exact iff_of_false (not_returns_leaf rfl) (mt ih.2 (not_returns_guardPrecedence e _))
  case split =>
    intro _ id out _ _ ih
    exact iff_of_false (not_returns_leaf rfl) (mt ih.2 (not_returns_of_runs nofun fun _ => rfl))
  case node =>
    intro _ kind parts outs hp hall
    rw [resolve_of_none hp]
    exact returns_reassemble (hall.imp fun _ _ hw => hw.2)
  -- the other leaves are no statements
  all_goals
    intros
    exact iff_of_false (not_returns_leaf rfl) (not_returns_leaf rfl)

theorem resolve_cases (scope : Scope) (tree : Node) : scope.resolve tree = tree ∨
    ∃ name, scope.spliced .statement name = .ok (scope.resolve tree) := by
  unfold resolve
  split
  · split
    · rename_i name _ r hr
      exact .inr ⟨_, hr⟩
    · exact .inl rfl
  · exact .inl rfl

/-- A `return` that is seen through placeholders is one of the tree or one of an argument. -/
theorem exists_spliced_of_returns {tree : Node} (h : Returns scope.resolve tree) :
    Returns id tree ∨ ∃ name r, scope.spliced .statement name = .ok r ∧ Returns id r := by
  induction h with
  | here => exact .inl .here
  | @inside kind parts part i hm hi _ ih =>
    rcases ih with hpart | hargument
    · rcases scope.resolve_cases part with heq | ⟨name, hr⟩
      · rw [heq] at hpart
        exact .inl (.inside hm hi hpart)
      · exact .inr ⟨name, _, hr, hpart⟩
    · exact .inr hargument

end Scope

namespace Template

open Node

/-- What is rendered returns where the template does, looking through the placeholders. Then an argument brought the
`return`, and no text that a template is made of is read as what was rendered. -/
theorem renderWith_returns {source : String} {options : Options} {template : Template} {arguments : Arguments}
    {out : Node} (hmake : (make source options).result = .ok template)
    (hrender : ((template.scope arguments).render template.script).result = .ok out) :
    (out.Returns id ↔ template.script.Returns (template.scope arguments).resolve) ∧
    (out.Returns id →
      (∃ name r, (template.scope arguments).spliced .statement name = .ok r ∧ r.Returns id) ∧
      ∀ code parsed, Script.parse code false = .ok parsed → parsed.script ≠ out) := by
  obtain ⟨-, parsed, hparse, -, hscript, -⟩ := make_ok_iff.1 hmake
  have hreturns : out.Returns id ↔ template.script.Returns (template.scope arguments).resolve := by
    rw [← Scope.walk_returns_iff hrender, Scope.resolve_of_not_bare]
    obtain ⟨shebang, statements, hparsed⟩ := script_of_parse hparse
    rw [hscript, hparsed]
    rfl
  refine ⟨hreturns, fun h => ⟨?_, ?_⟩⟩
  · rcases Scope.exists_spliced_of_returns (hreturns.1 h) with htemplate | hargument
    · rw [hscript] at htemplate
      exact absurd htemplate (not_returns_of_parse hparse)
    · exact hargument
  · rintro code parsed' hparse' rfl
    exact not_returns_of_parse hparse' h

/-- Where what is rendered begins with a `return`, no template can be made of its text, whatever the options are, and so
the text is not stable. In minified text a `return` whose value does not begin with a word is left out here. -/
theorem make_ne_ok_of_leading_return {template : Template} {arguments : Arguments} {value : Node} {rest : List Node}
    (hrender : ((template.scope arguments).render template.script).result =
      .ok (.node (.script none) (.node .returnStatement [value] :: rest)))
    (hword : template.options.minify = false ∨ value.isAbsent = true ∨ value.startsWord = true) :
    ∃ code, (template.renderWith arguments).result = .ok code ∧
      ∀ options again, (make code options).result ≠ .ok again := by
  refine ⟨_, by simp only [renderWith, Logged.bind_result, hrender, Logged.except_ok_bind]; rfl, ?_⟩
  intro options again hmake
  obtain ⟨-, parsed, hparse, -⟩ := make_ok_iff.1 hmake
  obtain ⟨tail, hprint, htail⟩ := print_leading_return rest hword
  obtain ⟨fault, herror⟩ := parse_error_of_leading_return hprint htail
  rw [hparse] at herror
  cases herror

deriving instance DecidableEq for Template

/-- A placeholder for a statement. -/
def running : Template := ⟨.ofStatements [.statement (.ref "$S$")], ⟨[("S", "s")]⟩, {}⟩

/-- What is rendered need not be a text that a template can be made of. -/
theorem renderWith_running_not_stable :
    (make "// @ming S s\n$S$;" {}).result = .ok running ∧
      (running.renderWith [("S", .ofText "return 1;")]).result = .ok "return 1;" ∧
      ¬ Stable {} "return 1;" := by
  refine ⟨by decide +kernel, ?_, ?_⟩
  · rw [renderWith, Scope.render, Scope.walk_eq_iterate 20]
    decide +kernel
  · rw [stable_iff rfl]
    decide +kernel

end Template

end Stencil
