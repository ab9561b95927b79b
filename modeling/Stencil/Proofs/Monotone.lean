import Stencil.Proofs.Substitution
import Stencil.Proofs.Walk
import Stencil.Template
/-!
# More arguments

Where no argument is missing, further arguments change nothing. `CompletedBy` relates a computation with the same one
under more arguments: it is that one, unless it fails for want of an argument. The relation holds for the argument of
one name (`argument_completedBy`) and is kept by steps one after the other, so it holds for one visit
(`step_completedBy`) and, by induction on visits, for the walk (`walk_completedBy`). `renderWith_mono` is the statement
about templates.
-/

namespace Stencil

open Script

/-! ## With and without an argument -/

section Completion
variable {α β : Type}

/-- The second result is the first one, unless that one lacks an argument. -/
def CompletedBy (x y : Except Error α) : Prop := (∃ name, x = .error (.missingArgument name)) ∨ x = y

theorem CompletedBy.refl (x : Except Error α) : CompletedBy x x := .inr rfl

theorem CompletedBy.bind {x y : Except Error α} {f g : α → Except Error β} (h : CompletedBy x y)
    (hf : ∀ a, CompletedBy (f a) (g a)) : CompletedBy (x >>= f) (y >>= g) := by
  rcases h with ⟨name, rfl⟩ | rfl
  · exact .inl ⟨name, rfl⟩
  · cases x with
    | error e => exact .refl _
    | ok a => exact hf a

namespace Logged

/-- The second computation is the first one, records included, unless that one lacks an argument. -/
def CompletedBy (x y : Logged α) : Prop := (∃ name, x.result = .error (.missingArgument name)) ∨ x = y

theorem CompletedBy.refl (x : Logged α) : x.CompletedBy x := .inr rfl

theorem CompletedBy.lift {x y : Except Error α} (h : Stencil.CompletedBy x y) :
    (Logged.lift x).CompletedBy (Logged.lift y) := by
  rcases h with h | rfl
  · exact .inl h
  · exact .refl _

theorem CompletedBy.bind {x y : Logged α} {f g : α → Logged β} (h : x.CompletedBy y)
    (hf : ∀ a, x.result = .ok a → (f a).CompletedBy (g a)) : (x >>= f).CompletedBy (y >>= g) := by
  rcases h with ⟨name, h⟩ | rfl
  · exact .inl ⟨name, by simp [h]⟩
  · cases hx : x.result with
    | error e => exact .inr (bind_congr_of_result (by simp [hx]))
    | ok a =>
      rcases hf a hx with ⟨name, hmissing⟩ | heq
      · exact .inl ⟨name, by simp [hx, hmissing]⟩
      · refine .inr (bind_congr_of_result fun b hb => ?_)
        rw [hx] at hb
        cases hb
        exact heq

theorem CompletedBy.mapM {f g : α → Logged β} {xs : List α} (h : ∀ x ∈ xs, (f x).CompletedBy (g x)) :
    (xs.mapM f).CompletedBy (xs.mapM g) := by
  induction xs with
  | nil => exact .refl _
  | cons x xs ih =>
    rw [List.mapM_cons, List.mapM_cons]
    refine (h x (by simp)).bind fun y _ => ?_
    exact (ih fun x' hx' => h x' (by simp [hx'])).bind fun _ _ => .refl _

end Logged

end Completion

namespace Scope

/-- The scope with other arguments. -/
def withArguments (scope : Scope) (arguments : Arguments) : Scope := { scope with arguments := arguments }

@[simp] theorem withArguments_registry (scope : Scope) (arguments : Arguments) :
    (scope.withArguments arguments).registry = scope.registry := rfl

@[simp] theorem withArguments_policy (scope : Scope) (arguments : Arguments) :
    (scope.withArguments arguments).policy = scope.policy := rfl

/-- The arguments of declared names are also among others. -/
def SuppliedBy (scope : Scope) (more : Arguments) : Prop :=
  ∀ name ∈ scope.registry.names, ∀ a, scope.arguments.find? name = some a → more.find? name = some a

variable {scope : Scope} {more : Arguments}

/-! ## One name -/

theorem argument_completedBy (h : scope.SuppliedBy more) {name : String} (hn : name ∈ scope.registry.names) :
    CompletedBy (scope.argument name) ((scope.withArguments more).argument name) := by
  cases hfind : scope.arguments.find? name with
  | none => exact .inl ⟨name, by simp [argument, hfind]⟩
  | some a => exact .inr (by simp [argument, withArguments, hfind, h name hn a hfind])

theorem expand_completedBy (h : scope.SuppliedBy more) {tree : Node} {name : String}
    (hp : scope.placeholder? tree = some name) :
    (scope.expand tree name).CompletedBy ((scope.withArguments more).expand tree name) := by
  have hargument := argument_completedBy h (mem_names_of_placeholder? hp)
  have hstatement : (scope.withArguments more).statementPlaceholder? = scope.statementPlaceholder? := rfl
  unfold expand
  rw [hstatement]
  split
  · refine (Logged.CompletedBy.refl _).bind fun _ _ => ?_
    exact .lift (hargument.bind fun _ => .refl _)
  · refine (Logged.CompletedBy.refl _).bind fun _ _ => ?_
    exact (Logged.CompletedBy.lift (hargument.bind fun _ => .refl _)).bind fun _ _ => .refl _

/-! ## Texts -/

theorem substituteSegments_completedBy (h : scope.SuppliedBy more) (flavor : Flavor) (segments : List Token.Segment) :
    CompletedBy (scope.substituteSegments flavor segments)
      ((scope.withArguments more).substituteSegments flavor segments) := by
  induction segments with
  | nil => exact .refl _
  | cons segment rest ih =>
    cases segment with
    | char c => exact ih.bind fun _ => .refl _
    | token name =>
      -- the text of a name is asked for only if the name is declared
      have htext : scope.registry.contains name = true →
          CompletedBy (scope.textOf flavor name) ((scope.withArguments more).textOf flavor name) := fun hname =>
        (argument_completedBy h (Registry.contains_iff.1 hname)).bind fun _ => .refl _
      by_cases hname : scope.registry.contains name = true <;> cases hpolicy : scope.policy <;>
        simp only [substituteSegments, withArguments_registry, withArguments_policy, hname, hpolicy, if_true]
      · exact ((htext hname).bind fun _ => .refl _).bind fun _ => ih.bind fun _ => .refl _
      · exact ((htext hname).bind fun _ => .refl _).bind fun _ => .refl _
      · exact (CompletedBy.refl _).bind fun _ => ih.bind fun _ => .refl _
      · exact .refl _

theorem substitute_completedBy (h : scope.SuppliedBy more) (flavor : Flavor) (text : String) :
    CompletedBy (scope.substitute flavor text) ((scope.withArguments more).substitute flavor text) :=
  (substituteSegments_completedBy h flavor _).bind fun _ => .refl _

theorem rename_completedBy (h : scope.SuppliedBy more) (what id : String) :
    (scope.rename what id).CompletedBy ((scope.withArguments more).rename what id) :=
  (Logged.CompletedBy.lift (substitute_completedBy h .identifier id)).bind fun _ _ => .refl _

theorem replaceInLiteral_completedBy (h : scope.SuppliedBy more) (value : String) (raw : Option String) :
    (scope.replaceInLiteral value raw).CompletedBy ((scope.withArguments more).replaceInLiteral value raw) :=
  (Logged.CompletedBy.lift (substitute_completedBy h .literal value)).bind fun _ _ => .refl _

/-! ## The walk -/

/-- One visit keeps the relation, if the visits inside it do. -/
theorem step_completedBy (h : scope.SuppliedBy more) {f g : List String → Node → Logged Node} {v : Visit}
    (hfg : ∀ w, scope.Descends v w → (f w.stack w.tree).CompletedBy (g w.stack w.tree)) :
    (scope.step f v.stack v.tree).CompletedBy ((scope.withArguments more).step g v.stack v.tree) := by
  obtain ⟨stack, tree⟩ := v
  have hplaceholder : (scope.withArguments more).placeholder? = scope.placeholder? := rfl
  simp only [step, hplaceholder]
  split <;> rename_i hp
  · split
    · exact .refl _
    · rename_i hs
      refine (expand_completedBy h hp).bind fun r hr => ?_
      obtain ⟨place, hp⟩ := placeholder?_eq_some_iff.1 hp
      rw [expand_result hp] at hr
      split
      · exact .refl _
      · rename_i hb
        exact hfg ⟨_, r⟩ (.replacement hp hs hr (by simpa using hb))
  · cases tree with
    | ref id | binding id | name id => exact (rename_completedBy h _ id).bind fun _ _ => .refl _
    | text value raw => exact (replaceInLiteral_completedBy h value raw).bind fun _ _ => .refl _
    | shorthand id =>
      by_cases hw : (scope.registry.wholeToken? id).isSome = true
      · simp only [withArguments_registry, hw, if_true]
        exact hfg _ (.shorthand hw)
      · simp only [withArguments_registry, hw]
        exact (rename_completedBy h _ id).bind fun _ _ => .refl _
    | atom a => exact .refl _
    | node kind parts =>
      refine Logged.CompletedBy.bind (.mapM fun part hm => ?_) fun _ _ => .refl _
      exact hfg ⟨stack, part⟩ (.part hp hm)

theorem walk_completedBy (h : scope.SuppliedBy more) (v : Visit) :
    (scope.walk v.stack v.tree).CompletedBy ((scope.withArguments more).walk v.stack v.tree) := by
  induction v using (descends_wf scope).induction with
  | _ v ih =>
  rw [walk_eq_step, walk_eq_step]
  exact step_completedBy h ih

end Scope

namespace Template

/-- Whatever rendering gives, unless it is the error of a missing argument, it gives with the same records under all
arguments that hold those of the declared names. -/
theorem renderWith_mono (template : Template) (arguments more : Arguments)
    (h : ∀ name ∈ template.placeholders.names, ∀ a, arguments.find? name = some a → more.find? name = some a)
    (hresult : ∀ name, (template.renderWith arguments).result ≠ .error (.missingArgument name)) :
    template.renderWith more = template.renderWith arguments := by
  have hsupplied : (template.scope arguments).SuppliedBy more := h
  have hwalk : ((template.scope arguments).render template.script).CompletedBy
      ((template.scope more).render template.script) := Scope.walk_completedBy hsupplied ⟨[], template.script⟩
  rcases hwalk.bind fun out _ => .refl (pure (out.print template.options.minify)) with ⟨name, hmissing⟩ | heq
  · exact absurd hmissing (hresult name)
  · exact heq.symm

/-- A call with two placeholders. -/
def twoPlaceholders : Template :=
  ⟨.ofStatements [.statement (.node (.call .plain) [.ref "f", .ref "$A$", .ref "$B$"])], ⟨[("A", ""), ("B", "")]⟩, {}⟩

/-- An argument that leads back to itself, before the one that is missing is asked for. -/
def selfArgument : Arguments := [("A", .ofText "[$A$]")]

/-- The same with the missing one, and with one that nothing declares. -/
def selfArgumentAndMore : Arguments := [("Z", .ofText "("), ("B", .ofText "b"), ("A", .ofText "[$A$]")]

theorem renderWith_selfArgumentAndMore :
    (∀ name ∈ twoPlaceholders.placeholders.names, ∀ a, selfArgument.find? name = some a →
      selfArgumentAndMore.find? name = some a) ∧
    (∀ name, (twoPlaceholders.renderWith selfArgument).result ≠ .error (.missingArgument name)) ∧
    twoPlaceholders.renderWith selfArgumentAndMore = twoPlaceholders.renderWith selfArgument ∧
    (twoPlaceholders.renderWith selfArgumentAndMore).result = .error (.recursiveArgument "A") := by
  have hself : (twoPlaceholders.renderWith selfArgument).result = .error (.recursiveArgument "A") := by
    rw [renderWith, Scope.render, Scope.walk_eq_iterate 20]
    decide +kernel
  have hmore : ∀ name ∈ twoPlaceholders.placeholders.names, ∀ a, selfArgument.find? name = some a →
      selfArgumentAndMore.find? name = some a := by
    decide
  have hresult : ∀ name, (twoPlaceholders.renderWith selfArgument).result ≠ .error (.missingArgument name) := by
    intro name
    rw [hself]
    nofun
  have hsame := renderWith_mono twoPlaceholders selfArgument selfArgumentAndMore hmore hresult
  exact ⟨hmore, hresult, hsame, hsame ▸ hself⟩

end Template

end Stencil
