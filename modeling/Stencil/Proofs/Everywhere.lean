import Stencil.Proofs.Walk
/-!
# All nodes of a tree

A property of single nodes, asked of every node of a tree; and the trees that arguments put in the place of
placeholders, which are built from scripts that were read. What holds of all nodes of those scripts and of the
forms around them holds of all nodes of what is put in (`everywhere_asStatement`, `everywhere_asExpression`).
-/

namespace Stencil

open Script

namespace Script.Node

mutual

/-- A property holds at every node. -/
def Everywhere (P : Node → Prop) : Node → Prop
  | .node kind parts => P (.node kind parts) ∧ EverywhereIn P parts
  | tree => P tree

/-- A property holds at every node of every tree of a list. -/
def EverywhereIn (P : Node → Prop) : List Node → Prop
  | [] => True
  | tree :: rest => Everywhere P tree ∧ EverywhereIn P rest

end

mutual

/-- Looks at every node. -/
def decideEverywhere (P : Node → Prop) [DecidablePred P] : (tree : Node) → Decidable (Everywhere P tree)
  | .node kind parts =>
    have := decideEverywhereIn P parts
    inferInstanceAs (Decidable (P (.node kind parts) ∧ EverywhereIn P parts))
  | .ref id => inferInstanceAs (Decidable (P (.ref id)))
  | .binding id => inferInstanceAs (Decidable (P (.binding id)))
  | .name id => inferInstanceAs (Decidable (P (.name id)))
  | .text value raw => inferInstanceAs (Decidable (P (.text value raw)))
  | .shorthand id => inferInstanceAs (Decidable (P (.shorthand id)))
  | .atom a => inferInstanceAs (Decidable (P (.atom a)))

/-- Looks at every node of every tree of a list. -/
def decideEverywhereIn (P : Node → Prop) [DecidablePred P] : (trees : List Node) → Decidable (EverywhereIn P trees)
  | [] => .isTrue trivial
  | tree :: rest =>
    have := decideEverywhere P tree
    have := decideEverywhereIn P rest
    inferInstanceAs (Decidable (Everywhere P tree ∧ EverywhereIn P rest))

end

instance (P : Node → Prop) [DecidablePred P] : DecidablePred (Everywhere P) := decideEverywhere P

variable {P : Node → Prop}

theorem everywhereIn_iff {trees : List Node} : EverywhereIn P trees ↔ ∀ tree ∈ trees, Everywhere P tree := by
  induction trees with
  | nil => simp [EverywhereIn]
  | cons tree rest ih => simp [EverywhereIn, ih]

theorem everywhere_node {kind : Kind} {parts : List Node} :
    Everywhere P (.node kind parts) ↔ P (.node kind parts) ∧ ∀ part ∈ parts, Everywhere P part := by
  rw [Everywhere, everywhereIn_iff]

mutual

theorem everywhere_of_forall (h : ∀ tree, P tree) : (tree : Node) → Everywhere P tree
  | .node _ parts => ⟨h _, everywhereIn_of_forall h parts⟩
  | .ref _ | .binding _ | .name _ | .text _ _ | .shorthand _ | .atom _ => h _

theorem everywhereIn_of_forall (h : ∀ tree, P tree) : (trees : List Node) → EverywhereIn P trees
  | [] => trivial
  | tree :: rest => ⟨everywhere_of_forall h tree, everywhereIn_of_forall h rest⟩

end

mutual

theorem Everywhere.imp {Q : Node → Prop} (h : ∀ node, P node → Q node) :
    (tree : Node) → Everywhere P tree → Everywhere Q tree
  | .node _ parts, hp => ⟨h _ hp.1, EverywhereIn.imp h parts hp.2⟩
  | .ref _, hp | .binding _, hp | .name _, hp | .text _ _, hp | .shorthand _, hp | .atom _, hp => h _ hp

theorem EverywhereIn.imp {Q : Node → Prop} (h : ∀ node, P node → Q node) :
    (trees : List Node) → EverywhereIn P trees → EverywhereIn Q trees
  | [], _ => trivial
  | tree :: rest, hp => ⟨Everywhere.imp h tree hp.1, EverywhereIn.imp h rest hp.2⟩

end

theorem Everywhere.here {tree : Node} (h : Everywhere P tree) : P tree := by
  cases tree with
  | node => exact (everywhere_node.1 h).1
  | _ => exact h

theorem Everywhere.part {tree part : Node} (h : Everywhere P tree) (hm : part ∈ tree.parts) : Everywhere P part := by
  cases tree with
  | node => exact (everywhere_node.1 h).2 part hm
  | _ => simp [parts] at hm

end Script.Node

namespace Scope

open Node

variable {scope : Scope} {P : Node → Prop}

/-! ## What arguments put in -/

/-- A property holds of every script that is read from an argument. -/
def ArgumentScripts (scope : Scope) (P : Node → Prop) : Prop :=
  ∀ name a, scope.arguments.find? name = some a → ∀ flavor ∈ [Flavor.statement, .expression], ∀ text,
    a.flavor? flavor = some text → ∀ parsed, Script.parse text true = .ok parsed → P parsed.script

/-- It is enough to look at the entries one by one. -/
theorem argumentScripts_of_entries (h : ∀ entry ∈ scope.arguments, ∀ flavor ∈ [Flavor.statement, .expression],
    ∀ text ∈ entry.2.flavor? flavor, ∀ parsed ∈ (Script.parse text true).toOption, P parsed.script) :
    scope.ArgumentScripts P := by
  intro name a hfind flavor hflavor text htext parsed hparsed
  obtain ⟨entry, hentry, rfl⟩ := Option.map_eq_some_iff.1 hfind
  exact h entry (List.mem_of_find?_eq_some hentry) flavor hflavor text htext parsed (by rw [hparsed]; rfl)

theorem statements_parsed {a : Argument} {flavor : Flavor} {body : List Node} (h : a.statements flavor = .ok body) :
    ∃ text parsed, a.flavor? flavor = some text ∧ Script.parse text true = .ok parsed ∧ body = parsed.script.parts := by
  simp only [Argument.statements, Logged.except_bind_ok_iff, Argument.toText] at h
  obtain ⟨text, htext, h⟩ := h
  split at htext <;> cases htext
  rename_i hflavor
  split at h <;> cases h
  rename_i parsed hparse
  exact ⟨text, parsed, hflavor, hparse, rfl⟩

/-- What is put in a place is built from a script that is read from an argument. -/
theorem spliced_script (hargs : scope.ArgumentScripts P) {place : Place} {name : String} {r : Node}
    (h : scope.spliced place name = .ok r) :
    ∃ script, P script ∧ ((place = .statement ∧ r = Argument.asStatement script.parts) ∨
      (place = .expression ∧ r = guardPrecedence (Argument.asExpression script.parts))) := by
  have hfound : ∀ a, scope.argument name = .ok a → scope.arguments.find? name = some a := by
    intro a ha
    unfold argument at ha
    split at ha <;> cases ha
    assumption
  cases place with
  | statement =>
    simp only [spliced, Argument.toStatement, Logged.except_bind_ok_iff] at h
    obtain ⟨a, ha, body, hbody, h⟩ := h
    cases h
    obtain ⟨text, parsed, htext, hparse, rfl⟩ := statements_parsed hbody
    exact ⟨parsed.script, hargs name a (hfound a ha) _ (by simp) text htext parsed hparse, .inl ⟨rfl, rfl⟩⟩
  | expression =>
    obtain ⟨e, he, rfl⟩ := spliced_expression_ok h
    simp only [Argument.toExpression, Logged.except_bind_ok_iff] at he
    obtain ⟨a, ha, body, hbody, he⟩ := he
    cases he
    obtain ⟨text, parsed, htext, hparse, rfl⟩ := statements_parsed hbody
    exact ⟨parsed.script, hargs name a (hfound a ha) _ (by simp) text htext parsed hparse, .inr ⟨rfl, rfl⟩⟩

theorem everywhere_asStatement {body : List Node} (h : ∀ s ∈ body, Everywhere P s) (hblock : P (.node .block body)) :
    Everywhere P (Argument.asStatement body) := by
  unfold Argument.asStatement
  split
  · exact h _ (by simp)
  · exact everywhere_node.2 ⟨hblock, h⟩

theorem everywhere_asExpression {body : List Node} (h : ∀ s ∈ body, Everywhere P s)
    (hfunction : ∀ calling parts, P (.node (.functionDeclaration calling) parts) →
      P (.node (.functionExpression calling) parts))
    (hinvoked : Everywhere P (Argument.invoked body)) : Everywhere P (Argument.asExpression body) := by
  unfold Argument.asExpression
  split
  · exact (h _ List.mem_cons_self).part (by simp [parts])
  · obtain ⟨hd, hparts⟩ := everywhere_node.1 (h _ List.mem_cons_self)
    exact everywhere_node.2 ⟨hfunction _ _ hd, hparts⟩
  · exact hinvoked

theorem everywhere_guardPrecedence {e : Node} (h : Everywhere P e) (hparen : P (.parenthesized e)) :
    Everywhere P (guardPrecedence e) := by
  unfold guardPrecedence
  split
  · exact h
  · exact everywhere_node.2 ⟨hparen, by simpa using h⟩

/-- A form is put together from its parts and perhaps parentheses around its callee. -/
theorem everywhere_reassemble {kind : Kind} {outs : List Node}
    (hparen : ∀ hasArguments callee args, kind = .new hasArguments → outs = callee :: args →
      P (.parenthesized callee)) :
    Everywhere P (reassemble kind outs) ↔ P (reassemble kind outs) ∧ ∀ out ∈ outs, Everywhere P out := by
  unfold reassemble
  split
  · rename_i hasArguments callee args
    have hcallee : P (.node .paren [callee]) := hparen _ _ _ rfl rfl
    have hguard : Everywhere P (guardCallee callee) ↔ Everywhere P callee := by
      unfold guardCallee
      split
      · simp [parenthesized, everywhere_node, hcallee]
      · rfl
    rw [everywhere_node, List.forall_mem_cons, List.forall_mem_cons, hguard]
  · exact everywhere_node

/-- A property that passes from the parts of a form to the form passes to the form that is put together. -/
theorem everywhere_reassemble_of_parts (hnode : ∀ kind parts, (∀ part ∈ parts, P part) → P (.node kind parts))
    {kind : Kind} {outs : List Node} (h : ∀ out ∈ outs, Everywhere P out) : Everywhere P (reassemble kind outs) := by
  have hhere : ∀ out ∈ outs, P out := fun out hm => (h out hm).here
  have hparen : ∀ callee ∈ outs, P (.parenthesized callee) := fun callee hm =>
    hnode _ _ (by simpa using hhere callee hm)
  refine (everywhere_reassemble ?_).2 ⟨?_, h⟩
  · rintro _ callee args - rfl
    exact hparen callee (by simp)
  · rcases reassemble_cases kind outs with heq | ⟨_, callee, args, rfl, rfl, heq⟩ <;> rw [heq]
    · exact hnode _ _ hhere
    · refine hnode _ _ (List.forall_mem_cons.2 ⟨?_, fun out hm => hhere out (by simp [hm])⟩)
      unfold guardCallee
      split
      · exact hparen callee (by simp)
      · exact hhere callee (by simp)

end Scope

end Stencil
