import Stencil.Proofs.Everywhere
import Stencil.Proofs.Reading.Grants
/-!
# Coherent literals

A string literal carries its value and the way it is spelled. It is `Coherent` if the value is read back from the
spelling. In a sound state the current token is coherent, and so is a literal made of it. What was read as an expression
keeps its literals when it becomes a pattern (`allCoherent_patterns`).
-/

namespace Stencil.Script

namespace Node

/-- The value of a literal that carries a spelling is read back from it. -/
def Coherent : Node → Prop
  | .text value (some raw) => stringValue? raw.toList = some value.toList
  | _ => True

instance : DecidablePred Coherent := fun tree =>
  match tree with
  | .text value (some raw) => inferInstanceAs (Decidable (stringValue? raw.toList = some value.toList))
  | .text _ none | .ref _ | .binding _ | .name _ | .shorthand _ | .atom _ | .node _ _ => .isTrue trivial

end Node

namespace Grammar

open Node

/-- All literals of a tree are coherent. -/
abbrev AllCoherent (node : Node) : Prop := node.Everywhere Coherent

theorem allCoherent_node {kind : Kind} {parts : List Node} :
    AllCoherent (.node kind parts) ↔ ∀ part ∈ parts, AllCoherent part :=
  everywhere_node.trans (and_iff_right trivial)

/-- A form of which the first part is known apart from the others. -/
theorem allCoherent_form {kind : Kind} {first : Node} {rest : List Node} (hfirst : AllCoherent first)
    (hrest : ∀ part ∈ rest, AllCoherent part) : AllCoherent (.node kind (first :: rest)) :=
  allCoherent_node.2 (List.forall_mem_cons.2 ⟨hfirst, hrest⟩)

instance : Lasting State.Sound where
  lasts _ h := h.sound

section Contexts
variable {α : Type} {P : α → Prop} {change : Context → Context} {step : Parse α}

/-- The context does not matter to the token. -/
theorem coherent_within (h : Grants State.Sound step P) : Grants State.Sound (within change step) P :=
  .within h fun _ => id

theorem coherent_withinBody (h : Grants State.Sound step P) : Grants State.Sound (withinBody change step) P :=
  .withinBody h fun _ => id

end Contexts

/-! ## Tokens -/

theorem coherent_token : Grants State.Sound token Token.Coherent := by
  refine ⟨steady_token, fun hs hrun hflaws => ?_⟩
  cases hrun
  exact (hs hflaws).1

theorem coherent_requireToken : Grants State.Sound requireToken Token.Coherent := by
  unfold requireToken
  refine .bind coherent_token fun t => ?_
  split
  · exact .after steady_get fun s => .throw _
  · exact .throw _
  · exact .ret id

/-! ## Commas -/

theorem allCoherent_withComma {item : Node} (h : AllCoherent item) : AllCoherent item.withComma := by
  unfold withComma
  split
  · exact allCoherent_node.2 (allCoherent_node.1 h)
  · exact h

theorem coherent_separated (closing : String) (item : Node) :
    Grants State.Sound (separated closing item) fun node => AllCoherent item → AllCoherent node := by
  unfold separated
  refine .after (steady_isAt _) fun isLast => ?_
  split
  · exact .ret id
  · refine .after (steady_expect _) fun _ => .after (steady_isAt _) fun isLast => .ret fun h => ?_
    split
    · exact allCoherent_withComma h
    · exact h

/-! ## Expressions read as patterns -/

theorem allCoherent_withoutLastHoles {elements : List Node} (h : ∀ element ∈ elements, AllCoherent element) :
    ∀ element ∈ withoutLastHoles elements, AllCoherent element := by
  intro element hm
  rw [withoutLastHoles, List.mem_reverse] at hm
  exact h element (List.mem_reverse.1 ((List.dropWhile_sublist _).subset hm))

theorem allCoherent_rest {target : Node} (h : AllCoherent target) :
    ∀ pattern ∈ [Node.node .rest [target]], AllCoherent pattern :=
  List.forall_mem_singleton.2 ⟨trivial, h, trivial⟩

/-- A list is read as patterns one after the other. -/
theorem allCoherent_cons {item : Node} {rest patterns : List Node} {first? : Option Node}
    {others? : Option (List Node)} (h : ∀ node ∈ item :: rest, AllCoherent node)
    (hfirst : AllCoherent item → ∀ pattern ∈ first?, AllCoherent pattern)
    (hothers : (∀ node ∈ rest, AllCoherent node) → ∀ others ∈ others?, ∀ pattern ∈ others, AllCoherent pattern)
    (hpatterns : patterns ∈ do return (← first?) :: (← others?)) : ∀ pattern ∈ patterns, AllCoherent pattern := by
  obtain ⟨first, hfirst?, hpatterns⟩ := Option.bind_eq_some_iff.1 hpatterns
  obtain ⟨others, hothers?, heq⟩ := Option.bind_eq_some_iff.1 hpatterns
  cases heq
  obtain ⟨hitem, hrest⟩ := List.forall_mem_cons.1 h
  exact List.forall_mem_cons.2 ⟨hfirst hitem first hfirst?, hothers hrest others hothers?⟩

theorem allCoherent_patterns (strict : Bool) :
    (∀ node, AllCoherent node → ∀ target ∈ toTarget? strict node, AllCoherent target) ∧
    (∀ properties, (∀ property ∈ properties, AllCoherent property) →
      ∀ patterns ∈ toProperties? strict properties, ∀ pattern ∈ patterns, AllCoherent pattern) ∧
    (∀ property, AllCoherent property → ∀ pattern ∈ toProperty? strict property, AllCoherent pattern) ∧
    (∀ element, AllCoherent element → ∀ pattern ∈ toElement? strict element, AllCoherent pattern) ∧
    ∀ elements, (∀ element ∈ elements, AllCoherent element) →
      ∀ patterns ∈ toElements? strict elements, ∀ pattern ∈ patterns, AllCoherent pattern := by
  apply toTarget?.mutual_induct strict
  case case1 | case6 | case9 | case16 =>
    intros
    simp_all [toTarget?, toProperty?]
  case case2 =>
    intro id h _ target ht
    rw [toTarget?, if_neg h] at ht
    cases ht
    trivial
  case case3 =>
    intro elements ih h target ht
    rw [toTarget?] at ht
    obtain ⟨patterns, hpatterns, heq⟩ := Option.bind_eq_some_iff.1 ht
    cases heq
    exact allCoherent_node.2 (allCoherent_withoutLastHoles (ih (allCoherent_node.1 h) patterns hpatterns))
  case case4 =>
    intro properties ih h target ht
    rw [toTarget?] at ht
    obtain ⟨patterns, hpatterns, heq⟩ := Option.bind_eq_some_iff.1 ht
    cases heq
    exact allCoherent_node.2 (ih (allCoherent_node.1 h) patterns hpatterns)
  case case5 =>
    intro inner hsimple h target ht
    rw [toTarget?, if_pos hsimple] at ht
    cases ht
    exact h
  case case7 | case8 =>
    intro parts h target ht
    rw [toTarget?] at ht
    cases ht
    exact h
  case case10 | case19 =>
    intro _ patterns hpatterns
    simp_all [toProperties?, toElements?]
  case case11 =>
    intro inner ih h patterns hpatterns
    rw [toProperties?] at hpatterns
    obtain ⟨target, htarget, heq⟩ := Option.bind_eq_some_iff.1 hpatterns
    cases heq
    exact allCoherent_rest (ih (h _ List.mem_cons_self).2.1 target htarget)
  case case12 =>
    intro property rest hlast ihproperty ihrest h patterns hpatterns
    rw [toProperties?.eq_3 _ _ _ hlast] at hpatterns
    exact allCoherent_cons h ihproperty ihrest hpatterns
  case case13 =>
    intro id _ pattern hpattern
    rw [toProperty?] at hpattern
    cases hpattern
    exact ⟨trivial, trivial, trivial, trivial⟩
  case case14 =>
    intro target value h pattern hpattern
    rw [toProperty?] at hpattern
    cases hpattern
    exact h
  case case15 =>
    intro key value ih h pattern hpattern
    rw [toProperty?] at hpattern
    obtain ⟨inner, hinner, heq⟩ := Option.bind_eq_some_iff.1 hpattern
    cases heq
    exact ⟨trivial, h.2.1, ih h.2.2.1 inner hinner, trivial⟩
  case case17 =>
    intro target value h pattern hpattern
    rw [toElement?] at hpattern
    cases hpattern
    exact h
  case case18 =>
    intro inner hassign ih h pattern hpattern
    rw [toElement?.eq_2 _ _ hassign] at hpattern
    exact ih h pattern hpattern
  case case20 =>
    intro inner ih h patterns hpatterns
    rw [toElements?] at hpatterns
    obtain ⟨target, htarget, heq⟩ := Option.bind_eq_some_iff.1 hpatterns
    cases heq
    exact allCoherent_rest (ih (h _ List.mem_cons_self).2.1 target htarget)
  case case21 =>
    intro rest ih h patterns hpatterns
    rw [toElements?] at hpatterns
    obtain ⟨others, hothers, heq⟩ := Option.bind_eq_some_iff.1 hpatterns
    cases heq
    exact List.forall_mem_cons.2 ⟨trivial, ih (List.forall_mem_cons.1 h).2 others hothers⟩
  case case22 =>
    intro element rest hlast hhole ihelement ihrest h patterns hpatterns
    rw [toElements?.eq_4 _ _ _ hlast hhole] at hpatterns
    exact allCoherent_cons h ihelement ihrest hpatterns

theorem allCoherent_toParameters? {items params : List Node} (h : toParameters? items = some params)
    (hitems : ∀ item ∈ items, AllCoherent item) : ∀ param ∈ params, AllCoherent param := by
  obtain ⟨patterns, hpatterns, h⟩ := Option.bind_eq_some_iff.1 h
  split at h <;> cases h
  exact (allCoherent_patterns false).2.2.2.2 items hitems _ hpatterns

theorem coherent_closeParentheses (start : Nat) (items : List Node) :
    Grants State.Sound (closeParentheses start items) fun node =>
      (∀ item ∈ items, AllCoherent item) → AllCoherent node := by
  unfold closeParentheses
  refine .check (steady_failAt _ _) fun _ => .check (steady_failAt _ _) fun _ => ?_
  split
  · exact .ret fun h => ⟨trivial, h _ List.mem_cons_self, trivial⟩
  · exact .ret fun h => ⟨trivial, allCoherent_node.2 h, trivial⟩

/-- Whatever else it does, the step gives a leaf that is no literal. -/
theorem coherent_regularExpression : Grants State.Sound regularExpression AllCoherent := by
  refine ⟨steady_regularExpression, fun _ hrun _ => ?_⟩
  obtain ⟨s, _, -, hrun⟩ := bind_eq_ok_iff.1 hrun
  cases hfound : Scan.regex? s.current.start <;> simp only [hfound] at hrun
  · obtain ⟨_, _, -, hrun⟩ := bind_eq_ok_iff.1 hrun
    cases hrun
  · obtain ⟨_, _, -, hrun⟩ := bind_eq_ok_iff.1 hrun
    obtain ⟨_, _, -, hrun⟩ := bind_eq_ok_iff.1 hrun
    split at hrun
    · obtain ⟨_, _, -, hrun⟩ := bind_eq_ok_iff.1 hrun
      cases hrun
      trivial
    · cases hrun
      trivial

theorem coherent_memberName : Grants State.Sound memberName AllCoherent := by
  unfold memberName
  refine .after steady_token fun t => ?_
  split
  · exact .after steady_advance fun _ => .ret trivial
  · exact .after steady_identifierName fun name => .ret trivial

end Grammar

end Stencil.Script
