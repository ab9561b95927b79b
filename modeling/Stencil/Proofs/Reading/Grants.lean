import Stencil.Proofs.Reading.Steps
/-!
# What steps of parsing grant

A step grants a property if what it gives has the property unless a flaw is on record. It may rely on something that is
given of the state in which it begins, if this holds of all later states too. The rules follow the steps of a
definition: what the first step grants may be used for what the next one does.
-/

namespace Stencil.Script.Grammar

variable {α β : Type} {P : α → Prop} {Q : β → Prop} {given : State → Prop}

/-- What holds of a state holds of all that come later in the same context. -/
class Lasting (given : State → Prop) : Prop where
  lasts : ∀ {s s' : State}, s'.context = s.context → s.Onward s' → given s → given s'

/-- A step is steady, and where something is given, what the step gives has a property unless a flaw is on record. -/
structure Grants (given : State → Prop) (step : Parse α) (P : α → Prop) : Prop where
  steady : Steady step
  holds : ∀ {s a s'}, given s → step s = .ok a s' → s'.flaws = [] → P a

namespace Grants

theorem of_steady {step : Parse α} (h : Steady step) (hP : ∀ a, P a) : Grants given step P :=
  ⟨h, fun _ _ _ => hP _⟩

theorem ret {a : α} (h : P a) : Grants given (pure a) P := by
  refine ⟨steady_pure a, fun _ hrun _ => ?_⟩
  cases hrun
  exact h

theorem throw (flaw : Flaw) : Grants given (throw flaw : Parse α) P :=
  ⟨steady_throw flaw, fun _ hrun _ => by cases hrun⟩

theorem imp {step : Parse α} {R : α → Prop} (h : Grants given step P) (himp : ∀ a, P a → R a) : Grants given step R :=
  ⟨h.steady, fun hgiven hrun hflaws => himp _ (h.holds hgiven hrun hflaws)⟩

/-- One of two steps is taken. -/
theorem choice {c : Prop} [Decidable c] {x y : Parse α} (hx : Grants given x P) (hy : Grants given y P) :
    Grants given (if c then x else y) P := by
  split
  · exact hx
  · exact hy

/-- A value that is at hand comes first. -/
theorem at_hand {a : α} {f : α → Parse β} (h : Grants given (f a) Q) : Grants given (pure a >>= f) Q := by
  rwa [pure_bind]

theorem within {change : Context → Context} {step : Parse α} (h : Grants given step P)
    (hchange : ∀ s : State, given s → given { s with context := change s.context }) :
    Grants given (within change step) P := by
  refine ⟨steady_within h.steady, ?_⟩
  intro s a s' hgiven hrun hflaws
  obtain ⟨t, hinner, rfl⟩ := within_ok hrun
  exact h.holds (hchange _ hgiven) hinner hflaws

theorem attempt {step : Parse α} (h : Grants given step P) :
    Grants given (attempt step) fun result => ∀ a, result = .ok a → P a := by
  refine ⟨steady_attempt h.steady, ?_⟩
  rintro s _ s' hgiven hrun hflaws a rfl
  rw [attempt_apply] at hrun
  cases hinner : step s with
  | ok b s'' =>
    rw [hinner] at hrun
    cases hrun
    exact h.holds hgiven hinner hflaws
  | error flaw s'' =>
    rw [hinner] at hrun
    cases hrun

variable [Lasting given]

/-- What the first step grants may be used for what the next one does. -/
theorem bind {x : Parse α} {f : α → Parse β} (hx : Grants given x P)
    (hf : ∀ a, Grants given (f a) fun b => P a → Q b) : Grants given (x >>= f) Q := by
  refine ⟨steady_bind hx.steady fun a => (hf a).steady, ?_⟩
  intro s b s'' hgiven hrun hflaws
  obtain ⟨a, s', hfirst, hnext⟩ := bind_eq_ok_iff.1 hrun
  have hleft := hx.steady s
  have hleft' := (hf a).steady s'
  rw [hfirst] at hleft
  rw [hnext] at hleft'
  -- what the first step put on record would still be there after the second one
  have hmid : s'.flaws = [] := List.suffix_nil.1 (hflaws ▸ hleft'.2.flaws)
  exact (hf a).holds (Lasting.lasts hleft.1 hleft.2 hgiven) hnext hflaws (hx.holds hgiven hfirst hmid)

/-- A step that is only steady comes first. -/
theorem after {x : Parse α} {f : α → Parse β} (hx : Steady x) (hf : ∀ a, Grants given (f a) Q) :
    Grants given (x >>= f) Q :=
  bind (P := fun _ => True) (of_steady hx fun _ => trivial) fun a =>
    ⟨(hf a).steady, fun hgiven hrun hflaws _ => (hf a).holds hgiven hrun hflaws⟩

theorem withinBody {change : Context → Context} {step : Parse α} (h : Grants given step P)
    (hchange : ∀ s : State, given s →
      given { s with context := { change s.context with allowsBreak := false, allowsContinue := false } }) :
    Grants given (withinBody change step) P := by
  refine .after steady_get fun s => .after (steady_modify fun _ => ⟨rfl, rfl, rfl⟩) fun _ => ?_
  exact .bind (.within h hchange) fun a => .after (steady_modify fun _ => ⟨rfl, rfl, rfl⟩) fun _ => .ret id

/-- A step that is only steady may be left out. -/
theorem check {c : Prop} [Decidable c] {x : Parse Unit} {next : Unit → Parse α} (hx : Steady x)
    (hnext : ∀ u, Grants given (next u) P) : Grants given (if c then x >>= next else next ()) P := by
  split
  · exact after hx hnext
  · exact hnext ()

/-- So may one that looks at something before. -/
theorem check_with {γ : Type} {c : Prop} [Decidable c] {look : Parse γ} {x : γ → Parse Unit} {next : Unit → Parse α}
    (hlook : Steady look) (hx : ∀ t, Steady (x t)) (hnext : ∀ u, Grants given (next u) P) :
    Grants given (if c then look >>= fun t => x t >>= next else next ()) P := by
  split
  · exact after hlook fun t => after (hx t) hnext
  · exact hnext ()

/-- One of two steps comes first. -/
theorem either {c : Prop} [Decidable c] {x y : Parse α} {next : α → Parse β} (hx : Grants given x P)
    (hy : Grants given y P) (hnext : ∀ a, Grants given (next a) fun b => P a → Q b) :
    Grants given (if c then x >>= next else y >>= next) Q := by
  split
  · exact bind hx hnext
  · exact bind hy hnext

theorem many {test : Parse Bool} {step : Parse α} (ht : Steady test) (hs : Grants given step P) :
    Grants given (many test step) fun items => ∀ item ∈ items, P item := by
  refine after steady_stepsLeft fun steps => ?_
  induction steps with
  | zero => exact ret (by simp)
  | succ steps ih =>
    unfold repeatWhile
    refine after ht fun goesOn => ?_
    split
    · refine bind hs fun item => bind ih fun rest => ret ?_
      intro hrest hitem
      simpa using ⟨hitem, hrest⟩
    · exact ret (by simp)

end Grants

theorem grants_failAt [Lasting given] (offset : Nat) (cause : Cause) :
    Grants given (failAt offset cause : Parse α) P := by
  refine .after steady_token fun t => ?_
  split <;> exact .throw _

theorem grants_fail [Lasting given] (cause : Cause) : Grants given (fail cause : Parse α) P :=
  .after steady_here fun offset => grants_failAt offset cause

theorem grants_failUnexpected [Lasting given] (wanted : String) :
    Grants given (failUnexpected wanted : Parse α) P :=
  .after steady_requireToken fun _ => grants_fail _

/-- What the statement of a body grants must not depend on whether code is strict. -/
theorem grants_bodyStatements [Lasting given] {test : Parse Bool} {statement : Parse Node} {P : Node → Prop}
    (ht : Steady test) (hs : Grants given statement P)
    (hstrict : ∀ s : State, given s → given { s with context := { s.context with strict := true } }) :
    Grants given (bodyStatements test statement) fun statements => ∀ node ∈ statements, P node := by
  have hrest (first : Node) : Grants given (return first :: (← many test statement)) fun statements =>
      P first → ∀ node ∈ statements, P node := by
    refine .bind (.many ht hs) fun rest => .ret fun hrest hfirst => ?_
    simpa using ⟨hfirst, hrest⟩
  unfold bodyStatements
  refine .after ht fun goesOn => ?_
  split
  · refine .after steady_startOffset fun start => .bind hs fun first => ?_
    split
    · exact .within (.after steady_get fun s => .check steady_rescan fun _ => hrest first) hstrict
    · exact hrest first
  · exact .ret (by simp)

end Stencil.Script.Grammar
