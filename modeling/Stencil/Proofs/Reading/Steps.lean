import Stencil.Proofs.Reading.Strings
import Stencil.Script.Grammar.Script
/-!
# Steady steps

A step of parsing may change the context for a step inside it, and it may record flaws. A steady step puts the
context back before what follows it goes on, and forgets no flaw, whether it succeeds or gives up. So what a
production records deep inside is still on record when the script ends, and what a statement finds allowed is
what was allowed where the statement around it began. It also keeps states sound: the current token is one that was
scanned, and its flaws are on record.

Each step has its lemma, tagged for `grind`, which follows the steps of a definition by the rules for `>>=` and the
rest. It does not follow many steps in a row; where a definition has more, the first ones are taken by hand.
-/

namespace Stencil.Script.Grammar

variable {α β : Type}

/-- Where no flaw is on record, the current token has none, and if it is a string literal, it is coherent. -/
def State.Sound (s : State) : Prop := s.flaws = [] → s.current.token.Coherent ∧ s.current.flaws = []

/-- A state that comes later: no flaw is forgotten, and the state is as sound as it was. -/
structure State.Onward (s s' : State) : Prop where
  flaws : s.flaws <:+ s'.flaws
  sound : s.Sound → s'.Sound

theorem State.Onward.refl (s : State) : s.Onward s := ⟨List.suffix_refl s.flaws, id⟩

theorem State.Onward.trans {s s' s'' : State} (h : s.Onward s') (h' : s'.Onward s'') : s.Onward s'' :=
  ⟨h.flaws.trans h'.flaws, h'.sound ∘ h.sound⟩

/-- A flaw that is added makes a state sound. -/
theorem State.Onward.cons (s : State) (flaw : Flaw) : s.Onward { s with flaws := flaw :: s.flaws } :=
  ⟨List.suffix_cons flaw s.flaws, fun _ => nofun⟩

/-- How a step may leave a state: a later one in which what goes on finds the context. -/
def Leaves (s : State) : EStateM.Result Flaw State α → Prop
  | .ok _ s' => s'.context = s.context ∧ s.Onward s'
  | .error _ s' => s.Onward s'

/-- A step puts the context back, forgets no flaw and keeps the state sound. -/
def Steady (step : Parse α) : Prop := ∀ s, Leaves s (step s)

/-! ## One step after the other -/

@[grind ←] theorem steady_pure (a : α) : Steady (pure a : Parse α) :=
  fun s => ⟨rfl, .refl s⟩

@[grind ←] theorem steady_throw (flaw : Flaw) : Steady (throw flaw : Parse α) :=
  fun s => .refl s

@[grind ←] theorem steady_get : Steady (get : Parse State) :=
  fun s => ⟨rfl, .refl s⟩

@[grind ←] theorem steady_bind {x : Parse α} {f : α → Parse β} (hx : Steady x) (hf : ∀ a, Steady (f a)) :
    Steady (x >>= f) := by
  intro s
  have hx := hx s
  show Leaves s (EStateM.bind x f s)
  unfold EStateM.bind
  cases hrun : x s with
  | error flaw s' => rwa [hrun] at hx
  | ok a s' =>
    rw [hrun] at hx
    have hf := hf a s'
    simp only
    cases hnext : f a s' with
    | error flaw s'' =>
      rw [hnext] at hf
      exact hx.2.trans hf
    | ok b s'' =>
      rw [hnext] at hf
      exact ⟨hf.1.trans hx.1, hx.2.trans hf.2⟩

/-- One of two steps is taken. -/
theorem steady_ite {c : Prop} [Decidable c] {x y : Parse α} (hx : Steady x) (hy : Steady y) :
    Steady (if c then x else y) := by
  split
  · exact hx
  · exact hy

/-- A step after another one succeeds where both do. -/
theorem bind_eq_ok_iff {x : Parse α} {f : α → Parse β} {s s'' : State} {b : β} :
    (x >>= f) s = .ok b s'' ↔ ∃ a s', x s = .ok a s' ∧ f a s' = .ok b s'' := by
  show EStateM.bind x f s = _ ↔ _
  unfold EStateM.bind
  cases x s with
  | error flaw s' => simp
  | ok a s' => simp [and_assoc]

theorem bind_of_ok {x : Parse α} {f : α → Parse β} {s s' : State} {a : α} (h : x s = .ok a s') :
    (x >>= f) s = f a s' := by
  show EStateM.bind x f s = _
  simp only [EStateM.bind, h]

@[grind ←] theorem steady_modify {f : State → State}
    (hf : ∀ s, (f s).context = s.context ∧ (f s).flaws = s.flaws ∧ (f s).current = s.current) :
    Steady (modify f) := by
  intro s
  obtain ⟨hcontext, hflaws, hcurrent⟩ := hf s
  refine ⟨hcontext, ?_, fun hs => ?_⟩
  · show s.flaws <:+ (f s).flaws
    simp [hflaws]
  · show (f s).Sound
    rwa [State.Sound, hflaws, hcurrent]

/-- A step that looks at the state first has to leave every state well. -/
theorem steady_get_bind {next : State → Parse α} (h : ∀ s, Leaves s (next s s)) : Steady (get >>= next) := h

/-- A state that is put in place of another one leaves as that one does if it comes later in the same context. -/
theorem leaves_set {s t : State} {next : Unit → Parse α} (hc : t.context = s.context) (ht : s.Onward t)
    (hn : Steady (next ())) : Leaves s ((set t >>= next) s) := by
  have hn := hn t
  show Leaves s (next () t)
  cases hrun : next () t <;> rw [hrun] at hn
  · exact ⟨hn.1.trans hc, ht.trans hn.2⟩
  · exact ht.trans hn

@[grind ←] theorem steady_discard {x : Parse α} (hx : Steady x) : Steady (discard x) := by
  intro s
  have hx := hx s
  show Leaves s (EStateM.map (Function.const α PUnit.unit) x s)
  unfold EStateM.map
  cases hrun : x s <;> rwa [hrun] at hx

/-! ## The current token -/

@[grind ←] theorem steady_token : Steady token := by
  unfold token
  grind

@[grind ←] theorem steady_context : Steady context := by
  unfold context
  grind

@[grind ←] theorem steady_startOffset : Steady startOffset := by
  unfold startOffset
  grind

@[grind ←] theorem steady_here : Steady here := by
  unfold here
  grind

@[grind ←] theorem steady_afterLine : Steady afterLine := by
  unfold afterLine
  grind

@[grind ←] theorem steady_scanFrom (cur : Cursor) : Steady (scanFrom cur) := by
  refine fun s => ⟨rfl, List.suffix_append _ s.flaws, fun _ hflaws => ?_⟩
  obtain ⟨hnext, -⟩ := List.append_eq_nil_iff.1 hflaws
  have hnone := List.reverse_eq_nil_iff.1 hnext
  exact ⟨Scan.coherent_lexeme hnone, hnone⟩

@[grind ←] theorem steady_rescan : Steady rescan := by
  refine fun s => ⟨rfl, List.suffix_append _ s.flaws, fun hs hflaws => ?_⟩
  obtain ⟨hnext, hbefore⟩ := List.append_eq_nil_iff.1 hflaws
  obtain ⟨hcoherent, hnone⟩ := hs hbefore
  -- no flaw was known of the token, so all that it has now are recorded
  have hagain : (Scan.rescan s.context.strict s.current).flaws = [] := by simpa [hnone] using hnext
  exact ⟨Scan.coherent_rescan hcoherent hagain, hagain⟩

@[grind ←] theorem steady_advance : Steady advance := by
  refine steady_get_bind fun s => ?_
  exact leaves_set rfl ⟨List.suffix_refl _, id⟩ (steady_scanFrom s.current.stop)

@[grind ←] theorem steady_nextLexeme : Steady nextLexeme := by
  unfold nextLexeme
  grind

@[grind ←] theorem steady_isAt (text : String) : Steady (isAt text) := by
  unfold isAt
  grind

@[grind ←] theorem steady_isAtOne (texts : List String) : Steady (isAtOne texts) := by
  unfold isAtOne
  grind

@[grind ←] theorem steady_isAtWord (name : String) : Steady (isAtWord name) := by
  unfold isAtWord
  grind

@[grind ←] theorem steady_isDone : Steady isDone := by
  unfold isDone
  grind

/-! ## Flaws -/

@[grind ←] theorem steady_failAt (offset : Nat) (cause : Cause) : Steady (failAt offset cause : Parse α) := by
  unfold failAt
  grind

@[grind ←] theorem steady_fail (cause : Cause) : Steady (fail cause : Parse α) := by
  unfold fail
  grind

@[grind ←] theorem steady_recordFlaw (flaw : Flaw) : Steady (recordFlaw flaw) := by
  have hadd : ∀ flaw, Steady (modify fun s : State => { s with flaws := flaw :: s.flaws }) :=
    fun flaw s => ⟨rfl, .cons s flaw⟩
  unfold recordFlaw
  refine steady_bind steady_token fun t => ?_
  split
  · exact steady_bind steady_advance fun _ => hadd _
  · exact hadd _

@[grind ←] theorem steady_record (offset : Nat) (cause : Cause) : Steady (record offset cause) := by
  unfold record
  grind

@[grind ←] theorem steady_recordHere (cause : Cause) : Steady (recordHere cause) := by
  unfold recordHere
  grind

@[grind ←] theorem steady_requireToken : Steady requireToken := by
  unfold requireToken
  grind

/-! ## Taking tokens -/

@[grind ←] theorem steady_take (text : String) : Steady (take text) := by
  unfold take
  grind

@[grind ←] theorem steady_takeWord (name : String) : Steady (takeWord name) := by
  unfold takeWord
  grind

@[grind ←] theorem steady_expect (text : String) : Steady (expect text) := by
  unfold expect
  grind

@[grind ←] theorem steady_expectWord (name : String) : Steady (expectWord name) := by
  unfold expectWord
  grind

@[grind ←] theorem steady_failUnexpected (wanted : String) : Steady (failUnexpected wanted : Parse α) := by
  unfold failUnexpected
  grind

@[grind ←] theorem steady_atStatementEnd : Steady atStatementEnd := by
  unfold atStatementEnd
  grind

@[grind ←] theorem steady_takeSemicolon : Steady takeSemicolon := by
  unfold takeSemicolon
  grind

@[grind ←] theorem steady_expectSemicolon : Steady expectSemicolon := by
  unfold expectSemicolon
  grind

/-! ## Repetition and context -/

@[grind ←] theorem steady_repeatWhile {test : Parse Bool} {step : Parse α} (ht : Steady test) (hs : Steady step)
    (steps : Nat) : Steady (repeatWhile test step steps) := by
  induction steps with
  | zero => exact steady_pure []
  | succ steps ih =>
    unfold repeatWhile
    grind

@[grind ←] theorem steady_stepsLeft : Steady stepsLeft := by
  unfold stepsLeft
  grind

@[grind ←] theorem steady_many {test : Parse Bool} {step : Parse α} (ht : Steady test) (hs : Steady step) :
    Steady (many test step) := by
  unfold many
  grind

@[grind ←] theorem steady_within {change : Context → Context} {step : Parse α} (hs : Steady step) :
    Steady (within change step) := by
  intro s
  have hs := hs { s with context := change s.context }
  show Leaves s (EStateM.bind step _ { s with context := change s.context })
  unfold EStateM.bind
  cases hrun : step { s with context := change s.context } with
  | error flaw s' =>
    rw [hrun] at hs
    exact ⟨hs.flaws, hs.sound⟩
  | ok a s' =>
    rw [hrun] at hs
    exact ⟨rfl, hs.2.flaws, hs.2.sound⟩

/-- What a step does in another context, the context put back after it. -/
theorem within_ok {change : Context → Context} {step : Parse α} {s s' : State} {a : α}
    (h : within change step s = .ok a s') :
    ∃ t, step { s with context := change s.context } = .ok a t ∧ s' = { t with context := s.context } := by
  have hrun : (step >>= _) { s with context := change s.context } = _ := h
  obtain ⟨b, t, hstep, hrest⟩ := bind_eq_ok_iff.1 hrun
  cases hrest
  exact ⟨t, hstep, rfl⟩

@[grind ←] theorem steady_withinBody {change : Context → Context} {step : Parse α} (hs : Steady step) :
    Steady (withinBody change step) := by
  unfold withinBody
  refine steady_bind steady_get fun s => steady_bind (steady_modify fun _ => ⟨rfl, rfl, rfl⟩) fun _ => ?_
  refine steady_bind (steady_within hs) fun a => ?_
  exact steady_bind (steady_modify fun _ => ⟨rfl, rfl, rfl⟩) fun _ => steady_pure a

/-- Giving up inside is a result like any other; the context is put back for it. -/
theorem attempt_apply (step : Parse α) (s : State) : attempt step s = match step s with
    | .ok a s' => .ok (.ok a) s'
    | .error flaw s' => .ok (.error flaw) { s' with context := s.context, labels := s.labels } := by
  unfold attempt
  simp only [bind, get, getThe, MonadStateOf.get, tryCatch, tryCatchThe, MonadExceptOf.tryCatch]
  delta EStateM.get EStateM.tryCatch
  simp only [EStateM.bind]
  cases step s <;> rfl

@[grind ←] theorem steady_attempt {step : Parse α} (hs : Steady step) : Steady (attempt step) := by
  intro s
  have hs := hs s
  rw [attempt_apply]
  cases hrun : step s <;> rw [hrun] at hs
  · exact hs
  · exact ⟨rfl, hs.flaws, hs.sound⟩

@[grind ←] theorem steady_withIn {step : Parse α} (hs : Steady step) : Steady (withIn step) := steady_within hs

/-! ## Identifiers -/

@[grind ←] theorem steady_isAtIdentifier : Steady isAtIdentifier := by
  unfold isAtIdentifier
  grind

@[grind ←] theorem steady_checkArguments (start : Nat) (name : String) : Steady (checkArguments start name) := by
  unfold checkArguments
  grind

@[grind ←] theorem steady_identifier : Steady identifier := by
  unfold identifier
  refine steady_bind steady_requireToken fun t => ?_
  split
  · refine steady_bind steady_startOffset fun start => steady_bind steady_context fun c => ?_
    grind
  · exact steady_fail _

@[grind ←] theorem steady_identifierName : Steady identifierName := by
  unfold identifierName
  grind

/-! ## Steps that refer to no production -/

@[grind ←] theorem steady_separator (closing : String) : Steady (separator closing) := by
  unfold separator
  grind

@[grind ←] theorem steady_bodyStatements {test : Parse Bool} {statement : Parse Node} (ht : Steady test)
    (hs : Steady statement) : Steady (bodyStatements test statement) := by
  unfold bodyStatements
  grind

@[grind ←] theorem steady_anyParameters (params : List Node) : Steady (anyParameters params) := steady_pure ()

@[grind ←] theorem steady_withArguments {step : Parse α} (hs : Steady step) : Steady (withArguments step) :=
  steady_within hs

@[grind ←] theorem steady_isAtFieldEnd (lines : Bool) : Steady (isAtFieldEnd lines) := by
  unfold isAtFieldEnd
  grind

@[grind ←] theorem steady_checkConstructors (start : Nat) (members : List Node) :
    Steady (checkConstructors start members) := by
  unfold checkConstructors
  grind

@[grind ←] theorem steady_separated (closing : String) (item : Node) : Steady (separated closing item) := by
  unfold separated
  grind

@[grind ←] theorem steady_regularExpression : Steady regularExpression := by
  refine steady_get_bind fun s => ?_
  cases Scan.regex? s.current.start with
  | none => exact leaves_set rfl ⟨List.suffix_refl _, fun hs hflaws => ⟨trivial, (hs hflaws).2⟩⟩ (steady_throw _)
  | some found => exact leaves_set rfl ⟨List.suffix_refl _, id⟩ (by grind)

@[grind ←] theorem steady_templateText (isTagged : Bool) : Steady (templateText isTagged) := by
  refine steady_get_bind fun s => ?_
  cases Scan.templateText? s.current.stop.rest with
  | none => exact steady_throw _ s
  | some text =>
    simp only
    cases !isTagged && !text.isValid with
    | true => exact State.Onward.refl s
    | false => exact leaves_set rfl ⟨List.suffix_refl _, id⟩ (by grind)

@[grind ←] theorem steady_binaryOperator? : Steady binaryOperator? := by
  unfold binaryOperator?
  grind

@[grind ←] theorem steady_closeParentheses (start : Nat) (items : List Node) :
    Steady (closeParentheses start items) := by
  unfold closeParentheses
  grind

@[grind ←] theorem steady_checkDefaults (start : Nat) (items : List Node) : Steady (checkDefaults start items) := by
  unfold checkDefaults
  grind

@[grind ←] theorem steady_isAtAwaitedOf : Steady isAtAwaitedOf := by
  unfold isAtAwaitedOf
  grind

@[grind ←] theorem steady_constant (value : Atom) : Steady (primary.constant value) := by
  unfold primary.constant
  grind

@[grind ←] theorem steady_checkMember (object name : Node) : Steady (checkMember object name) := by
  unfold checkMember
  grind

@[grind ←] theorem steady_memberName : Steady memberName := by
  unfold memberName
  grind

@[grind ←] theorem steady_checkComplete (object : Node) : Steady (checkComplete object) := by
  unfold checkComplete
  grind

@[grind ←] theorem steady_checkUpdateTarget (start : Nat) (operand : Node) :
    Steady (checkUpdateTarget start operand) := by
  unfold checkUpdateTarget
  grind

@[grind ←] theorem steady_unaryOperator? : Steady unaryOperator? := by
  unfold unaryOperator?
  grind

@[grind ←] theorem steady_assignOperator? : Steady assignOperator? := by
  unfold assignOperator?
  grind

@[grind ←] theorem steady_isAtLetDeclaration : Steady isAtLetDeclaration := by
  unfold isAtLetDeclaration
  grind

@[grind ←] theorem steady_variableKeyword? : Steady variableKeyword? := by
  unfold variableKeyword?
  grind

@[grind ←] theorem steady_isAtLoopWord : Steady isAtLoopWord := by
  unfold isAtLoopWord
  grind

@[grind ←] theorem steady_skipStatement (steps : Nat) : Steady (skipStatement steps) := by
  induction steps with
  | zero => exact steady_pure _
  | succ steps ih =>
    unfold skipStatement
    grind

@[grind ←] theorem steady_checkLoopDeclaration (start : Nat) (node : Node) :
    Steady (checkLoopDeclaration start node) := by
  unfold checkLoopDeclaration
  grind

theorem steady_jumpLabel : Steady jumpLabel := by
  unfold jumpLabel
  grind

theorem steady_isKnownLabel (label : Node) : Steady (isKnownLabel label) := by
  unfold isKnownLabel
  grind

theorem steady_isAtAsyncFunction : Steady isAtAsyncFunction := by
  unfold isAtAsyncFunction
  grind

end Stencil.Script.Grammar
