import Stencil.Proofs.Nesting
import Stencil.Proofs.Reading.Frame
import Stencil.Proofs.Reading.Grants
/-!
# Returns outside of functions

A script returns at its outermost level if a `return` stands among the statements that run with it, however deep
in branches, loops, blocks and handlers. A script that is read where that is not allowed never does
(`not_returns_of_parse`): the grammar records a flaw at such a `return`, and no step forgets it. The body of a
`with` counts as the body of a function, so what it returns does not count here.
-/

namespace Stencil.Script

/-- Whether a part of a form is code that runs with it, and not a function of its own. -/
def Kind.runs : Kind → Nat → Bool
  | .script _, _ | .block, _ | .tryStatement, _ => true
  | .switchStatement, i | .switchCase, i | .catchClause, i => i != 0
  | .withScope, _ => false
  | kind, i => kind.isBody i

/-- A tree returns: it is a `return`, or a part that runs with it returns. -/
inductive Node.Returns (look : Node → Node) : Node → Prop
  | here {parts} : Returns look (.node .returnStatement parts)
  | inside {kind parts part i} (hm : (part, i) ∈ parts.zipIdx) (hi : kind.runs i = true)
      (h : Returns look (look part)) : Returns look (.node kind parts)

namespace Node

variable {look : Node → Node}

theorem returns_node_iff {kind : Kind} {parts : List Node} : Returns look (.node kind parts) ↔
    kind = .returnStatement ∨ ∃ p ∈ parts.zipIdx, kind.runs p.2 = true ∧ Returns look (look p.1) := by
  constructor
  · intro h
    cases h with
    | here => exact .inl rfl
    | inside hm hi h => exact .inr ⟨_, hm, hi, h⟩
  · rintro (rfl | ⟨⟨part, i⟩, hm, hi, h⟩)
    · exact .here
    · exact .inside hm hi h

/-- A form that runs no part of it does not return, unless it is a `return` itself. -/
theorem not_returns_of_runs {kind : Kind} {parts : List Node} (hkind : kind ≠ .returnStatement)
    (hruns : ∀ i, kind.runs i = false) : ¬ Returns look (.node kind parts) := by
  rw [returns_node_iff]
  rintro (h | ⟨p, -, h, -⟩)
  · exact hkind h
  · rw [hruns] at h
    cases h

theorem not_returns_leaf {tree : Node} (h : tree.kind? = none) : ¬ Returns look tree := by
  intro hr
  cases hr <;> cases h

end Node

namespace Grammar

open Node

/-! ## Where a return is refused -/

/-- Whether a `return` is a flaw in a context. -/
def Context.refusesReturn (c : Context) : Bool := c.inStaticBlock || !(c.inFunction || c.allowsReturn)

/-- A `return` is a flaw in the context of a state. -/
def RefusesReturn (s : State) : Prop := s.context.refusesReturn = true

instance : Lasting RefusesReturn where
  lasts hcontext _ h := by rwa [RefusesReturn, hcontext]

theorem grants_context : Grants RefusesReturn context fun c => c.refusesReturn = true := by
  refine ⟨steady_context, fun hc hrun _ => ?_⟩
  cases hrun
  exact hc

/-- After a flaw has been recorded nothing is granted any more. -/
theorem grants_record (offset : Nat) (cause : Cause) : Grants RefusesReturn (record offset cause) fun _ => False := by
  have hadd (flaw : Flaw) :
      Grants RefusesReturn (modify fun s : State => { s with flaws := flaw :: s.flaws }) fun _ => False := by
    refine ⟨fun s => ⟨rfl, .cons s flaw⟩, fun _ hrun hflaws => ?_⟩
    cases hrun
    cases hflaws
  unfold record recordFlaw
  refine .after steady_token fun t => ?_
  split
  · exact .after steady_advance fun _ => hadd _
  · exact hadd _

/-! ## Statements -/

/-- A tree that does not return. -/
abbrev NoReturn (node : Node) : Prop := ¬ node.Returns id

/-- A form does not return if no part that runs with it does. -/
theorem noReturn_node {kind : Kind} {parts : List Node} (hkind : kind ≠ .returnStatement)
    (h : ∀ p ∈ parts.zipIdx, kind.runs p.2 = true → NoReturn p.1) : NoReturn (.node kind parts) := by
  rw [NoReturn, returns_node_iff]
  rintro (hk | ⟨p, hm, hi, hr⟩)
  · exact hkind hk
  · exact h p hm hi hr

theorem noReturn_of_forall {kind : Kind} {parts : List Node} (hkind : kind ≠ .returnStatement)
    (h : ∀ part ∈ parts, NoReturn part) : NoReturn (.node kind parts) :=
  noReturn_node hkind fun p hm _ => h p.1 (List.fst_mem_of_mem_zipIdx hm)

theorem noReturn_absent : NoReturn .absent := not_returns_leaf rfl

/-- The first part of a form may be an expression that does not run with it. -/
theorem noReturn_of_rest {kind : Kind} {first : Node} {rest : List Node} (hkind : kind ≠ .returnStatement)
    (hfirst : kind.runs 0 = false) (h : ∀ part ∈ rest, NoReturn part) : NoReturn (.node kind (first :: rest)) := by
  refine noReturn_node hkind fun p hm hi => ?_
  rw [List.zipIdx_cons] at hm
  rcases List.mem_cons.1 hm with rfl | hm
  · rw [hfirst] at hi
    cases hi
  · exact h p.1 (List.fst_mem_of_mem_zipIdx hm)

/-! ## Statements without others inside -/

theorem grants_debugger :
    Grants RefusesReturn (do advance; expectSemicolon; return .atom .debuggerStatement) NoReturn :=
  .after steady_advance fun _ => .after steady_expectSemicolon fun _ => .ret (not_returns_leaf rfl)

theorem grants_breakStatement : Grants RefusesReturn breakStatement NoReturn := by
  unfold breakStatement
  refine .after steady_startOffset fun start => .after steady_advance fun _ => ?_
  refine .after steady_jumpLabel fun label => .after (steady_isKnownLabel label) fun isKnown => ?_
  have hend : Grants RefusesReturn (pure (.node .breakStatement [label])) NoReturn :=
    .ret (not_returns_of_runs nofun fun _ => rfl)
  dsimp only
  split
  · exact .after (steady_record _ _) fun _ => hend
  · exact .after steady_context fun c => .check (steady_record _ _) fun _ => hend

theorem grants_continueStatement : Grants RefusesReturn continueStatement NoReturn := by
  unfold continueStatement
  refine .after steady_startOffset fun start => .after steady_advance fun _ => ?_
  refine .after steady_jumpLabel fun label => .after steady_context fun c => ?_
  have hend : Grants RefusesReturn (pure (.node .continueStatement [label])) NoReturn :=
    .ret (not_returns_of_runs nofun fun _ => rfl)
  dsimp only
  split
  · exact .after (steady_record _ _) fun _ => hend
  · exact .after (steady_isKnownLabel label) fun isKnown => .check (steady_record _ _) fun _ => hend

section Productions
variable {parse : Productions} (hp : AllSteady parse)
include hp

theorem grants_throwStatement : Grants RefusesReturn (throwStatement parse) NoReturn := by
  unfold throwStatement
  refine .after steady_advance fun _ => .after steady_afterLine fun _ => .check (steady_fail _) fun _ => ?_
  refine .after (steady_withIn (hp _)) fun value => .after steady_expectSemicolon fun _ => .ret ?_
  exact not_returns_of_runs nofun fun _ => rfl

/-- The context that refuses a `return` is the one in which it is recorded. -/
theorem grants_returnStatement : Grants RefusesReturn (returnStatement parse) NoReturn := by
  have hend : ∀ start value, Grants RefusesReturn (do
      expectSemicolon
      let c ← context
      if c.inStaticBlock || !(c.inFunction || c.allowsReturn) then record start .returnOutsideFunction
      return .node .returnStatement [value]) NoReturn := by
    intro start value
    refine .after steady_expectSemicolon fun _ => .bind grants_context fun c => ?_
    dsimp only
    split
    · exact .bind (grants_record _ _) fun _ => .ret fun h _ => h.elim
    · rename_i hrefuses
      exact .ret fun h => absurd h hrefuses
  unfold returnStatement
  refine .after steady_startOffset fun start => .after steady_advance fun _ => ?_
  refine .after steady_atStatementEnd fun atEnd => ?_
  dsimp only
  split
  · exact hend start .absent
  · exact .after (steady_withIn (hp _)) fun value => hend start value

theorem grants_declaration (keyword : VariableKeyword) : Grants RefusesReturn (declaration parse keyword) NoReturn := by
  have hhead : Grants RefusesReturn (declarationHead parse keyword false) NoReturn := by
    unfold declarationHead
    refine .after steady_advance fun _ => .after steady_stepsLeft fun steps => ?_
    refine .after (steady_within (steady_declarators hp _ _ _)) fun items => .ret ?_
    exact not_returns_of_runs nofun fun _ => rfl
  unfold declaration
  refine .bind hhead fun node => .after steady_takeSemicolon fun ends => ?_
  dsimp only
  split
  · refine .after steady_token fun t => .after (steady_recordHere _) fun _ => ?_
    refine .after (steady_discard (steady_attempt (hp _))) fun _ => .after steady_stepsLeft fun steps => ?_
    exact .after (steady_skipStatement _) fun _ => .ret id
  · exact .ret id

theorem grants_function (isAsync isExpression : Bool) :
    Grants RefusesReturn (function parse isAsync isExpression) NoReturn := by
  unfold function
  refine .after (steady_expectWord _) fun _ => .after (steady_take _) fun isGenerator => ?_
  have htail : ∀ calling, Steady (withArguments (functionTail parse calling false anyParameters)) :=
    fun calling => steady_withArguments (steady_functionTail hp _ _ steady_anyParameters)
  dsimp only
  split
  · refine .after (steady_within (by grind)) fun name => .after (htail _) fun tail => .ret ?_
    exact not_returns_of_runs nofun fun _ => rfl
  · refine .after steady_identifier fun name => .after (steady_pure _) fun name => .after (htail _) fun tail => .ret ?_
    exact not_returns_of_runs nofun fun _ => rfl

theorem grants_classFrom (isExpression : Bool) : Grants RefusesReturn (classFrom parse isExpression) NoReturn := by
  have htail := steady_classTail hp
  unfold classFrom
  refine .after (steady_expectWord _) fun _ => .after steady_token fun t => ?_
  refine .check (steady_failUnexpected _) fun _ => .after (steady_within (by grind)) fun parts => ?_
  refine .after steady_isDone fun isDone => .either (.of_steady (steady_recordHere _) fun _ => trivial)
    (.of_steady (steady_expect _) fun _ => trivial) fun _ => .ret fun _ => ?_
  cases isExpression <;> exact not_returns_of_runs nofun fun _ => rfl

theorem grants_importStatement : Grants RefusesReturn (importStatement parse) NoReturn := by
  unfold importStatement
  refine .after steady_nextLexeme fun next => .after (steady_isAtWord _) fun isImport => ?_
  split
  · refine .after (hp _) fun value => .after (steady_discard steady_takeSemicolon) fun _ => .ret ?_
    exact not_returns_of_runs nofun fun _ => rfl
  · exact grants_fail _

/-! ## Heads of loops -/

/-- With a body that does not return, a loop does not. -/
def HeadsNoReturn (head : LoopHead) : Prop :=
  ∀ inner, NoReturn inner → NoReturn (.node head.kind (head.parts ++ [inner]))

theorem grants_countingHead (init : Node) : Grants RefusesReturn (countingHead parse init) HeadsNoReturn := by
  have hloop : ∀ test update, HeadsNoReturn ⟨.forLoop, [init, test, update]⟩ := by
    intro test update inner h
    exact noReturn_node nofun (by simpa [Kind.runs, Kind.isBody] using h)
  have hend : ∀ test, Grants RefusesReturn (do
      let update ← if ← isAt ")" then pure .absent else withIn (parse .expression)
      return ⟨.forLoop, [init, test, update]⟩) HeadsNoReturn := by
    intro test
    refine .after (steady_isAt _) fun isLast => ?_
    dsimp only
    split
    · exact .ret (hloop test .absent)
    · exact .after (steady_withIn (hp _)) fun update => .ret (hloop test update)
  unfold countingHead
  refine .after (steady_take _) fun isEmpty => ?_
  dsimp only
  split
  · exact hend .absent
  · exact .after (steady_withIn (hp _)) fun test => .after (steady_expect _) fun _ => hend test

theorem grants_valuesHead (isAwait : Bool) (target : Node) :
    Grants RefusesReturn (valuesHead parse isAwait target) HeadsNoReturn := by
  unfold valuesHead
  refine .after (steady_takeWord _) fun isOf => ?_
  split
  · refine .after (steady_withIn (hp _)) fun values => .ret fun inner h => ?_
    exact noReturn_node nofun (by simpa [Kind.runs, Kind.isBody] using h)
  · refine .after (steady_expectWord _) fun _ => .after (steady_withIn (hp _)) fun object => .ret fun inner h => ?_
    exact noReturn_node nofun (by simpa [Kind.runs, Kind.isBody] using h)

theorem grants_declaringHead (keyword : VariableKeyword) (isAwait : Bool) :
    Grants RefusesReturn (declaringHead parse keyword isAwait) HeadsNoReturn := by
  unfold declaringHead
  refine .after steady_startOffset fun start => .after (steady_declarationHead hp _ _) fun node => ?_
  refine .after steady_isAtLoopWord fun overValues => ?_
  split
  · exact .after (steady_checkLoopDeclaration _ _) fun _ => grants_valuesHead hp isAwait node
  · exact .after (steady_expect _) fun _ => grants_countingHead hp node

theorem grants_plainHead (isAwait : Bool) : Grants RefusesReturn (plainHead parse isAwait) HeadsNoReturn := by
  unfold plainHead
  refine .after (steady_take _) fun isEmpty => ?_
  split
  · exact grants_countingHead hp .absent
  · refine .after steady_startOffset fun start => .after (steady_within (hp _)) fun init => ?_
    refine .after steady_isAtLoopWord fun overValues => ?_
    split
    · refine .after steady_context fun c => ?_
      split
      · exact grants_valuesHead hp isAwait _
      · exact grants_failAt _ _
    · exact .after (steady_expect _) fun _ => grants_countingHead hp init

theorem grants_loopHead (isAwait : Bool) : Grants RefusesReturn (loopHead parse isAwait) HeadsNoReturn := by
  unfold loopHead
  refine .after steady_variableKeyword? fun keyword => ?_
  split
  · refine .after steady_isAtLetDeclaration fun declares => ?_
    split
    · exact grants_declaringHead hp .lexical isAwait
    · exact grants_plainHead hp isAwait
  · exact grants_declaringHead hp _ isAwait
  · exact grants_plainHead hp isAwait

theorem steady_condition : Steady (condition parse) := by
  unfold condition
  grind

/-! ## Statements with others inside -/

variable (hs : ∀ declares outermost, Grants RefusesReturn (parse (.statement declares outermost)) NoReturn)
include hs

omit hp in
theorem grants_loopBody : Grants RefusesReturn (loopBody parse) NoReturn := .within (hs false false) fun _ h => h

theorem grants_ifStatement : Grants RefusesReturn (ifStatement parse) NoReturn := by
  unfold ifStatement
  refine .after steady_advance fun _ => .after (steady_condition hp) fun test => ?_
  refine .bind (hs false false) fun consequent => .after (steady_takeWord _) fun hasElse => ?_
  refine .either (hs false false) (.ret noReturn_absent) fun alternative => .ret fun ha hc => ?_
  exact noReturn_of_rest nofun rfl (by simpa using ⟨hc, ha⟩)

theorem grants_whileStatement : Grants RefusesReturn (whileStatement parse) NoReturn := by
  unfold whileStatement
  refine .after steady_advance fun _ => .after (steady_condition hp) fun test => ?_
  exact .bind (grants_loopBody hs) fun inner => .ret fun h => noReturn_of_rest nofun rfl (by simpa using h)

theorem grants_doStatement : Grants RefusesReturn (doStatement parse) NoReturn := by
  unfold doStatement
  refine .after steady_advance fun _ => .bind (grants_loopBody hs) fun inner => ?_
  refine .after (steady_expectWord _) fun _ => .after (steady_condition hp) fun test => ?_
  refine .after (steady_discard steady_takeSemicolon) fun _ => .ret fun h => ?_
  exact noReturn_of_rest nofun rfl (by simpa using h)

theorem grants_forStatement : Grants RefusesReturn (forStatement parse) NoReturn := by
  unfold forStatement
  refine .after steady_startOffset fun start => .after steady_advance fun _ => ?_
  refine .after (steady_takeWord _) fun isAwait => .after (steady_expect _) fun _ => ?_
  refine .bind (grants_loopHead hp isAwait) fun head => .after (steady_expect _) fun _ => ?_
  refine .check (steady_record _ _) fun _ => .bind (grants_loopBody hs) fun inner => .ret ?_
  intro hinner hhead
  exact hhead inner hinner

theorem grants_withStatement : Grants RefusesReturn (withStatement parse) NoReturn := by
  unfold withStatement
  refine .after steady_advance fun _ => .after (steady_condition hp) fun object => ?_
  refine .after (steady_within (hs _ _).steady) fun inner => .ret ?_
  exact not_returns_of_runs nofun fun _ => rfl

theorem grants_switchCases (steps : Nat) (hasDefault : Bool) :
    Grants RefusesReturn (switchCases parse steps hasDefault) fun cases => ∀ node ∈ cases, NoReturn node := by
  induction steps generalizing hasDefault with
  | zero => exact .ret (by simp)
  | succ steps ih =>
    unfold switchCases
    refine .after (steady_isAtWord _) fun isCase => .after (steady_isAtWord _) fun isDefault => ?_
    split
    · refine .after steady_advance fun _ => .check (steady_fail _) fun _ => ?_
      refine .either (.of_steady (steady_withIn (hp _)) fun _ => trivial) (.ret trivial) fun test => ?_
      refine .after (steady_expect _) fun _ => .bind (.many (by grind) (hs true false)) fun statements => ?_
      refine .bind (ih _) fun rest => .ret fun hrest hstatements _ => ?_
      simpa using ⟨noReturn_of_rest nofun rfl hstatements, hrest⟩
    · exact .ret (by simp)

theorem grants_switchStatement : Grants RefusesReturn (switchStatement parse) NoReturn := by
  unfold switchStatement
  refine .after steady_advance fun _ => .after (steady_condition hp) fun discriminant => ?_
  refine .after (steady_expect _) fun _ => .after steady_stepsLeft fun steps => ?_
  refine .bind (.within (grants_switchCases hp hs steps false) fun _ h => h) fun cases => ?_
  exact .after (steady_expect _) fun _ => .ret fun h => noReturn_of_rest nofun rfl h

omit hp in
theorem grants_blockStatements :
    Grants RefusesReturn (blockStatements parse false) fun statements => ∀ node ∈ statements, NoReturn node := by
  unfold blockStatements
  refine .bind (.many (by grind) (hs true false)) fun statements => .after steady_isDone fun isDone => ?_
  exact .either (.of_steady (steady_recordHere _) fun _ => trivial) (.of_steady steady_advance fun _ => trivial)
    fun _ => .ret fun _ h => h

omit hp in
theorem grants_block : Grants RefusesReturn (block parse) NoReturn := by
  unfold block
  refine .after (steady_expect _) fun _ => .bind (grants_blockStatements hs) fun statements => .ret ?_
  exact noReturn_of_forall nofun

theorem grants_catchClause : Grants RefusesReturn (catchClause parse) NoReturn := by
  have hend : ∀ param, Grants RefusesReturn (return .node .catchClause [param, ← block parse]) NoReturn := by
    intro param
    exact .bind (grants_block hs) fun inner => .ret fun h => noReturn_of_rest nofun rfl (by simpa using h)
  unfold catchClause
  refine .after (steady_takeWord _) fun isCatch => ?_
  split
  · refine .after (steady_take _) fun hasParam => ?_
    dsimp only
    split
    · exact .after (hp _) fun param => .after (steady_expect _) fun _ => hend param
    · exact hend .absent
  · exact .ret noReturn_absent

theorem grants_tryStatement : Grants RefusesReturn (tryStatement parse) NoReturn := by
  unfold tryStatement
  refine .after steady_advance fun _ => .bind (grants_block hs) fun guarded => ?_
  refine .bind (grants_catchClause hp hs) fun handler => .after (steady_takeWord _) fun hasFinally => ?_
  refine .either (grants_block hs) (.ret noReturn_absent) fun finalizer => ?_
  refine .check (steady_recordHere _) fun _ => .ret fun hf hh hg => noReturn_of_forall nofun ?_
  simpa using ⟨hg, hh, hf⟩

theorem grants_labelledStatement (start : Nat) (name : String) :
    Grants RefusesReturn (labelledStatement parse start name) NoReturn := by
  have hend : ∀ outer inner, Grants RefusesReturn (do
      modify fun s => { s with labels := outer }
      return .node .labelled [.binding name, inner]) fun node => NoReturn inner → NoReturn node := by
    intro outer inner
    refine .after (steady_modify fun _ => ⟨rfl, rfl, rfl⟩) fun _ => .ret fun h => ?_
    exact noReturn_of_rest nofun rfl (by simpa using h)
  unfold labelledStatement
  refine .after steady_get fun s => .check (steady_record _ _) fun _ => ?_
  refine .after (steady_modify fun _ => ⟨rfl, rfl, rfl⟩) fun _ => .after (steady_isAtWord _) fun isFunction => ?_
  dsimp only
  split
  · refine .bind (grants_function hp false false) fun node => .check (steady_record _ _) fun _ => ?_
    exact .after steady_context fun c => .check (steady_record _ _) fun _ => hend _ _
  · exact .bind (.within (hs false false) fun _ h => h) fun inner => hend _ _

theorem grants_expressionStatement : Grants RefusesReturn (expressionStatement parse) NoReturn := by
  unfold expressionStatement
  refine .after steady_startOffset fun start => .after (steady_withIn (hp _)) fun value => ?_
  refine .after (steady_isAt _) fun atColon => ?_
  split
  · exact .after steady_advance fun _ => grants_labelledStatement hp hs start _
  · refine .after steady_takeSemicolon fun ends => ?_
    split
    · exact .ret (not_returns_of_runs nofun fun _ => rfl)
    · refine .after steady_binaryOperator? fun op => ?_
      split
      · refine .after steady_token fun t => .after (steady_recordHere _) fun _ => ?_
        refine .after steady_stepsLeft fun steps => .after (steady_binaryRest hp steps 0 value) fun longer => .ret ?_
        exact not_returns_of_runs nofun fun _ => rfl
      · exact grants_fail _

theorem grants_statementOfWord? (declares : Bool) (word : String) :
    ∀ step ∈ statementOfWord? parse declares word, Grants RefusesReturn step NoReturn := by
  have hdeclaring {step : Parse Node} (h : Grants RefusesReturn step NoReturn) :
      Grants RefusesReturn (declaring declares step) NoReturn := .check (steady_recordHere _) fun _ => h
  intro step hstep
  unfold statementOfWord? at hstep
  split at hstep
  case h_1 => cases hstep; exact grants_breakStatement
  case h_2 => cases hstep; exact grants_continueStatement
  case h_3 => cases hstep; exact grants_debugger
  case h_4 => cases hstep; exact grants_doStatement hp hs
  case h_5 => cases hstep; exact grants_forStatement hp hs
  case h_6 => cases hstep; exact hdeclaring (grants_function hp false false)
  case h_7 => cases hstep; exact hdeclaring (grants_classFrom hp false)
  case h_8 => cases hstep; exact grants_ifStatement hp hs
  case h_9 => cases hstep; exact grants_returnStatement hp
  case h_10 => cases hstep; exact grants_switchStatement hp hs
  case h_11 => cases hstep; exact grants_throwStatement hp
  case h_12 => cases hstep; exact grants_tryStatement hp hs
  case h_13 => cases hstep; exact grants_whileStatement hp hs
  case h_14 => cases hstep; exact grants_withStatement hp hs
  case h_15 => cases hstep; exact grants_declaration hp .plain
  case h_16 =>
    split at hstep <;> cases hstep
    exact grants_declaration hp .constant
  case h_17 => cases hstep; exact grants_importStatement hp
  case h_18 => cases hstep; exact grants_importStatement hp
  case h_19 => cases hstep

theorem grants_wordStatement (declares outermost : Bool) :
    Grants RefusesReturn (wordStatement parse declares outermost) NoReturn := by
  unfold wordStatement
  refine .after (steady_isAtWord _) fun isAwait => .check (steady_recordHere _) fun _ => ?_
  refine .after steady_isAtLetDeclaration fun isLet => ?_
  split
  · exact grants_declaration hp .lexical
  · refine .after steady_isAtAsyncFunction fun isAsync => ?_
    split
    · exact .after steady_advance fun _ => grants_function hp true false
    · exact grants_expressionStatement hp hs

theorem grants_statement (declares outermost : Bool) :
    Grants RefusesReturn (statement parse declares outermost) NoReturn := by
  unfold statement
  refine .after steady_requireToken fun t => ?_
  split
  · split
    · exact grants_statementOfWord? hp hs declares _ _ ‹_›
    · exact grants_wordStatement hp hs declares outermost
  · exact .after steady_advance fun _ => .ret (not_returns_leaf rfl)
  · exact grants_block hs
  · exact grants_expressionStatement hp hs

end Productions

/-! ## Scripts -/

/-- At every depth the productions are steady, and where a `return` is a flaw a statement that is read without one
does not return. -/
theorem productions_grant (depth : Nat) : AllSteady (productions depth) ∧
    ∀ declares outermost, Grants RefusesReturn (productions depth (.statement declares outermost)) NoReturn := by
  induction depth with
  | zero => exact ⟨fun _ => steady_fail _, fun _ _ => grants_fail _⟩
  | succ depth ih =>
    obtain ⟨hp, hs⟩ := ih
    refine ⟨fun symbol => ?_, fun declares outermost => grants_statement hp hs declares outermost⟩
    cases symbol with
    | expression => exact steady_expression hp
    | assignment => exact steady_assignment hp
    | unary => exact steady_unary hp
    | member => exact steady_member hp
    | leftHandSide => exact steady_leftHandSide hp
    | statement declares outermost => exact (grants_statement hp hs declares outermost).steady
    | binding => exact steady_bindingPattern hp

end Grammar

/-- What is read is a script. -/
theorem script_of_parse {source : String} {allowsReturn : Bool} {parsed : Parsed}
    (h : parse source allowsReturn = .ok parsed) :
    ∃ shebang statements, parsed.script = .node (.script shebang) statements := by
  simp only [parse] at h
  split at h
  · cases h
  · split at h <;> cases h
    exact ⟨_, _, rfl⟩

open Grammar in
/-- A script that is read where a `return` is not allowed at its outermost level does not return there. -/
theorem not_returns_of_parse {source : String} {parsed : Parsed} (h : parse source false = .ok parsed) :
    ¬ parsed.script.Returns id := by
  obtain ⟨-, hs⟩ := productions_grant (depthBound source.toList.length)
  have hscript : Grants RefusesReturn (scriptStatements (productions (depthBound source.toList.length)))
      fun statements => ∀ node ∈ statements, NoReturn node :=
    grants_bodyStatements (by grind) (hs true true) fun _ => id
  simp only [parse] at h
  split at h
  · cases h
  · rename_i statements final hrun
    split at h <;> cases h
    rename_i hflaws
    exact noReturn_of_forall nofun (hscript.holds (by rfl) hrun (List.getLast?_eq_none_iff.1 hflaws))

end Stencil.Script
