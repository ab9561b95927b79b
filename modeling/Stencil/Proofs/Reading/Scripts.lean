import Stencil.Proofs.Reading.Expressions
/-!
# Literals in scripts

All literals of a script that is read are coherent (`coherent_of_parse`): those in its statements, in the heads of
its loops and in its expressions. What was read before a flaw was recorded need not be, and such a script is refused.
-/

namespace Stencil.Script

namespace Grammar

open Node

/-! ## Jumps -/

theorem coherent_jumpLabel : Grants State.Sound jumpLabel AllCoherent := by
  unfold jumpLabel
  refine .after steady_takeSemicolon fun ends => .choice (.ret trivial) ?_
  exact .after steady_identifier fun name => .after steady_expectSemicolon fun _ => .ret trivial

theorem coherent_breakStatement : Grants State.Sound breakStatement AllCoherent := by
  unfold breakStatement
  refine .after steady_startOffset fun start => .after steady_advance fun _ => ?_
  refine .bind coherent_jumpLabel fun label => .after (steady_isKnownLabel label) fun isKnown => ?_
  have hend : Grants State.Sound (pure (.node .breakStatement [label])) fun node =>
      AllCoherent label → AllCoherent node := .ret fun h => ⟨trivial, h, trivial⟩
  dsimp only
  split
  · exact .after (steady_record _ _) fun _ => hend
  · exact .after steady_context fun c => .check (steady_record _ _) fun _ => hend

theorem coherent_continueStatement : Grants State.Sound continueStatement AllCoherent := by
  unfold continueStatement
  refine .after steady_startOffset fun start => .after steady_advance fun _ => ?_
  refine .bind coherent_jumpLabel fun label => .after steady_context fun c => ?_
  have hend : Grants State.Sound (pure (.node .continueStatement [label])) fun node =>
      AllCoherent label → AllCoherent node := .ret fun h => ⟨trivial, h, trivial⟩
  dsimp only
  split
  · exact .after (steady_record _ _) fun _ => hend
  · exact .after (steady_isKnownLabel label) fun isKnown => .check (steady_record _ _) fun _ => hend

section Productions
variable {parse : Productions} (hc : ∀ symbol, Grants State.Sound (parse symbol) AllCoherent)
include hc

/-! ## Loop heads -/

theorem coherent_countingHead (init : Node) :
    Grants State.Sound (countingHead parse init) fun head =>
      AllCoherent init → ∀ part ∈ head.parts, AllCoherent part := by
  have hend (test : Node) : Grants State.Sound (do
      let update ← if ← isAt ")" then pure .absent else withIn (parse .expression)
      return (⟨.forLoop, [init, test, update]⟩ : LoopHead)) fun head =>
        AllCoherent test → AllCoherent init → ∀ part ∈ head.parts, AllCoherent part := by
    refine .after (steady_isAt _) fun isLast => ?_
    refine .either (.ret trivial) (coherent_within (hc _)) fun update => .ret fun hu ht hi => ?_
    simpa using ⟨hi, ht, hu⟩
  unfold countingHead
  refine .after (steady_take _) fun isEmpty => ?_
  dsimp only
  split
  · exact (hend .absent).imp fun _ h => h trivial
  · exact .bind (coherent_within (hc _)) fun test => .after (steady_expect _) fun _ => hend test

theorem coherent_valuesHead (isAwait : Bool) (target : Node) :
    Grants State.Sound (valuesHead parse isAwait target) fun head =>
      AllCoherent target → ∀ part ∈ head.parts, AllCoherent part := by
  unfold valuesHead
  refine .after (steady_takeWord _) fun isOf => .choice ?_ (.after (steady_expectWord _) fun _ => ?_)
  · exact .bind (coherent_within (hc _)) fun values => .ret fun hv ht => by simpa using ⟨ht, hv⟩
  · exact .bind (coherent_within (hc _)) fun object => .ret fun ho ht => by simpa using ⟨ht, ho⟩

theorem coherent_declaringHead (keyword : VariableKeyword) (isAwait : Bool) :
    Grants State.Sound (declaringHead parse keyword isAwait) fun head => ∀ part ∈ head.parts, AllCoherent part := by
  unfold declaringHead
  refine .after steady_startOffset fun start => .bind (coherent_declarationHead hc _ _) fun node => ?_
  refine .after steady_isAtLoopWord fun overValues => .choice ?_ (.after (steady_expect _) fun _ => ?_)
  · exact .after (steady_checkLoopDeclaration _ _) fun _ => coherent_valuesHead hc _ _
  · exact coherent_countingHead hc _

theorem coherent_plainHead (isAwait : Bool) :
    Grants State.Sound (plainHead parse isAwait) fun head => ∀ part ∈ head.parts, AllCoherent part := by
  unfold plainHead
  refine .after (steady_take _) fun isEmpty => .choice ((coherent_countingHead hc _).imp fun _ h => h trivial) ?_
  refine .after steady_startOffset fun start => .bind (coherent_within (hc _)) fun init => ?_
  refine .after steady_isAtLoopWord fun overValues => .choice (.after steady_context fun c => ?_) ?_
  · split
    · rename_i target htarget
      refine (coherent_valuesHead hc _ _).imp fun _ h hi => h ?_
      exact (allCoherent_patterns _).1 init hi target htarget
    · exact grants_failAt _ _
  · exact .after (steady_expect _) fun _ => coherent_countingHead hc _

theorem coherent_loopHead (isAwait : Bool) :
    Grants State.Sound (loopHead parse isAwait) fun head => ∀ part ∈ head.parts, AllCoherent part := by
  unfold loopHead
  refine .after steady_variableKeyword? fun keyword => ?_
  split
  · exact .after steady_isAtLetDeclaration fun declares =>
      .choice (coherent_declaringHead hc _ _) (coherent_plainHead hc _)
  · exact coherent_declaringHead hc _ _
  · exact coherent_plainHead hc _

/-! ## Statements -/

theorem coherent_condition : Grants State.Sound (condition parse) AllCoherent := by
  unfold condition
  refine .after (steady_expect _) fun _ => .bind (coherent_within (hc _)) fun test => ?_
  exact .after (steady_expect _) fun _ => .ret id

theorem coherent_loopBody : Grants State.Sound (loopBody parse) AllCoherent := coherent_within (hc _)

theorem coherent_ifStatement : Grants State.Sound (ifStatement parse) AllCoherent := by
  unfold ifStatement
  refine .after steady_advance fun _ => .bind (coherent_condition hc) fun test => ?_
  refine .bind (hc _) fun consequent => .after (steady_takeWord _) fun hasElse => ?_
  refine .either (hc _) (.ret trivial) fun alternative => .ret fun ha hc ht => ?_
  exact ⟨trivial, ht, hc, ha, trivial⟩

theorem coherent_whileStatement : Grants State.Sound (whileStatement parse) AllCoherent := by
  unfold whileStatement
  refine .after steady_advance fun _ => .bind (coherent_condition hc) fun test => ?_
  exact .bind (coherent_loopBody hc) fun inner => .ret fun hi ht => ⟨trivial, ht, hi, trivial⟩

theorem coherent_doStatement : Grants State.Sound (doStatement parse) AllCoherent := by
  unfold doStatement
  refine .after steady_advance fun _ => .bind (coherent_loopBody hc) fun inner => ?_
  refine .after (steady_expectWord _) fun _ => .bind (coherent_condition hc) fun test => ?_
  exact .after (steady_discard steady_takeSemicolon) fun _ => .ret fun ht hi => ⟨trivial, ht, hi, trivial⟩

theorem coherent_forStatement : Grants State.Sound (forStatement parse) AllCoherent := by
  unfold forStatement
  refine .after steady_startOffset fun start => .after steady_advance fun _ => ?_
  refine .after (steady_takeWord _) fun isAwait => .after (steady_expect _) fun _ => ?_
  refine .bind (coherent_loopHead hc isAwait) fun head => .after (steady_expect _) fun _ => ?_
  refine .check (steady_record _ _) fun _ => .bind (coherent_loopBody hc) fun inner => .ret fun hi hh => ?_
  exact allCoherent_node.2 (List.forall_mem_append.2 ⟨hh, List.forall_mem_singleton.2 hi⟩)

theorem coherent_withStatement : Grants State.Sound (withStatement parse) AllCoherent := by
  unfold withStatement
  refine .after steady_advance fun _ => .bind (coherent_condition hc) fun object => ?_
  exact .bind (coherent_within (hc _)) fun inner => .ret fun hi ho => ⟨trivial, ho, hi, trivial⟩

theorem coherent_switchCases (steps : Nat) (hasDefault : Bool) :
    Grants State.Sound (switchCases parse steps hasDefault) fun cases => ∀ node ∈ cases, AllCoherent node := by
  induction steps generalizing hasDefault with
  | zero => exact .ret (by simp)
  | succ steps ih =>
    unfold switchCases
    refine .after (steady_isAtWord _) fun isCase => .after (steady_isAtWord _) fun isDefault => ?_
    refine .choice (.after steady_advance fun _ => .check (steady_fail _) fun _ => ?_) (.ret (by simp))
    refine .either (coherent_within (hc _)) (.ret trivial) fun test => .after (steady_expect _) fun _ => ?_
    refine .bind (.many (by grind) (hc _)) fun statements => .bind (ih _) fun rest => .ret fun hr hs ht => ?_
    exact List.forall_mem_cons.2 ⟨allCoherent_form ht hs, hr⟩

theorem coherent_switchStatement : Grants State.Sound (switchStatement parse) AllCoherent := by
  unfold switchStatement
  refine .after steady_advance fun _ => .bind (coherent_condition hc) fun discriminant => ?_
  refine .after (steady_expect _) fun _ => .after steady_stepsLeft fun steps => ?_
  refine .bind (coherent_within (coherent_switchCases hc steps false)) fun cases => ?_
  exact .after (steady_expect _) fun _ => .ret fun hs hd => allCoherent_form hd hs

theorem coherent_returnStatement : Grants State.Sound (returnStatement parse) AllCoherent := by
  have hend (start : Nat) (value : Node) : Grants State.Sound (do
      expectSemicolon
      let c ← context
      if c.inStaticBlock || !(c.inFunction || c.allowsReturn) then record start .returnOutsideFunction
      return .node .returnStatement [value]) fun node => AllCoherent value → AllCoherent node := by
    refine .after steady_expectSemicolon fun _ => .after steady_context fun c => .check (steady_record _ _) fun _ => ?_
    exact .ret fun h => ⟨trivial, h, trivial⟩
  unfold returnStatement
  refine .after steady_startOffset fun start => .after steady_advance fun _ => ?_
  refine .after steady_atStatementEnd fun atEnd => ?_
  exact .either (.ret trivial) (coherent_within (hc _)) (hend start)

theorem coherent_throwStatement : Grants State.Sound (throwStatement parse) AllCoherent := by
  unfold throwStatement
  refine .after steady_advance fun _ => .after steady_afterLine fun _ => .check (steady_fail _) fun _ => ?_
  refine .bind (coherent_within (hc _)) fun value => .after steady_expectSemicolon fun _ => ?_
  exact .ret fun h => ⟨trivial, h, trivial⟩

theorem coherent_catchClause : Grants State.Sound (catchClause parse) AllCoherent := by
  have hend (param : Node) : Grants State.Sound (return .node .catchClause [param, ← block parse]) fun node =>
      AllCoherent param → AllCoherent node :=
    .bind (coherent_block hc) fun inner => .ret fun hi hp => ⟨trivial, hp, hi, trivial⟩
  unfold catchClause
  refine .after (steady_takeWord _) fun isCatch => .choice (.after (steady_take _) fun hasParam => ?_) (.ret trivial)
  dsimp only
  split
  · exact .bind (hc _) fun param => .after (steady_expect _) fun _ => hend param
  · exact (hend .absent).imp fun _ h => h trivial

theorem coherent_tryStatement : Grants State.Sound (tryStatement parse) AllCoherent := by
  unfold tryStatement
  refine .after steady_advance fun _ => .bind (coherent_block hc) fun guarded => ?_
  refine .bind (coherent_catchClause hc) fun handler => .after (steady_takeWord _) fun hasFinally => ?_
  refine .either (coherent_block hc) (.ret trivial) fun finalizer => .check (steady_recordHere _) fun _ => ?_
  exact .ret fun hf hh hg => ⟨trivial, hg, hh, hf, trivial⟩

theorem coherent_labelledStatement (start : Nat) (name : String) :
    Grants State.Sound (labelledStatement parse start name) AllCoherent := by
  have hend (outer : List String) (inner : Node) : Grants State.Sound (do
      modify fun s => { s with labels := outer }
      return .node .labelled [.binding name, inner]) fun node => AllCoherent inner → AllCoherent node :=
    .after (steady_modify fun _ => ⟨rfl, rfl, rfl⟩) fun _ => .ret fun h => ⟨trivial, trivial, h, trivial⟩
  unfold labelledStatement
  refine .after steady_get fun s => .check (steady_record _ _) fun _ => ?_
  refine .after (steady_modify fun _ => ⟨rfl, rfl, rfl⟩) fun _ => .after (steady_isAtWord _) fun isFunction => ?_
  dsimp only
  split
  · refine .bind (coherent_function hc false false) fun node => .check (steady_record _ _) fun _ => ?_
    exact .after steady_context fun c => .check (steady_record _ _) fun _ => hend _ _
  · exact .bind (coherent_within (hc _)) fun inner => hend _ _

theorem coherent_expressionStatement : Grants State.Sound (expressionStatement parse) AllCoherent := by
  unfold expressionStatement
  refine .after steady_startOffset fun start => .bind (coherent_within (hc _)) fun value => ?_
  refine .after (steady_isAt _) fun atColon => ?_
  split
  · exact .after steady_advance fun _ => (coherent_labelledStatement hc start _).imp fun _ h _ => h
  · refine .after steady_takeSemicolon fun ends => .choice (.ret fun h => ⟨trivial, h, trivial⟩) ?_
    refine .after steady_binaryOperator? fun op => .choice ?_ (grants_fail _)
    refine .after steady_token fun t => .after (steady_recordHere _) fun _ => ?_
    refine .after steady_stepsLeft fun steps => .bind (coherent_binaryRest hc steps 0 value) fun longer => ?_
    exact .ret fun hl hv => ⟨trivial, hl hv, trivial⟩

theorem coherent_importStatement : Grants State.Sound (importStatement parse) AllCoherent := by
  unfold importStatement
  refine .after steady_nextLexeme fun next => .after (steady_isAtWord _) fun isImport => .choice ?_ (grants_fail _)
  refine .bind (hc _) fun value => .after (steady_discard steady_takeSemicolon) fun _ => ?_
  exact .ret fun h => ⟨trivial, h, trivial⟩

theorem coherent_statementOfWord? (declares : Bool) (word : String) :
    ∀ step ∈ statementOfWord? parse declares word, Grants State.Sound step AllCoherent := by
  have hdeclaring {step : Parse Node} (h : Grants State.Sound step AllCoherent) :
      Grants State.Sound (declaring declares step) AllCoherent := .check (steady_recordHere _) fun _ => h
  intro step hstep
  unfold statementOfWord? at hstep
  split at hstep
  case h_1 => cases hstep; exact coherent_breakStatement
  case h_2 => cases hstep; exact coherent_continueStatement
  case h_3 =>
    cases hstep
    exact .after steady_advance fun _ => .after steady_expectSemicolon fun _ => .ret trivial
  case h_4 => cases hstep; exact coherent_doStatement hc
  case h_5 => cases hstep; exact coherent_forStatement hc
  case h_6 => cases hstep; exact hdeclaring (coherent_function hc false false)
  case h_7 => cases hstep; exact hdeclaring (coherent_classFrom hc false)
  case h_8 => cases hstep; exact coherent_ifStatement hc
  case h_9 => cases hstep; exact coherent_returnStatement hc
  case h_10 => cases hstep; exact coherent_switchStatement hc
  case h_11 => cases hstep; exact coherent_throwStatement hc
  case h_12 => cases hstep; exact coherent_tryStatement hc
  case h_13 => cases hstep; exact coherent_whileStatement hc
  case h_14 => cases hstep; exact coherent_withStatement hc
  case h_15 => cases hstep; exact coherent_declaration hc .plain
  case h_16 =>
    split at hstep <;> cases hstep
    exact coherent_declaration hc .constant
  case h_17 => cases hstep; exact coherent_importStatement hc
  case h_18 => cases hstep; exact coherent_importStatement hc
  case h_19 => cases hstep

theorem coherent_wordStatement (declares outermost : Bool) :
    Grants State.Sound (wordStatement parse declares outermost) AllCoherent := by
  unfold wordStatement
  refine .after (steady_isAtWord _) fun isAwait => .check (steady_recordHere _) fun _ => ?_
  refine .after steady_isAtLetDeclaration fun isLet => .choice (coherent_declaration hc .lexical) ?_
  refine .after steady_isAtAsyncFunction fun isAsync => .choice ?_ (coherent_expressionStatement hc)
  exact .after steady_advance fun _ => coherent_function hc true false

theorem coherent_statement (declares outermost : Bool) :
    Grants State.Sound (statement parse declares outermost) AllCoherent := by
  unfold statement
  refine .after steady_requireToken fun t => ?_
  split
  · split
    · exact coherent_statementOfWord? hc declares _ _ ‹_›
    · exact coherent_wordStatement hc declares outermost
  · exact .after steady_advance fun _ => .ret trivial
  · exact coherent_block hc
  · exact coherent_expressionStatement hc

end Productions

/-! ## Scripts -/

theorem coherent_productions (depth : Nat) (symbol : Symbol) :
    Grants State.Sound (productions depth symbol) AllCoherent := by
  induction depth generalizing symbol with
  | zero => exact grants_fail _
  | succ depth ih =>
    cases symbol with
    | expression => exact coherent_expression ih
    | assignment => exact coherent_assignment ih
    | unary => exact coherent_unary ih
    | member => exact coherent_member ih
    | leftHandSide => exact coherent_leftHandSide ih
    | statement declares outermost => exact coherent_statement ih declares outermost
    | binding => exact coherent_bindingPattern ih

theorem sound_initial (source : List Char) (start : Nat) (allowsReturn : Bool) :
    (State.initial source start allowsReturn).Sound := by
  intro hflaws
  have hnone := List.reverse_eq_nil_iff.1 hflaws
  exact ⟨Scan.coherent_lexeme hnone, hnone⟩

end Grammar

open Grammar in
/-- All literals of a script that is read are coherent. -/
theorem coherent_of_parse {source : String} {allowsReturn : Bool} {parsed : Parsed}
    (h : parse source allowsReturn = .ok parsed) : parsed.script.Everywhere Node.Coherent := by
  have hscript : Grants State.Sound (scriptStatements (productions (depthBound source.toList.length)))
      fun statements => ∀ node ∈ statements, AllCoherent node :=
    grants_bodyStatements (by grind) (coherent_productions _ _) fun _ => id
  simp only [parse] at h
  split at h
  · cases h
  · rename_i statements final hrun
    split at h <;> cases h
    rename_i hflaws
    exact allCoherent_node.2 (hscript.holds (sound_initial _ _ _) hrun (List.getLast?_eq_none_iff.1 hflaws))

end Stencil.Script
