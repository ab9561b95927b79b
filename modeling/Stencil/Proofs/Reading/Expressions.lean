import Stencil.Proofs.Reading.Frame
import Stencil.Proofs.Reading.Literals
/-!
# Literals in expressions

What the grammar reads inside a statement has coherent literals, given that the productions of smaller depth grant
this: patterns, functions, classes, literals, operands, expressions and declarations. A form is coherent if its parts
are, and the two places that read a string literal take it from its token.
-/

namespace Stencil.Script.Grammar

open Node

variable {parse : Productions} (hc : ∀ symbol, Grants State.Sound (parse symbol) AllCoherent)
include hc

/-! ## Bound patterns and keys -/

theorem coherent_propertyKey : Grants State.Sound (propertyKey parse) AllCoherent := by
  unfold propertyKey
  refine .bind coherent_requireToken fun t => ?_
  split
  · exact .after steady_advance fun _ => .ret fun _ => trivial
  -- the literal says of itself what is known of the token
  · exact .after steady_advance fun _ => .ret id
  · exact .after steady_advance fun _ => .ret fun _ => trivial
  · exact .after steady_advance fun _ => .ret fun _ => trivial
  · refine .after steady_advance fun _ => .bind (coherent_within (hc _)) fun key => ?_
    exact .after (steady_expect _) fun _ => .ret fun h _ => ⟨trivial, h, trivial⟩
  · exact grants_failUnexpected _

theorem coherent_bindingElement : Grants State.Sound (bindingElement parse) AllCoherent := by
  unfold bindingElement
  refine .bind (hc _) fun pattern => .after (steady_take _) fun hasDefault => ?_
  split
  · exact .bind (coherent_within (hc _)) fun value => .ret fun hv hp => ⟨trivial, hp, hv, trivial⟩
  · exact .ret id

theorem coherent_restElement (closing : String) : Grants State.Sound (restElement parse closing) AllCoherent := by
  unfold restElement
  refine .after steady_here fun start => .bind (hc _) fun inner => .after (steady_isAt _) fun isLast => ?_
  have hend : Grants State.Sound (pure (.node .rest [inner])) fun node => AllCoherent inner → AllCoherent node :=
    .ret fun h => ⟨trivial, h, trivial⟩
  dsimp only
  split
  · exact .after (steady_expect _) fun _ => .after (steady_record _ _) fun _ => hend
  · exact hend

theorem coherent_arrayElement : Grants State.Sound (arrayElement parse) AllCoherent := by
  unfold arrayElement
  refine .after (steady_take _) fun isHole => ?_
  split
  · exact .ret trivial
  refine .after (steady_take _) fun isRest => ?_
  split
  · exact coherent_restElement hc _
  · refine .bind (coherent_bindingElement hc) fun element => .after (steady_separator _) fun _ => ?_
    exact .ret id

theorem coherent_patternProperty : Grants State.Sound (patternProperty parse) AllCoherent := by
  unfold patternProperty
  refine .after (steady_take _) fun isRest => ?_
  split
  · refine .after steady_here fun start => .bind (coherent_restElement hc _) fun rest => ?_
    exact .check (steady_record _ _) fun _ => .ret id
  · refine .bind (coherent_propertyKey hc) fun key => .after (steady_take _) fun hasColon => ?_
    have hend (property : Node) : Grants State.Sound (do separator "\x7d"; return property) fun node =>
        AllCoherent property → AllCoherent node := .after (steady_separator _) fun _ => .ret id
    dsimp only
    split
    · refine .bind (coherent_bindingElement hc) fun element => .at_hand ?_
      exact .after (steady_separator _) fun _ => .ret fun he hk => ⟨trivial, hk, he, trivial⟩
    · split
      · refine .after (steady_take _) fun hasDefault => ?_
        split
        · refine .bind (coherent_within (hc _)) fun value => .at_hand ?_
          exact .after (steady_separator _) fun _ => .ret fun hv _ => ⟨trivial, trivial, hv, trivial⟩
        · exact .at_hand (.after (steady_separator _) fun _ => .ret fun _ => ⟨trivial, trivial, trivial, trivial⟩)
      · exact .bind (grants_failUnexpected (P := AllCoherent) _) fun property =>
          .after (steady_separator _) fun _ => .ret fun h _ => h

theorem coherent_bindingPattern : Grants State.Sound (bindingPattern parse) AllCoherent := by
  unfold bindingPattern
  refine .after steady_requireToken fun t => ?_
  split
  · exact .after steady_identifier fun name => .ret trivial
  · refine .after steady_advance fun _ => .bind (.many (by grind) (coherent_arrayElement hc)) fun elements => ?_
    exact .after (steady_expect _) fun _ => .ret allCoherent_node.2
  · refine .after steady_advance fun _ => .bind (.many (by grind) (coherent_patternProperty hc)) fun properties => ?_
    exact .after (steady_expect _) fun _ => .ret allCoherent_node.2
  · exact grants_failUnexpected _

/-! ## Functions -/

theorem coherent_blockStatements (hasDirectives : Bool) :
    Grants State.Sound (blockStatements parse hasDirectives) fun statements =>
      ∀ node ∈ statements, AllCoherent node := by
  have hend (statements : List Node) : Grants State.Sound (do
      if ← isDone then recordHere (.expected "\x7d" "<eof>") else advance
      return statements) fun out => (∀ node ∈ statements, AllCoherent node) → ∀ node ∈ out, AllCoherent node := by
    refine .after steady_isDone fun isDone => ?_
    exact .either (.of_steady (steady_recordHere _) fun _ => trivial) (.of_steady steady_advance fun _ => trivial)
      fun _ => .ret fun _ h => h
  unfold blockStatements
  dsimp only
  split
  · exact .bind (grants_bodyStatements (by grind) (hc _) fun _ => id) hend
  · exact .bind (.many (by grind) (hc _)) hend

theorem coherent_block : Grants State.Sound (block parse) AllCoherent := by
  unfold block
  refine .after (steady_expect _) fun _ => .bind (coherent_blockStatements hc _) fun statements => ?_
  exact .ret allCoherent_node.2

theorem coherent_parameter : Grants State.Sound (parameter parse) AllCoherent := by
  unfold parameter
  refine .after (steady_take _) fun isRest => ?_
  split
  · exact coherent_restElement hc _
  · exact .bind (coherent_bindingElement hc) fun pattern => .after (steady_separator _) fun _ => .ret id

theorem coherent_functionBlock (hasDirectives : Bool) (params : List Node) :
    Grants State.Sound (functionBlock parse hasDirectives params) AllCoherent := by
  unfold functionBlock
  refine .after steady_here fun start => .after (steady_expect _) fun _ => ?_
  refine .bind (coherent_blockStatements hc _) fun statements => .check (steady_record _ _) fun _ => ?_
  exact .ret allCoherent_node.2

theorem coherent_functionTail (calling : Calling) (allowsSuper : Bool) {check : List Node → Parse Unit}
    (hcheck : ∀ params, Steady (check params)) :
    Grants State.Sound (functionTail parse calling allowsSuper check) fun tail =>
      ∀ node ∈ tail, AllCoherent node := by
  have hparams : Grants State.Sound (parameters parse) fun params => ∀ param ∈ params, AllCoherent param :=
    .many (by grind) (coherent_parameter hc)
  unfold functionTail
  refine coherent_within (.after (steady_expect _) fun _ => .bind (coherent_within hparams) fun params => ?_)
  refine .after (hcheck params) fun _ => .after (steady_expect _) fun _ => ?_
  refine .bind (coherent_withinBody (coherent_functionBlock hc _ _)) fun body => .ret fun hb hps => ?_
  exact List.forall_mem_cons.2 ⟨allCoherent_node.2 hps, List.forall_mem_singleton.2 hb⟩

theorem coherent_function (isAsync isExpression : Bool) :
    Grants State.Sound (function parse isAsync isExpression) AllCoherent := by
  have htail (calling : Calling) (kind : Kind) (name : Node) : Grants State.Sound (do
      let tail ← withArguments (functionTail parse calling false anyParameters)
      return .node kind (name :: tail)) fun node => AllCoherent name → AllCoherent node := by
    refine .bind (coherent_within (coherent_functionTail hc _ _ steady_anyParameters)) fun tail => .ret ?_
    exact fun ht hn => allCoherent_form hn ht
  unfold function
  refine .after (steady_expectWord _) fun _ => .after (steady_take _) fun isGenerator => ?_
  dsimp only
  split
  · refine .bind (coherent_within ?_) fun name => htail _ _ name
    refine .after steady_isAtIdentifier fun isNamed => ?_
    split
    · exact .after steady_identifier fun _ => .ret trivial
    · exact .ret trivial
  · exact .after steady_identifier fun name => .at_hand ((htail _ _ (.binding name)).imp fun _ h => h trivial)

theorem coherent_methodTail (access : Access) :
    Grants State.Sound (methodTail parse access) fun tail => ∀ node ∈ tail, AllCoherent node := by
  unfold methodTail
  refine .after steady_here fun start => coherent_within ?_
  cases access with
  | method calling => exact coherent_functionTail hc _ _ steady_anyParameters
  | getter => exact coherent_functionTail hc _ _ (by grind)
  | setter => exact coherent_functionTail hc _ _ (by grind)

/-! ## Classes -/

theorem coherent_memberKey : Grants State.Sound (memberKey parse) AllCoherent := by
  unfold memberKey
  refine .after steady_requireToken fun t => ?_
  split
  · refine .check (steady_recordHere _) fun _ => .after steady_advance fun _ => .ret trivial
  · exact coherent_propertyKey hc

theorem coherent_methodFrom (isStatic : Bool) (access : Access) (key : Node) :
    Grants State.Sound (methodFrom parse isStatic access key) fun node => AllCoherent key → AllCoherent node := by
  unfold methodFrom
  refine .bind (coherent_methodTail hc _) fun tail => .ret fun ht hk => ?_
  exact allCoherent_form hk ht

theorem coherent_fieldFrom (isStatic : Bool) (key : Node) :
    Grants State.Sound (fieldFrom parse isStatic key) fun node => AllCoherent key → AllCoherent node := by
  have hend (value : Node) : Grants State.Sound (do
      if !(← takeSemicolon) then recordHere (.expected ";" (← token).describe)
      return .node (.field isStatic) [key, value]) fun node =>
        AllCoherent value → AllCoherent key → AllCoherent node := by
    refine .after steady_takeSemicolon fun ends => ?_
    refine .check_with steady_token (fun _ => steady_recordHere _) fun _ => .ret fun hv hk => ?_
    exact ⟨trivial, hk, hv, trivial⟩
  unfold fieldFrom
  refine .check (steady_fail _) fun _ => .after (steady_take _) fun hasValue => ?_
  exact .either (coherent_within (hc _)) (.ret trivial) hend

theorem coherent_staticBlock : Grants State.Sound (staticBlock parse) AllCoherent := by
  unfold staticBlock
  exact .bind (coherent_within (coherent_block hc)) fun body => .ret fun h => ⟨trivial, h, trivial⟩

theorem coherent_memberAfterKey (isStatic : Bool) (key : Node) :
    Grants State.Sound (memberAfterKey parse isStatic key) fun node => AllCoherent key → AllCoherent node := by
  have hmethod (access : Access) (name : Node) : Grants State.Sound (methodFrom parse isStatic access name) fun node =>
      AllCoherent name → AllCoherent key → AllCoherent node :=
    (coherent_methodFrom hc isStatic access name).imp fun _ h hn _ => h hn
  unfold memberAfterKey
  refine .after steady_afterLine fun lineBefore => .after (steady_isAtFieldEnd _) fun _ => ?_
  refine .after (steady_isAt _) fun _ => .after (steady_isAtFieldEnd _) fun isField => ?_
  refine .choice (coherent_fieldFrom hc _ _) (.choice ?_ (.choice ?_ (grants_failUnexpected _)))
  · refine .after (steady_take _) fun isGenerator => .bind (coherent_memberKey hc) fun name => ?_
    exact .check (steady_fail _) fun _ => hmethod _ _
  · refine .bind (coherent_memberKey hc) fun name => ?_
    exact .check (steady_recordHere _) fun _ => hmethod _ _

theorem coherent_memberBody (isStatic : Bool) : Grants State.Sound (memberBody parse isStatic) AllCoherent := by
  unfold memberBody
  refine .after (steady_isAt _) fun isBlock => ?_
  split
  · exact coherent_staticBlock hc
  refine .after (steady_take _) fun isGenerator => ?_
  split
  · refine .bind (coherent_memberKey hc) fun key => .check (steady_recordHere _) fun _ => ?_
    exact coherent_methodFrom hc _ _ _
  refine .bind (coherent_memberKey hc) fun key => .after (steady_isAt _) fun isMethod => ?_
  split
  · split
    · refine .bind (coherent_functionTail hc _ _ steady_anyParameters) fun tail => .ret fun ht hk => ?_
      exact allCoherent_form hk ht
    · exact coherent_methodFrom hc _ _ _
  · exact coherent_memberAfterKey hc _ _

theorem coherent_classMember : Grants State.Sound (classMember parse) AllCoherent := by
  unfold classMember
  refine .after (steady_take _) fun isEmpty => ?_
  split
  · exact .ret trivial
  refine .after (steady_takeWord _) fun isStatic => ?_
  split
  · refine .after (steady_isAt _) fun isMethod => ?_
    split
    · exact (coherent_methodFrom hc _ _ _).imp fun _ h => h trivial
    refine .after (steady_isAtFieldEnd _) fun isField => ?_
    split
    · exact (coherent_fieldFrom hc _ _).imp fun _ h => h trivial
    · exact coherent_memberBody hc true
  · exact coherent_memberBody hc false

theorem coherent_classTail :
    Grants State.Sound (classTail parse) fun parts => ∀ node ∈ parts, AllCoherent node := by
  have hend (start : Nat) (superclass : Node) : Grants State.Sound (do
      expect "\x7b"
      let members ← within (fun c => { c with allowsSuper := true })
        (many (return !(← isDone) && !(← isAt "\x7d")) (classMember parse))
      checkConstructors start members
      return [.node .members members, superclass]) fun parts =>
        AllCoherent superclass → ∀ node ∈ parts, AllCoherent node := by
    have hmembers := coherent_classMember hc
    refine .after (steady_expect _) fun _ => .bind (coherent_within (.many (by grind) hmembers)) fun members => ?_
    refine .after (steady_checkConstructors _ _) fun _ => .ret fun hm hs => ?_
    exact List.forall_mem_cons.2 ⟨allCoherent_node.2 hm, List.forall_mem_singleton.2 hs⟩
  unfold classTail
  refine .after steady_here fun start => .after (steady_takeWord _) fun isExtended => ?_
  exact .either (hc _) (.ret trivial) (hend start)

theorem coherent_classFrom (isExpression : Bool) :
    Grants State.Sound (classFrom parse isExpression) AllCoherent := by
  have hparts (name : Node) : Grants State.Sound (return name :: (← classTail parse)) fun parts =>
      AllCoherent name → ∀ node ∈ parts, AllCoherent node :=
    .bind (coherent_classTail hc) fun tail => .ret fun ht hn => List.forall_mem_cons.2 ⟨hn, ht⟩
  unfold classFrom
  refine .after (steady_expectWord _) fun _ => .after steady_token fun t => ?_
  refine .check (steady_failUnexpected _) fun _ => .bind (P := fun parts => ∀ node ∈ parts, AllCoherent node)
    (coherent_within ?_) fun parts => ?_
  · dsimp only
    split
    · refine .after steady_isAtIdentifier fun isNamed => ?_
      split
      · exact .after steady_identifier fun name => .at_hand ((hparts (.binding name)).imp fun _ h => h trivial)
      · exact .at_hand ((hparts .absent).imp fun _ h => h trivial)
    · exact .after steady_identifier fun name => .at_hand ((hparts (.binding name)).imp fun _ h => h trivial)
  · refine .after steady_isDone fun isDone => ?_
    refine .either (.of_steady (steady_recordHere _) fun _ => trivial) (.of_steady (steady_expect _) fun _ => trivial)
      fun _ => .ret fun _ => ?_
    exact allCoherent_node.2

/-! ## Literals -/

theorem coherent_spreadable : Grants State.Sound (spreadable parse) AllCoherent := by
  unfold spreadable
  refine .after (steady_take _) fun isSpread => ?_
  split
  · exact .bind (coherent_within (hc _)) fun value => .ret fun h => ⟨trivial, h, trivial⟩
  · exact coherent_within (hc _)

theorem coherent_templateRest (isTagged : Bool) (steps : Nat) (opens : Bool) :
    Grants State.Sound (templateRest parse isTagged steps opens) fun pieces =>
      ∀ piece ∈ pieces, AllCoherent piece.1 := by
  induction steps generalizing opens with
  | zero => cases opens <;> exact .ret (by simp)
  | succ steps ih =>
    cases opens with
    | false => exact .ret (by simp)
    | true =>
      unfold templateRest
      refine .bind (coherent_within (hc _)) fun expression => .after (steady_isAt _) fun isClosed => ?_
      refine .check_with steady_token (fun _ => steady_fail _) fun _ => .after (steady_templateText _) fun found => ?_
      refine .bind (ih _) fun rest => .ret fun hr he => ?_
      exact List.forall_mem_cons.2 ⟨he, hr⟩

theorem coherent_templateParts (isTagged : Bool) :
    Grants State.Sound (templateParts parse isTagged) fun found => ∀ node ∈ found.2, AllCoherent node := by
  unfold templateParts
  refine .after (steady_templateText _) fun found => .after steady_stepsLeft fun steps => ?_
  refine .bind (coherent_templateRest hc _ _ _) fun rest => .ret fun hr => ?_
  exact List.forall_mem_map.2 hr

theorem coherent_template : Grants State.Sound (template parse) AllCoherent := by
  unfold template
  exact .bind (coherent_templateParts hc _) fun found => .ret allCoherent_node.2

theorem coherent_taggedTemplate (tag : Node) :
    Grants State.Sound (taggedTemplate parse tag) fun node => AllCoherent tag → AllCoherent node := by
  unfold taggedTemplate
  refine .bind (coherent_templateParts hc _) fun found => .ret fun hf ht => ?_
  exact allCoherent_form ht hf

theorem coherent_element : Grants State.Sound (element parse) AllCoherent := by
  unfold element
  refine .after (steady_take _) fun isHole => ?_
  split
  · exact .ret trivial
  · exact .bind (coherent_spreadable hc) fun item => coherent_separated _ item

theorem coherent_arrayLiteral : Grants State.Sound (arrayLiteral parse) AllCoherent := by
  unfold arrayLiteral
  refine .after (steady_expect _) fun _ => .bind (.many (by grind) (coherent_element hc)) fun elements => ?_
  exact .after (steady_expect _) fun _ => .ret allCoherent_node.2

theorem coherent_objectMethod (access : Access) (key : Node) :
    Grants State.Sound (objectMethod parse access key) fun node => AllCoherent key → AllCoherent node := by
  unfold objectMethod
  refine .bind (coherent_methodTail hc _) fun tail => .ret fun ht hk => ?_
  exact allCoherent_form hk ht

theorem coherent_propertyAfterName (name : String) :
    Grants State.Sound (propertyAfterName parse name) AllCoherent := by
  have hmethod (access : Access) :
      Grants State.Sound (do objectMethod parse access (← propertyKey parse)) AllCoherent :=
    .bind (coherent_propertyKey hc) fun key => coherent_objectMethod hc access key
  unfold propertyAfterName
  refine .after (steady_take _) fun hasDefault => .choice ?_ (.after (steady_isAtOne _) fun isShorthand => ?_)
  · exact .bind (coherent_within (hc _)) fun value => .ret fun h => ⟨trivial, trivial, h, trivial⟩
  · refine .choice (.ret trivial) (.choice (hmethod _) (.choice (hmethod _) (.choice ?_ (grants_failUnexpected _))))
    exact .after (steady_take _) fun isGenerator => hmethod _

theorem coherent_property : Grants State.Sound (property parse) AllCoherent := by
  unfold property
  refine .after (steady_take _) fun isSpread => ?_
  split
  · exact .bind (coherent_within (hc _)) fun value => .ret fun h => ⟨trivial, h, trivial⟩
  refine .after (steady_take _) fun isGenerator => ?_
  split
  · exact .bind (coherent_propertyKey hc) fun key => coherent_objectMethod hc _ key
  refine .bind (coherent_propertyKey hc) fun key => .after (steady_take _) fun hasColon => ?_
  split
  · exact .bind (coherent_within (hc _)) fun value => .ret fun hv hk => ⟨trivial, hk, hv, trivial⟩
  refine .after (steady_isAt _) fun isMethod => ?_
  split
  · exact coherent_objectMethod hc _ key
  split
  · exact (coherent_propertyAfterName hc _).imp fun _ h _ => h
  · exact grants_failUnexpected _

theorem coherent_objectLiteral : Grants State.Sound (objectLiteral parse) AllCoherent := by
  have hproperty : Grants State.Sound (do separated "\x7d" (← property parse)) AllCoherent :=
    .bind (coherent_property hc) fun item => coherent_separated _ item
  unfold objectLiteral
  refine .after (steady_expect _) fun _ => .bind (.many (by grind) hproperty) fun properties => ?_
  exact .after (steady_expect _) fun _ => .ret allCoherent_node.2

/-! ## Arrow functions and parentheses -/

theorem coherent_arrowFrom (isAsync : Bool) (params : List Node) :
    Grants State.Sound (arrowFrom parse isAsync params) fun node =>
      (∀ param ∈ params, AllCoherent param) → AllCoherent node := by
  have hbody (isBlock : Bool) : Grants State.Sound
      (if isBlock then functionBlock parse false params else parse .assignment) AllCoherent :=
    .choice (coherent_functionBlock hc _ _) (hc _)
  unfold arrowFrom
  refine .after (steady_isAt _) fun isBlock => .bind (coherent_withinBody (hbody isBlock)) fun body => ?_
  refine .after steady_binaryOperator? fun op => ?_
  refine .check_with steady_token (fun _ => steady_recordHere _) fun _ => .ret fun hb hps => ?_
  exact ⟨trivial, allCoherent_node.2 hps, hb, trivial⟩

theorem coherent_parentheses (start : Nat) (isAsync canBeArrow : Bool) :
    Grants State.Sound (parentheses parse start isAsync canBeArrow) AllCoherent := by
  have hitem : Grants State.Sound (do separated ")" (← spreadable parse)) AllCoherent :=
    .bind (coherent_spreadable hc) fun item => coherent_separated _ item
  unfold parentheses
  refine .after (steady_expect _) fun _ => .bind (.many (by grind) hitem) fun items => ?_
  refine .after (steady_expect _) fun _ => .after (steady_isAt _) fun isArrow => ?_
  split
  · refine .after steady_afterLine fun lineBefore => .check (steady_failAt _ _) fun _ => ?_
    refine .check (steady_failAt _ _) fun _ => .after steady_advance fun _ => ?_
    split
    · rename_i params hparams
      refine (coherent_arrowFrom hc _ _).imp fun _ h hitems => h ?_
      exact allCoherent_toParameters? hparams hitems
    · exact grants_failAt _ _
  · refine .after (steady_checkDefaults _ _) fun _ => .choice ?_ (coherent_closeParentheses _ _)
    exact .ret fun h => allCoherent_form trivial h

theorem coherent_identifierOperand (name : String) (canBeArrow : Bool) :
    Grants State.Sound (identifierOperand parse name canBeArrow) AllCoherent := by
  have harrow (isAsync : Bool) (param : String) :
      Grants State.Sound (arrowFrom parse isAsync [.binding param]) AllCoherent :=
    (coherent_arrowFrom hc _ _).imp fun _ h => h (List.forall_mem_singleton.2 trivial)
  unfold identifierOperand
  refine .after steady_startOffset fun start => .after steady_advance fun _ => ?_
  refine .after (steady_checkArguments _ _) fun _ => .after steady_afterLine fun lineBefore => ?_
  refine .choice (.after steady_isAtAwaitedOf fun isHead => .choice (.ret trivial) ?_) (.ret trivial)
  refine .after steady_isAtIdentifier fun isNamed => .choice ?_ (.after (steady_take _) fun isArrow => ?_)
  · exact .after steady_identifier fun param => .after (steady_expect _) fun _ => harrow true param
  · exact .choice (harrow false name) (.ret trivial)

theorem coherent_asyncOperand (start : Nat) (canBeArrow : Bool) :
    Grants State.Sound (asyncOperand parse start canBeArrow) AllCoherent := by
  unfold asyncOperand
  refine .after steady_nextLexeme fun next => .choice ?_ (.choice ?_ (coherent_identifierOperand hc _ _))
  · exact .after steady_advance fun _ => coherent_function hc true true
  · exact .after steady_advance fun _ => coherent_parentheses hc start true canBeArrow

/-! ## Operands -/

theorem coherent_primary : Grants State.Sound (primary parse) AllCoherent := by
  have hconstant (value : Atom) : Grants State.Sound (primary.constant value) AllCoherent :=
    .after steady_advance fun _ => .ret trivial
  unfold primary
  refine .after steady_startOffset fun start => .after steady_get fun s => .bind coherent_token fun t => ?_
  split
  -- a string literal is made of its token; every other leaf is none
  case h_11 => exact .after steady_advance fun _ => .ret id
  case h_1 | h_2 | h_3 | h_4 | h_8 | h_9 | h_10 => exact (hconstant _).imp fun _ h _ => h
  case h_5 => exact (coherent_function hc _ _).imp fun _ h _ => h
  case h_6 => exact (coherent_classFrom hc _).imp fun _ h _ => h
  case h_7 => exact (coherent_asyncOperand hc _ _).imp fun _ h _ => h
  case h_12 => exact (coherent_arrayLiteral hc).imp fun _ h _ => h
  case h_13 => exact (coherent_objectLiteral hc).imp fun _ h _ => h
  case h_14 => exact (coherent_parentheses hc _ _ _).imp fun _ h _ => h
  case h_15 | h_16 => exact coherent_regularExpression.imp fun _ h _ => h
  case h_17 => exact (coherent_template hc).imp fun _ h _ => h
  case h_18 =>
    refine .after steady_isAtIdentifier fun isNamed => .choice ?_ (grants_fail _)
    exact (coherent_identifierOperand hc _ _).imp fun _ h _ => h
  case h_19 => exact grants_fail _

theorem coherent_arguments (isImport : Bool) :
    Grants State.Sound (arguments parse isImport) fun items => ∀ item ∈ items, AllCoherent item := by
  unfold arguments
  refine .after (steady_expect _) fun _ => .bind (.many (P := AllCoherent) ?_ ?_) fun items => ?_
  · grind
  · refine .bind (coherent_spreadable hc) fun item => .after (steady_take _) fun hasComma => ?_
    refine .after (steady_isAt _) fun isLast => .check (steady_fail _) fun _ => ?_
    refine .after steady_isDone fun isDone => .check (steady_separator _) fun _ => .ret id
  · exact .after (steady_expect _) fun _ => .ret id

theorem coherent_subscript? (calls : Bool) (object : Node) :
    Grants State.Sound (subscript? parse calls object) fun longer =>
      AllCoherent object → ∀ node ∈ longer, AllCoherent node := by
  unfold subscript?
  refine .after (steady_take _) fun isOptional => .check (steady_checkComplete _) fun _ => ?_
  refine .after (steady_take _) fun isIndex => ?_
  split
  · refine .bind (coherent_within (hc _)) fun key => .after (steady_expect _) fun _ => ?_
    refine .after (steady_checkMember _ _) fun _ => .ret fun hk ho node hm => ?_
    cases hm
    exact ⟨trivial, ho, hk, trivial⟩
  refine .after (steady_isAt _) fun isCall => ?_
  split
  · refine .bind (coherent_arguments hc _) fun items => .ret fun hi ho node hm => ?_
    cases hm
    exact allCoherent_form ho hi
  refine .after (steady_take _) fun isMember => ?_
  split
  · refine .bind coherent_memberName fun name => .after (steady_checkMember _ _) fun _ => .ret fun hn ho node hm => ?_
    cases hm
    exact ⟨trivial, ho, hn, trivial⟩
  refine .after (steady_isAt _) fun isTemplate => ?_
  split
  · refine .after (steady_checkComplete _) fun _ => .check (steady_fail _) fun _ => ?_
    refine .bind (coherent_taggedTemplate hc _) fun longer => .ret fun hl ho node hm => ?_
    cases hm
    exact hl ho
  · exact .after (steady_checkComplete _) fun _ => .ret (by simp)

theorem coherent_subscripts (calls : Bool) (steps : Nat) (object : Node) :
    Grants State.Sound (subscripts parse calls steps object) fun node => AllCoherent object → AllCoherent node := by
  induction steps generalizing object with
  | zero => exact .ret id
  | succ steps ih =>
    unfold subscripts
    refine .bind (coherent_subscript? hc _ _) fun longer => ?_
    split
    · exact (ih _).imp fun _ h hl ho => h (hl ho _ rfl)
    · exact .ret fun _ => id

theorem coherent_chain (calls : Bool) (object : Node) :
    Grants State.Sound (chain parse calls object) fun node => AllCoherent object → AllCoherent node :=
  .after steady_stepsLeft fun steps => coherent_subscripts hc calls steps object

theorem coherent_chainBase : Grants State.Sound (chainBase parse) AllCoherent := by
  unfold chainBase
  refine .after (steady_takeWord _) fun isSuper => .choice (.ret trivial) ?_
  refine .after (steady_isAtWord _) fun isImport => .choice ?_ (coherent_primary hc)
  refine .after steady_startOffset fun start => .after steady_advance fun _ => ?_
  refine .after (steady_take _) fun hasPhase => .choice (.after steady_identifierName fun phase => ?_) (.ret trivial)
  split
  · exact .ret trivial
  · exact .ret trivial
  · exact grants_failAt _ _

theorem coherent_newExpression : Grants State.Sound (newExpression parse) AllCoherent := by
  unfold newExpression
  refine .after steady_startOffset fun start => .after (steady_expectWord _) fun _ => ?_
  refine .after (steady_take _) fun isTarget => ?_
  split
  · refine .after (steady_takeWord _) fun isTarget => .choice ?_ (grants_failUnexpected _)
    refine .after steady_context fun c => .check (steady_record _ _) fun _ => ?_
    exact (coherent_chain hc _ _).imp fun _ h => h trivial
  · refine .bind (hc _) fun callee => .check (steady_fail _) fun _ => .after (steady_isAt _) fun hasArguments => ?_
    split
    · refine .bind (coherent_arguments hc _) fun items => (coherent_chain hc _ _).imp fun _ h hi ho => h ?_
      exact allCoherent_form ho hi
    · exact .ret fun h => ⟨trivial, h, trivial⟩

theorem coherent_member : Grants State.Sound (member parse) AllCoherent := by
  unfold member
  refine .after (steady_isAtWord _) fun isNew => .choice (coherent_newExpression hc) ?_
  exact .bind (coherent_chainBase hc) fun base => .choice (.ret id) (coherent_chain hc _ _)

theorem coherent_leftHandSide : Grants State.Sound (leftHandSide parse) AllCoherent := by
  unfold leftHandSide
  refine .after (steady_isAtWord _) fun isSuper => .after (steady_isAtWord _) fun isImport => ?_
  refine .choice (.bind (coherent_chainBase hc) fun base => coherent_chain hc _ _) ?_
  refine .bind (coherent_member hc) fun callee => ?_
  split
  · exact .ret id
  · exact .ret id
  · exact .after (steady_isAt _) fun isCall => .choice (coherent_chain hc _ _) (.ret id)

/-! ## Expressions -/

theorem coherent_updateBefore (isIncrement : Bool) :
    Grants State.Sound (updateBefore parse isIncrement) AllCoherent := by
  unfold updateBefore
  refine .after steady_advance fun _ => .after steady_here fun start => .bind (hc _) fun operand => ?_
  exact .after (steady_checkUpdateTarget _ _) fun _ => .ret fun h => ⟨trivial, h, trivial⟩

theorem coherent_unaryFrom (op : UnaryOp) : Grants State.Sound (unaryFrom parse op) AllCoherent := by
  unfold unaryFrom
  refine .after steady_advance fun _ => .bind (.attempt (hc _)) fun operand => ?_
  split
  · exact .ret fun h => ⟨trivial, h _ rfl, trivial⟩
  · exact .after (steady_recordFlaw _) fun _ => .ret fun _ => ⟨trivial, trivial, trivial⟩

theorem coherent_awaitFrom : Grants State.Sound (awaitFrom parse) AllCoherent := by
  have hend : Grants State.Sound (return .node .await [← parse .unary]) AllCoherent :=
    .bind (hc _) fun operand => .ret fun h => ⟨trivial, h, trivial⟩
  unfold awaitFrom
  refine .after steady_startOffset fun start => .after steady_advance fun _ => .after steady_context fun c => ?_
  refine .after (steady_isAtOne _) fun isLast => .after steady_atStatementEnd fun atEnd => .choice (.ret trivial) ?_
  dsimp only
  split
  · exact .after (steady_record _ _) fun _ => hend
  · exact .check (steady_record _ _) fun _ => hend

theorem coherent_updated : Grants State.Sound (updated parse) AllCoherent := by
  unfold updated
  refine .after steady_here fun start => .bind (coherent_leftHandSide hc) fun operand => ?_
  refine .after steady_afterLine fun lineBefore => .choice (.ret id) (.after (steady_isAtOne _) fun isUpdate => ?_)
  refine .choice (.after (steady_checkUpdateTarget _ _) fun _ => .after (steady_isAt _) fun isIncrement => ?_) (.ret id)
  exact .after steady_advance fun _ => .ret fun h => ⟨trivial, h, trivial⟩

theorem coherent_unary : Grants State.Sound (unary parse) AllCoherent := by
  unfold unary
  refine .after steady_unaryOperator? fun op => ?_
  split
  · exact coherent_unaryFrom hc _
  · refine .after (steady_isAt _) fun isIncrement => .choice (coherent_updateBefore hc _) ?_
    refine .after (steady_isAt _) fun isDecrement => .choice (coherent_updateBefore hc _) ?_
    exact .after (steady_isAtWord _) fun isAwait => .choice (coherent_awaitFrom hc) (coherent_updated hc)

theorem coherent_binaryRest (steps least : Nat) (left : Node) :
    Grants State.Sound (binaryRest parse steps least left) fun node => AllCoherent left → AllCoherent node := by
  induction steps generalizing least left with
  | zero => exact .ret id
  | succ steps ih =>
    unfold binaryRest
    refine .after steady_binaryOperator? fun op => ?_
    split
    · exact .ret id
    · refine .choice (.ret id) (.after steady_advance fun _ => .check (steady_fail _) fun _ => ?_)
      refine .bind (hc _) fun operand => .bind (ih _ operand) fun right => .check (steady_recordHere _) fun _ => ?_
      exact (ih least _).imp fun _ h hr ho hl => h ⟨trivial, hl, hr ho, trivial⟩

theorem coherent_binary : Grants State.Sound (binary parse) AllCoherent := by
  unfold binary
  refine .bind (.attempt (coherent_unary hc)) fun operand => ?_
  split
  · refine .choice (.ret fun h => h _ rfl) (.after steady_stepsLeft fun steps => ?_)
    exact (coherent_binaryRest hc _ _ _).imp fun _ h hl => h (hl _ rfl)
  · refine .after (steady_discard steady_requireToken) fun _ => .after steady_binaryOperator? fun op => ?_
    refine .choice (.after (steady_recordHere _) fun _ => .after steady_stepsLeft fun steps => ?_) (.throw _)
    exact (coherent_binaryRest hc _ _ _).imp fun _ h _ => h trivial

theorem coherent_conditional : Grants State.Sound (conditional parse) AllCoherent := by
  unfold conditional
  refine .bind (coherent_binary hc) fun test => .choice (.ret id) (.after (steady_take _) fun isConditional => ?_)
  refine .choice (.bind (coherent_within (hc _)) fun consequent => .after (steady_expect _) fun _ => ?_) (.ret id)
  exact .bind (hc _) fun alternative => .ret fun ha hc ht => ⟨trivial, ht, hc, ha, trivial⟩

theorem coherent_yieldFrom : Grants State.Sound (yieldFrom parse) AllCoherent := by
  have hnone : Grants State.Sound (pure (.node (.yield false) [.absent])) AllCoherent :=
    .ret ⟨trivial, trivial, trivial⟩
  have hvalue (isDelegate : Bool) : Grants State.Sound (return .node (.yield isDelegate) [← parse .assignment])
      AllCoherent := .bind (hc _) fun value => .ret fun h => ⟨trivial, h, trivial⟩
  unfold yieldFrom
  refine .after steady_advance fun _ => .after steady_context fun c => .check (steady_fail _) fun _ => ?_
  refine .after steady_atStatementEnd fun atEnd => .choice hnone (.after (steady_take _) fun isDelegate => ?_)
  exact .choice (hvalue true) (.after steady_token fun t => .choice (hvalue false) hnone)

theorem coherent_assignmentFrom (start : Nat) (left : Node) :
    Grants State.Sound (assignmentFrom parse start left) fun node => AllCoherent left → AllCoherent node := by
  unfold assignmentFrom
  refine .after steady_assignOperator? fun op => ?_
  split
  · exact .ret id
  · refine .after steady_context fun c => ?_
    split
    · exact grants_failAt _ _
    · rename_i target htarget
      refine .after steady_advance fun _ => .bind (hc _) fun value => .ret fun hv hl => ?_
      exact ⟨trivial, (allCoherent_patterns _).1 left hl target htarget, hv, trivial⟩
  · refine .after steady_context fun c => .check (steady_record _ _) fun _ => .after steady_advance fun _ => ?_
    refine .bind (hc _) fun value => .ret fun hv hl => ⟨trivial, ?_, hv, trivial⟩
    split
    · trivial
    · exact hl

theorem coherent_assignment : Grants State.Sound (assignment parse) AllCoherent := by
  unfold assignment
  refine .after steady_context fun c => .after (steady_isAtWord _) fun atYield => ?_
  refine .choice (coherent_yieldFrom hc) (.after steady_startOffset fun start => .after steady_requireToken fun t => ?_)
  refine .after (steady_modify fun _ => ⟨rfl, rfl, rfl⟩) fun _ => .bind (coherent_conditional hc) fun left => ?_
  exact .choice (.ret id) (coherent_assignmentFrom hc _ _)

theorem coherent_expression : Grants State.Sound (expression parse) AllCoherent := by
  have hmore : Grants State.Sound (do advance; parse .assignment) AllCoherent := .after steady_advance fun _ => hc _
  unfold expression
  refine .bind (hc _) fun first => .bind (.many (steady_isAt _) hmore) fun rest => ?_
  exact .choice (.ret fun _ => id) (.ret fun hr hf => allCoherent_form hf hr)

/-! ## Variable declarations -/

theorem coherent_declarator (keyword : VariableKeyword) (inLoop : Bool) :
    Grants State.Sound (declarator parse keyword inLoop) AllCoherent := by
  unfold declarator
  refine .after steady_here fun start => .bind (hc _) fun pattern => .check (steady_record _ _) fun _ => ?_
  have hbare : Grants State.Sound (pure (.node .declarator [pattern, .absent])) fun node =>
      AllCoherent pattern → AllCoherent node := .ret fun h => ⟨trivial, h, trivial, trivial⟩
  refine .after steady_isAtLoopWord fun isLoop => .choice hbare (.after (steady_take _) fun hasValue => ?_)
  refine .choice (.bind (hc _) fun value => .ret fun hv hp => ⟨trivial, hp, hv, trivial⟩) ?_
  dsimp only
  split
  · exact .after steady_context fun c => .check (steady_record _ _) fun _ => hbare
  · exact .after (steady_record _ _) fun _ => hbare

theorem coherent_declarators (keyword : VariableKeyword) (inLoop : Bool) (steps : Nat) :
    Grants State.Sound (declarators parse keyword inLoop steps) fun items => ∀ item ∈ items, AllCoherent item := by
  induction steps with
  | zero => exact .ret (by simp)
  | succ steps ih =>
    unfold declarators
    refine .after (steady_isAt _) fun isLast => .after steady_isDone fun isDone => .choice ?_ ?_
    · exact .after (steady_recordHere _) fun _ => .ret (by simp)
    · refine .bind (coherent_declarator hc _ _) fun first => .after (steady_take _) fun hasMore => .choice ?_ ?_
      · exact .bind ih fun rest => .ret fun hr hf => List.forall_mem_cons.2 ⟨hf, hr⟩
      · exact .ret fun hf => List.forall_mem_singleton.2 hf

theorem coherent_declarationHead (keyword : VariableKeyword) (inLoop : Bool) :
    Grants State.Sound (declarationHead parse keyword inLoop) AllCoherent := by
  unfold declarationHead
  refine .after steady_advance fun _ => .after steady_stepsLeft fun steps => ?_
  exact .bind (coherent_within (coherent_declarators hc _ _ _)) fun items => .ret allCoherent_node.2

theorem coherent_declaration (keyword : VariableKeyword) :
    Grants State.Sound (declaration parse keyword) AllCoherent := by
  unfold declaration
  refine .bind (coherent_declarationHead hc _ _) fun node => .after steady_takeSemicolon fun ends => ?_
  dsimp only
  split
  · refine .after steady_token fun t => .after (steady_recordHere _) fun _ => ?_
    refine .after (steady_discard (steady_attempt (hc _).steady)) fun _ => .after steady_stepsLeft fun steps => ?_
    exact .after (steady_skipStatement _) fun _ => .ret id
  · exact .ret id

end Stencil.Script.Grammar
