import Stencil.Proofs.Reading.Steps
/-!
# Steady productions

What the grammar reads inside a statement, given that the productions of smaller depth are steady: patterns,
functions, classes, literals, operands, expressions and declarations. Each proof begins with what is known of the
productions that the definition calls. The statements themselves follow in `Reading.Returns`, with what they are
read for.
-/

namespace Stencil.Script.Grammar

variable {parse : Productions}

/-- All productions are steady. -/
@[grind] def AllSteady (parse : Productions) : Prop := ∀ symbol, Steady (parse symbol)

variable (hp : AllSteady parse)
include hp

/-! ## Bound patterns and keys -/

theorem steady_propertyKey : Steady (propertyKey parse) := by
  unfold propertyKey
  refine steady_bind steady_requireToken fun t => ?_
  split <;> grind

theorem steady_bindingElement : Steady (bindingElement parse) := by
  unfold bindingElement
  grind

theorem steady_restElement (closing : String) : Steady (restElement parse closing) := by
  unfold restElement
  grind

theorem steady_arrayElement : Steady (arrayElement parse) := by
  have helement := steady_bindingElement hp
  have hrest := steady_restElement hp
  unfold arrayElement
  grind

theorem steady_patternProperty : Steady (patternProperty parse) := by
  have helement := steady_bindingElement hp
  unfold patternProperty
  refine steady_bind (steady_take _) fun isRest => ?_
  split
  · refine steady_bind steady_here fun start => steady_bind (steady_restElement hp _) fun rest => ?_
    dsimp only
    split <;> grind
  · refine steady_bind (steady_propertyKey hp) fun key => steady_bind (steady_take _) fun hasColon => ?_
    dsimp only
    split
    · grind
    · split <;> grind

theorem steady_bindingPattern : Steady (bindingPattern parse) := by
  have helement := steady_arrayElement hp
  have hproperty := steady_patternProperty hp
  unfold bindingPattern
  refine steady_bind steady_requireToken fun t => ?_
  split <;> grind

/-! ## Functions -/

theorem steady_blockStatements (hasDirectives : Bool) : Steady (blockStatements parse hasDirectives) := by
  unfold blockStatements
  cases hasDirectives <;> grind

theorem steady_block : Steady (block parse) := by
  have hstatements := steady_blockStatements hp
  unfold block
  grind

theorem steady_parameter : Steady (parameter parse) := by
  have helement := steady_bindingElement hp
  have hrest := steady_restElement hp
  unfold parameter
  grind

theorem steady_parameters : Steady (parameters parse) := by
  have hparameter := steady_parameter hp
  unfold parameters
  grind

theorem steady_functionBlock (hasDirectives : Bool) (params : List Node) :
    Steady (functionBlock parse hasDirectives params) := by
  have hstatements := steady_blockStatements hp
  unfold functionBlock
  grind

theorem steady_functionTail (calling : Calling) (allowsSuper : Bool) {check : List Node → Parse Unit}
    (hc : ∀ params, Steady (check params)) : Steady (functionTail parse calling allowsSuper check) := by
  have hblock := steady_functionBlock hp
  unfold functionTail
  refine steady_within (steady_bind (steady_expect _) fun _ => ?_)
  refine steady_bind (steady_within (steady_parameters hp)) fun params => ?_
  grind

theorem steady_function (isAsync isExpression : Bool) : Steady (function parse isAsync isExpression) := by
  have htail := steady_functionTail hp
  unfold function
  refine steady_bind (steady_expectWord _) fun _ => steady_bind (steady_take _) fun isGenerator => ?_
  split <;> grind

theorem steady_methodTail (access : Access) : Steady (methodTail parse access) := by
  unfold methodTail
  refine steady_bind steady_here fun start => steady_withArguments ?_
  cases access with
  | method calling => exact steady_functionTail hp _ _ steady_anyParameters
  | getter => exact steady_functionTail hp _ _ (by grind)
  | setter => exact steady_functionTail hp _ _ (by grind)

/-! ## Classes -/

theorem steady_memberKey : Steady (memberKey parse) := by
  have hkey := steady_propertyKey hp
  unfold memberKey
  refine steady_bind steady_requireToken fun t => ?_
  split <;> grind

theorem steady_methodFrom (isStatic : Bool) (access : Access) (key : Node) :
    Steady (methodFrom parse isStatic access key) := by
  have htail := steady_methodTail hp
  unfold methodFrom
  grind

theorem steady_fieldFrom (isStatic : Bool) (key : Node) : Steady (fieldFrom parse isStatic key) := by
  unfold fieldFrom
  grind

theorem steady_staticBlock : Steady (staticBlock parse) := by
  have hblock := steady_block hp
  unfold staticBlock
  grind

theorem steady_memberAfterKey (isStatic : Bool) (key : Node) :
    Steady (memberAfterKey parse isStatic key) := by
  unfold memberAfterKey
  refine steady_bind steady_afterLine fun lineBefore => steady_bind (steady_isAtFieldEnd _) fun _ => ?_
  refine steady_bind (steady_isAt _) fun _ => steady_bind (steady_isAtFieldEnd _) fun isField => ?_
  refine steady_ite (steady_fieldFrom hp _ _) (steady_ite ?_ (steady_ite ?_ (steady_failUnexpected _)))
  · refine steady_bind (steady_take _) fun isGenerator => steady_bind (steady_memberKey hp) fun name => ?_
    exact steady_ite (steady_bind (steady_fail _) fun _ => steady_methodFrom hp _ _ _) (steady_methodFrom hp _ _ _)
  · refine steady_bind (steady_memberKey hp) fun name => ?_
    exact steady_ite (steady_bind (steady_recordHere _) fun _ => steady_methodFrom hp _ _ _)
      (steady_methodFrom hp _ _ _)

theorem steady_memberBody (isStatic : Bool) : Steady (memberBody parse isStatic) := by
  have htail := steady_functionTail hp
  have hkey := steady_memberKey hp
  have hmethod := steady_methodFrom hp
  have hstatic := steady_staticBlock hp
  have hafter := steady_memberAfterKey hp
  unfold memberBody
  grind

theorem steady_classMember : Steady (classMember parse) := by
  have hmethod := steady_methodFrom hp
  have hfield := steady_fieldFrom hp
  have hbody := steady_memberBody hp
  unfold classMember
  grind

theorem steady_classTail : Steady (classTail parse) := by
  have hmember := steady_classMember hp
  unfold classTail
  refine steady_bind steady_here fun start => steady_bind (steady_takeWord _) fun isExtended => ?_
  have hmembers : Steady (within (fun c => { c with allowsSuper := true })
      (many (return !(← isDone) && !(← isAt "\x7d")) (classMember parse))) := by grind
  split <;> grind

theorem steady_classFrom (isExpression : Bool) : Steady (classFrom parse isExpression) := by
  have htail := steady_classTail hp
  unfold classFrom
  refine steady_bind (steady_expectWord _) fun _ => steady_bind steady_token fun t => ?_
  dsimp only
  split
  · exact steady_bind (steady_failUnexpected _) fun _ => by grind
  · grind

/-! ## Literals -/

theorem steady_spreadable : Steady (spreadable parse) := by
  unfold spreadable
  grind

theorem steady_templateRest (isTagged : Bool) (steps : Nat) (opens : Bool) :
    Steady (templateRest parse isTagged steps opens) := by
  induction steps generalizing opens with
  | zero => cases opens <;> exact steady_pure _
  | succ steps ih =>
    cases opens with
    | false => exact steady_pure _
    | true =>
      unfold templateRest
      grind

theorem steady_templateParts (isTagged : Bool) : Steady (templateParts parse isTagged) := by
  have hrest := steady_templateRest hp
  unfold templateParts
  grind

theorem steady_template : Steady (template parse) := by
  have hparts := steady_templateParts hp
  unfold template
  grind

theorem steady_taggedTemplate (tag : Node) : Steady (taggedTemplate parse tag) := by
  have hparts := steady_templateParts hp
  unfold taggedTemplate
  grind

theorem steady_element : Steady (element parse) := by
  have hspreadable := steady_spreadable hp
  unfold element
  grind

theorem steady_arrayLiteral : Steady (arrayLiteral parse) := by
  have helement := steady_element hp
  unfold arrayLiteral
  grind

theorem steady_objectMethod (access : Access) (key : Node) : Steady (objectMethod parse access key) := by
  have htail := steady_methodTail hp
  unfold objectMethod
  grind

theorem steady_propertyAfterName (name : String) : Steady (propertyAfterName parse name) := by
  have hkey := steady_propertyKey hp
  have hmethod := steady_objectMethod hp
  unfold propertyAfterName
  grind

theorem steady_property : Steady (property parse) := by
  have hkey := steady_propertyKey hp
  have hmethod := steady_objectMethod hp
  unfold property
  refine steady_bind (steady_take _) fun isSpread => ?_
  split
  · grind
  · refine steady_bind (steady_take _) fun isGenerator => ?_
    split
    · grind
    · refine steady_bind hkey fun key => steady_bind (steady_take _) fun hasColon => ?_
      split
      · grind
      · refine steady_bind (steady_isAt _) fun isMethod => ?_
        split
        · exact hmethod _ _
        · split
          · exact steady_propertyAfterName hp _
          · exact steady_failUnexpected _

theorem steady_objectLiteral : Steady (objectLiteral parse) := by
  have hproperty := steady_property hp
  unfold objectLiteral
  grind

/-! ## Arrow functions and parentheses -/

theorem steady_arrowFrom (isAsync : Bool) (params : List Node) :
    Steady (arrowFrom parse isAsync params) := by
  have hblock := steady_functionBlock hp
  unfold arrowFrom
  grind

theorem steady_parentheses (start : Nat) (isAsync canBeArrow : Bool) :
    Steady (parentheses parse start isAsync canBeArrow) := by
  have hspreadable := steady_spreadable hp
  have harrow := steady_arrowFrom hp
  unfold parentheses
  refine steady_bind (steady_expect _) fun _ => steady_bind (steady_many ?_ ?_) fun items => ?_
  · grind
  · grind
  · refine steady_bind (steady_expect _) fun _ => steady_bind (steady_isAt _) fun isArrow => ?_
    split
    · refine steady_bind steady_afterLine fun lineBefore => ?_
      split <;> grind
    · grind

theorem steady_identifierOperand (name : String) (canBeArrow : Bool) :
    Steady (identifierOperand parse name canBeArrow) := by
  have harrow := steady_arrowFrom hp
  unfold identifierOperand
  refine steady_bind steady_startOffset fun start => steady_bind steady_advance fun _ => ?_
  grind

theorem steady_asyncOperand (start : Nat) (canBeArrow : Bool) :
    Steady (asyncOperand parse start canBeArrow) := by
  have hfunction := steady_function hp
  have hparentheses := steady_parentheses hp
  have hidentifier := steady_identifierOperand hp
  unfold asyncOperand
  grind

/-! ## Operands -/

theorem steady_primary : Steady (primary parse) := by
  have hfunction := steady_function hp
  have hclass := steady_classFrom hp
  have htemplate := steady_template hp
  have harray := steady_arrayLiteral hp
  have hobject := steady_objectLiteral hp
  have hparentheses := steady_parentheses hp
  have hidentifier := steady_identifierOperand hp
  have hasync := steady_asyncOperand hp
  unfold primary
  refine steady_bind steady_startOffset fun start => steady_bind steady_get fun s => ?_
  refine steady_bind steady_token fun t => ?_
  split <;> grind

theorem steady_arguments (isImport : Bool) : Steady (arguments parse isImport) := by
  unfold arguments
  refine steady_bind (steady_expect _) fun _ => steady_bind (steady_many ?_ ?_) fun items => ?_
  · grind
  · refine steady_bind (steady_spreadable hp) fun item => ?_
    grind
  · grind

theorem steady_subscript? (calls : Bool) (object : Node) : Steady (subscript? parse calls object) := by
  have htemplate := steady_taggedTemplate hp
  have harguments := steady_arguments hp
  unfold subscript?
  refine steady_bind (steady_take _) fun isOptional => ?_
  dsimp only
  split
  · exact steady_bind (steady_checkComplete _) fun _ => by grind
  · grind

theorem steady_subscripts (calls : Bool) (steps : Nat) (object : Node) :
    Steady (subscripts parse calls steps object) := by
  induction steps generalizing object with
  | zero => exact steady_pure _
  | succ steps ih =>
    unfold subscripts
    refine steady_bind (steady_subscript? hp _ _) fun longer => ?_
    split
    · exact ih _
    · exact steady_pure _

theorem steady_chain (calls : Bool) (object : Node) : Steady (chain parse calls object) := by
  have hlinks := steady_subscripts hp
  unfold chain
  grind

theorem steady_chainBase : Steady (chainBase parse) := by
  unfold chainBase
  refine steady_bind (steady_takeWord _) fun isSuper => ?_
  split
  · exact steady_pure _
  · refine steady_bind (steady_isAtWord _) fun isImport => ?_
    split
    · refine steady_bind steady_startOffset fun start => steady_bind steady_advance fun _ => ?_
      refine steady_bind (steady_take _) fun hasPhase => ?_
      split
      · refine steady_bind steady_identifierName fun phase => ?_
        split <;> grind
      · exact steady_pure _
    · exact steady_primary hp

theorem steady_newExpression : Steady (newExpression parse) := by
  have harguments := steady_arguments hp
  have hchain := steady_chain hp
  unfold newExpression
  refine steady_bind steady_startOffset fun start => steady_bind (steady_expectWord _) fun _ => ?_
  grind

theorem steady_member : Steady (member parse) := by
  have hchain := steady_chain hp
  have hbase := steady_chainBase hp
  have hnew := steady_newExpression hp
  unfold member
  grind

theorem steady_leftHandSide : Steady (leftHandSide parse) := by
  have hchain := steady_chain hp
  have hbase := steady_chainBase hp
  unfold leftHandSide
  refine steady_bind (steady_isAtWord _) fun isSuper => steady_bind (steady_isAtWord _) fun isImport => ?_
  split
  · grind
  · refine steady_bind (steady_member hp) fun callee => ?_
    split <;> grind

/-! ## Expressions -/

theorem steady_updateBefore (isIncrement : Bool) : Steady (updateBefore parse isIncrement) := by
  unfold updateBefore
  grind

theorem steady_unaryFrom (op : UnaryOp) : Steady (unaryFrom parse op) := by
  unfold unaryFrom
  refine steady_bind steady_advance fun _ => steady_bind (steady_attempt (hp _)) fun operand => ?_
  split <;> grind

theorem steady_awaitFrom : Steady (awaitFrom parse) := by
  unfold awaitFrom
  grind

theorem steady_updated : Steady (updated parse) := by
  have hoperand := steady_leftHandSide hp
  unfold updated
  grind

theorem steady_unary : Steady (unary parse) := by
  have hbefore := steady_updateBefore hp
  have hoperator := steady_unaryFrom hp
  have hawait := steady_awaitFrom hp
  have hupdated := steady_updated hp
  unfold unary
  refine steady_bind steady_unaryOperator? fun op => ?_
  split <;> grind

theorem steady_binaryRest (steps least : Nat) (left : Node) :
    Steady (binaryRest parse steps least left) := by
  induction steps generalizing least left with
  | zero => exact steady_pure _
  | succ steps ih =>
    unfold binaryRest
    refine steady_bind steady_binaryOperator? fun op => ?_
    split <;> grind

theorem steady_binary : Steady (binary parse) := by
  have hrest := steady_binaryRest hp
  unfold binary
  refine steady_bind (steady_attempt (steady_unary hp)) fun operand => ?_
  split <;> grind

theorem steady_conditional : Steady (conditional parse) := by
  have hbinary := steady_binary hp
  unfold conditional
  grind

theorem steady_yieldFrom : Steady (yieldFrom parse) := by
  unfold yieldFrom
  grind

theorem steady_assignmentFrom (start : Nat) (left : Node) :
    Steady (assignmentFrom parse start left) := by
  unfold assignmentFrom
  refine steady_bind steady_assignOperator? fun op => ?_
  split
  · exact steady_pure _
  · refine steady_bind steady_context fun c => ?_
    split <;> grind
  · grind

theorem steady_assignment : Steady (assignment parse) := by
  have hconditional := steady_conditional hp
  have hrest := steady_assignmentFrom hp
  unfold assignment
  refine steady_bind steady_context fun c => steady_bind (steady_isAtWord _) fun atYield => ?_
  split
  · exact steady_yieldFrom hp
  · refine steady_bind steady_startOffset fun start => steady_bind steady_requireToken fun t => ?_
    refine steady_bind (steady_modify fun _ => ⟨rfl, rfl, rfl⟩) fun _ => ?_
    grind

theorem steady_expression : Steady (expression parse) := by
  unfold expression
  refine steady_bind (hp _) fun first => steady_bind (steady_many (steady_isAt _) ?_) fun rest => ?_
  · grind
  · grind

/-! ## Variable declarations -/

theorem steady_declarator (keyword : VariableKeyword) (inLoop : Bool) :
    Steady (declarator parse keyword inLoop) := by
  unfold declarator
  grind

theorem steady_declarators (keyword : VariableKeyword) (inLoop : Bool) (steps : Nat) :
    Steady (declarators parse keyword inLoop steps) := by
  have hitem := steady_declarator hp
  induction steps with
  | zero => exact steady_pure _
  | succ steps ih =>
    unfold declarators
    grind

theorem steady_declarationHead (keyword : VariableKeyword) (inLoop : Bool) :
    Steady (declarationHead parse keyword inLoop) := by
  have hitems := steady_declarators hp
  unfold declarationHead
  grind

end Stencil.Script.Grammar
