/-
Module: ModuleAlias.Script.ExpressionRules
Purpose: Expressions. What the library asks of them are the calls in them and what encloses those,
  so operands joined by operators, whatever their precedence, are one node.
Imports: ModuleAlias.Script.FunctionRules
Main exports: Script.operandRule, Script.assignmentRule, Script.expressionRule
-/
import ModuleAlias.Script.FunctionRules

namespace ModuleAlias.Script

open Reader

/-!
### Objects and lists
-/

/-- An item of a list or of arguments. -/
def listItem (g : Grammar) : Reader Node := do
  let start ← startByte
  if ← markIf "..." then
    node .spreadElement start [← g.assignment {}]
  else g.assignment {}

/-- A list. -/
def arrayLiteral (g : Grammar) : Reader Node := do
  let start ← startByte
  mark "["
  let items ← many do
    if ← markIf "," then
      return []
    return [← listItem g]
  mark "]"
  node .array start items.flatten

/-- Whether the next word modifies the method that follows it in an object. -/
def nextIsMethodModifier : Reader Bool := do
  match (← peek).token with
  | .word spelling =>
    if ["async", "get", "set"].contains spelling then
      match (← peekSecond).token with
      | .word _ => return true
      | .quote _ => return true
      | .number => return true
      | .privateName => return true
      | .mark "[" => return true
      | .mark "*" => return true
      | _ => return false
    else return false
  | _ => return false

/-- A property, a method or a spread in an object. A name with a default is what a pattern for an
assignment has in its place. -/
def objectMember (g : Grammar) : Reader Node := do
  let start ← startByte
  if ← markIf "..." then
    node .spreadElement start [← g.assignment {}]
  else
    let modifiers ← many do
      require (← nextIsMethodModifier)
      take
    let generates ← markIf "*"
    let key ← memberName g
    let isMethod := generates || !modifiers.isEmpty
    if (← nextIsMark "(") || (g.language.hasTypes && (← nextIsRaw ['<'])) then
      methodTail g start [key] false
    else if isMethod then failure
    else if ← markIf ":" then
      node .pair start [key, (← g.assignment {}).withPart .value]
    else
      require (key.kind == .propertyIdentifier)
      if ← markIf "=" then
        let target := (key.withKind .shorthandIdentifierPattern).withPart .left
        node .objectAssignmentPattern start [target, (← g.assignment {}).withPart .value]
      else return key.withKind .shorthandIdentifier

/-- An object. -/
def objectLiteral (g : Grammar) : Reader Node := do
  let start ← startByte
  mark "\x7b"
  let members ← listUntil "\x7d" (objectMember g)
  node .object start members

/-!
### Arrow functions
-/

/-- The body of an arrow function: a block or an expression. -/
def arrowBody (g : Grammar) (mode : Mode) : Reader Node := do
  if ← nextIsMark "\x7b" then g.block else g.assignment mode

/-- An arrow function from its parameters on, which starts at a byte. -/
def arrowFrom (g : Grammar) (mode : Mode) (start : Nat) : Reader Node := do
  let generic ← typeParametersIf g
  let parameters ← g.parameters
  let result ← resultTypeIf g
  require (!(← peek).broken)
  mark "=>"
  let body ← arrowBody g mode
  node .arrowFunction start (generic ++ parameters :: (result ++ [body]))

/-- An arrow function of one name, which starts at a byte. -/
def arrowOfName (g : Grammar) (mode : Mode) (start : Nat) : Reader Node := do
  let parameter ← name .identifier
  mark "=>"
  let body ← arrowBody g mode
  node .arrowFunction start [parameter, body]

/-- What begins with a parenthesis: an expression in parentheses, or an arrow function. -/
def parenthesized (g : Grammar) (mode : Mode) : Reader Node := do
  let start ← get
  let startAt ← startByte
  let inner : Reader Node := do
    mark "("
    let value ← g.expression {}
    mark ")"
    node .parenthesizedExpression startAt [value]
  match ← attempt inner with
  | none => arrowFrom g mode startAt
  | some value =>
    let final ← get
    let next ← peek
    match next.token with
    | .mark "=>" =>
      goTo start
      arrowFrom g mode startAt
    | .mark ":" =>
      if g.language.hasTypes && mode.allowsArrowTypes then
        goTo start
        match ← attempt (arrowFrom g mode startAt) with
        | some arrow => return arrow
        | none =>
          goTo final
          return value
      else return value
    | _ => return value

/-!
### Operands
-/

/-- What begins with the word `async`: a function, an arrow function, or a name. -/
def asyncOperand (g : Grammar) (mode : Mode) : Reader Node := do
  let start ← get
  let startAt ← startByte
  let second ← peekSecond
  match second.token with
  | .mark "=>" => arrowOfName g mode startAt
  | .word "function" =>
    if second.broken then anyWord .identifier
    else
      word "async"
      functionFrom g startAt false
  | .word spelling =>
    if second.broken || !isName spelling then anyWord .identifier
    else
      word "async"
      match ← attempt (arrowOfName g mode startAt) with
      | some arrow => return arrow
      | none =>
        goTo start
        anyWord .identifier
  | _ =>
    let isParameters := second.token == .mark "(" || second.token == .mark "<"
    if isParameters && !second.broken then
      word "async"
      match ← attempt (arrowFrom g mode startAt) with
      | some arrow => return arrow
      | none =>
        goTo start
        anyWord .identifier
    else anyWord .identifier

/-- What begins with the word `import`: a call, or information about the module. -/
def importOperand : Reader Node := do
  let start ← startByte
  word "import"
  if ← markIf "." then
    let _ ← anyWord .propertyIdentifier
  node .metaProperty start []

/-- What begins with an angle bracket: markup, a generic arrow function, or a type assertion. -/
def angleOperand (g : Grammar) (mode : Mode) : Reader Node := do
  let start ← startByte
  let asserted : Reader Node := do
    raw ['<']
    let type ← g.type
    raw ['>']
    let value ← g.operand mode
    node .typeAssertion start [type, value]
  match g.language with
  | .javascript => g.markup
  | .typescript => arrowFrom g mode start <|> asserted
  | .tsx => arrowFrom g mode start <|> g.markup

/-- A constant written as a word. -/
def constantWords : List String := ["this", "super", "null", "true", "false"]

/-- The operands that other operands are built from. -/
def primary (g : Grammar) (mode : Mode) : Reader Node := do
  let lexeme ← peek
  let start := lexeme.start.offset
  match lexeme.token with
  | .quote _ => stringLiteral
  | .backtick => templateLiteral (g.expression {})
  | .number =>
    let _ ← take
    node .number start []
  | .privateName =>
    let _ ← take
    node .privateIdentifier start []
  | .mark "(" => parenthesized g mode
  | .mark "[" => arrayLiteral g
  | .mark "\x7b" => objectLiteral g
  | .mark "/" => regexLiteral
  | .mark "/=" => regexLiteral
  | .mark "<" => angleOperand g mode
  | .mark "<<" => angleOperand g mode
  | .mark "@" =>
    let decorations ← decorators g
    g.classFrom start decorations .classExpression
  | .word "function" => functionFrom g start false
  | .word "class" => g.classFrom start [] .classExpression
  | .word "async" => asyncOperand g mode
  | .word "import" => importOperand
  | .word spelling =>
    if constantWords.contains spelling then
      let _ ← take
      node .metaProperty start []
    else if (← peekSecond).token == .mark "=>" && isName spelling then
      arrowOfName g mode start
    else name .identifier
  | _ => failure

/-- Whether what follows type arguments shows that they were none: the start of an operand on the
same line, or a sign. -/
def contradictsTypeArguments (lexeme : Lexeme) : Bool :=
  match lexeme.token with
  | .mark "(" => false
  | .backtick => false
  | .mark "<" => true
  | .mark ">" => true
  | .mark "+" => true
  | .mark "-" => true
  | .word spelling =>
    !lexeme.broken && !(["as", "satisfies", "in", "instanceof", "of", "is"].contains spelling)
  | .quote _ => !lexeme.broken
  | .number => !lexeme.broken
  | .mark "[" => !lexeme.broken
  | .mark "\x7b" => !lexeme.broken
  | .mark "!" => !lexeme.broken
  | .mark "~" => !lexeme.broken
  | .mark "/" => !lexeme.broken
  | _ => false

/-- Arguments of a call. -/
def argumentsOf (g : Grammar) : Reader Node := do
  let start ← startByte
  mark "("
  let values ← listUntil ")" (listItem g)
  return (← node .arguments start values).withPart .arguments

mutual

/-- Whether a type asks for a module by a call of `import`. -/
def asksForModule : Node → Bool
  | .mk .callExpression _ _ _ (callee :: nodes) =>
    callee.kind == .metaProperty || someAsksForModule nodes
  | .mk _ _ _ _ nodes => someAsksForModule nodes

/-- Whether a type of a list asks for a module. -/
def someAsksForModule : List Node → Bool
  | [] => false
  | node :: nodes => asksForModule node || someAsksForModule nodes

end

/-- Refuses type arguments that ask for a module where what they cover, and what follows it, can be
read as operands: a call of `import` is rather an operand than a type. -/
def preferOperands (g : Grammar) (before : Cursor) (arguments : Node) : Reader Unit := do
  if asksForModule arguments then
    let after ← get
    goTo before
    raw ['<']
    match ← attempt (g.assignment {}) with
    | some operand => require (operand.stop < arguments.stop)
    | none => pure ()
    goTo after

/-- Type arguments of an expression, where what follows does not contradict them. -/
def expressionTypeArguments (g : Grammar) : Reader Node := do
  let before ← get
  let arguments ← typeArguments g
  require (!contradictsTypeArguments (← peek))
  preferOperands g before arguments
  return arguments

/-- The name of a member after its full stop. -/
def memberAccess : Reader Unit := do
  match (← take).token with
  | .word _ => pure ()
  | .privateName => pure ()
  | _ => failure

/-- What follows an operand that starts at a byte: members, items, calls and templates. A
constructor after `new` takes no arguments here. -/
def operandTail (g : Grammar) (mode : Mode) (calls : Bool) (start : Nat) :
    Nat → Node → Reader Node
  | 0, subject => pure subject
  | fuel + 1, subject => do
    let again := operandTail g mode calls start fuel
    let call (types : List Node) : Reader Node := do
      let arguments ← argumentsOf g
      again (← node .callExpression start (subject.withPart .callee :: types ++ [arguments]))
    let template (types : List Node) : Reader Node := do
      let arguments ← templateLiteral (g.expression {})
      again (← node .callExpression start
        (subject.withPart .callee :: types ++ [arguments.withPart .arguments]))
    let item : Reader Node := do
      mark "["
      let index ← g.expression {}
      mark "]"
      again (← node .subscriptExpression start [subject, index])
    let lexeme ← peek
    match lexeme.token with
    | .mark "." =>
      mark "."
      memberAccess
      again (← node .memberExpression start [subject])
    | .mark "?." =>
      require calls
      mark "?."
      match (← peek).token with
      | .mark "(" => call []
      | .mark "[" => item
      | .backtick => template []
      | .mark "<" => call [← typeArguments g]
      | _ =>
        memberAccess
        again (← node .memberExpression start [subject])
    | .mark "[" => item
    | .mark "(" => if calls then call [] else return subject
    | .backtick => template []
    | .mark "!" =>
      if g.language.hasTypes && !lexeme.broken then
        mark "!"
        again (← node .nonNullExpression start [subject])
      else return subject
    | _ =>
      if g.language.hasTypes && (← nextIsRaw ['<']) then
        match ← attempt (expressionTypeArguments g) with
        | none => return subject
        | some types =>
          match (← peek).token with
          | .mark "(" =>
            if calls then call [types]
            else node .instantiationExpression start [subject, types]
          | .backtick => template [types]
          | _ => again (← node .instantiationExpression start [subject, types])
      else return subject

/-- A call of a constructor, or the target of one. -/
def newOperand (g : Grammar) (mode : Mode) : Nat → Reader Node
  | 0 => failure
  | fuel + 1 => do
    let start ← startByte
    word "new"
    if ← markIf "." then
      let _ ← anyWord .propertyIdentifier
      node .metaProperty start []
    else
      let inner ← startByte
      let subject ← if ← nextIsWord "new" then newOperand g mode fuel else primary g mode
      let rest := (← get).rest.length
      let constructed ← operandTail g mode false inner rest subject
      if ← nextIsMark "(" then
        node .newExpression start [constructed, ← argumentsOf g]
      else node .newExpression start [constructed]

/-- The signs and words that stand before an operand. -/
def nextIsPrefixOperator : Reader Bool := do
  match (← peek).token with
  | .mark spelling => return ["!", "~", "+", "-", "++", "--"].contains spelling
  | .word spelling => return ["typeof", "void", "delete", "await"].contains spelling
  | _ => return false

/-- Whether nothing that could be yielded follows. -/
def atYieldEnd : Reader Bool := do
  let lexeme ← peek
  match lexeme.token with
  | .mark spelling =>
    return lexeme.broken || [")", "]", "\x7d", ",", ";", ":", "=>", "=", "."].contains spelling
  | .word "in" => return true
  | .word "of" => return true
  | .finish => return true
  | _ => return lexeme.broken

/-- What begins with the word `yield`. -/
def yieldOperand (g : Grammar) (mode : Mode) : Reader Node := do
  let start ← startByte
  word "yield"
  let _ ← markIf "*"
  if ← atYieldEnd then node .operatorExpression start []
  else node .operatorExpression start [← g.assignment mode]

/-- An operand with the operators before and after it. -/
def operandRule (g : Grammar) (mode : Mode) : Reader Node := do
  let start ← startByte
  if ← nextIsPrefixOperator then
    let operator ← take
    match ← attempt (g.operand mode) with
    | some value => node .operatorExpression start [value]
    | none =>
      require (operator.token == .word "await")
      node .identifier start []
  else
    let isYield ← nextIsWord "yield"
    let isArrow := (← peekSecond).token == .mark "=>"
    if isYield && !isArrow then yieldOperand g mode
    else
      let fuel := (← get).rest.length
      let subject ←
        if ← nextIsWord "new" then newOperand g mode fuel else primary g mode
      if subject.kind == .arrowFunction then
        return subject
      let fuel := (← get).rest.length
      let whole ← operandTail g mode true start fuel subject
      let lexeme ← peek
      let steps := lexeme.token == .mark "++" || lexeme.token == .mark "--"
      if steps && !lexeme.broken then
        let _ ← take
        node .operatorExpression start [whole]
      else return whole

/-!
### Operators
-/

/-- The punctuators that join operands. -/
def infixMarks : List String :=
  ["=", "+=", "-=", "*=", "/=", "%=", "**=", "<<=", ">>=", ">>>=", "&=", "^=", "|=", "&&=", "||=",
    "??=", "||", "&&", "??", "|", "^", "&", "==", "!=", "===", "!==", "<", ">", "<=", ">=", "<<",
    ">>", ">>>", "+", "-", "*", "/", "%", "**"]

/-- An operator and the operand after it, as the list of their nodes. -/
def operation (g : Grammar) (mode : Mode) : Reader Node := do
  match (← take).token with
  | .mark spelling =>
    require (infixMarks.contains spelling)
    g.operand mode
  | .word "instanceof" => g.operand mode
  | .word "in" =>
    require mode.allowsIn
    g.operand mode
  | _ => failure

/-- A type after the word `as` or `satisfies`. -/
def conversion (g : Grammar) : Reader Node := do
  require g.language.hasTypes
  let lexeme ← take
  require (!lexeme.broken)
  require (lexeme.token == .word "as" || lexeme.token == .word "satisfies")
  g.type

/-- Joins operators and operands to a subject that starts at a byte. -/
def operations (g : Grammar) (mode : Mode) (start : Nat) : Nat → Node → Reader Node
  | 0, subject => pure subject
  | fuel + 1, subject => do
    match ← attempt (conversion g) with
    | some type => operations g mode start fuel (← node .asExpression start [subject, type])
    | none =>
      match ← attempt (operation g mode) with
      | some operand =>
        operations g mode start fuel (← node .operatorExpression start [subject, operand])
      | none => return subject

/-- What follows the question mark of a choice. -/
def choice (g : Grammar) (mode : Mode) (allowsArrowTypes : Bool) : Reader (List Node) := do
  let yes ← g.assignment { allowsIn := true, allowsArrowTypes }
  mark ":"
  let no ← g.assignment mode
  return [yes, no]

/-- An expression without commas. -/
def assignmentRule (g : Grammar) (mode : Mode) : Reader Node := do
  let start ← startByte
  let subject ← g.operand mode
  if subject.kind == .arrowFunction then
    return subject
  let fuel := (← get).rest.length
  let whole ← operations g mode start fuel subject
  if ← markIf "?" then
    let parts ← choice g mode true <|> choice g mode false
    node .ternaryExpression start (whole :: parts)
  else return whole

/-- An expression, with or without commas. -/
def expressionRule (g : Grammar) (mode : Mode) : Reader Node := do
  let start ← startByte
  let values ← separated "," (g.assignment mode)
  match values with
  | [value] => return value
  | values => node .operatorExpression start values

end ModuleAlias.Script
