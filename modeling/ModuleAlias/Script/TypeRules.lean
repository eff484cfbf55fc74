/-
Module: ModuleAlias.Script.TypeRules
Purpose: The types of TypeScript. Of a type only its range matters and the calls in it: a call of
  `import` and what `typeof` asks for can hold calls, and computed names and templates hold
  expressions and types.
Imports: ModuleAlias.Script.Atom
Main exports: Script.typeRule, Script.typeArguments, Script.typeParameters, Script.typeMark,
  Script.resultType
-/
import ModuleAlias.Script.Atom

namespace ModuleAlias.Script

open Reader

/-- Arguments of a type, between angle brackets. -/
def typeArguments (g : Grammar) : Reader Node := do
  let start ← startByte
  raw ['<']
  let first ← g.type
  let more ← many do
    mark ","
    g.type
  let _ ← markIf ","
  raw ['>']
  node .typeArguments start (first :: more)

/-- One parameter of a generic declaration. -/
def typeParameter (g : Grammar) : Reader (List Node) := do
  let _ ← many do
    let second ← peekSecond
    match second.token with
    | .word spelling => require (spelling != "extends")
    | _ => failure
    match (← take).token with
    | .word "const" => pure ()
    | .word "in" => pure ()
    | .word "out" => pure ()
    | _ => failure
  let name ← anyWord .identifier
  let bound ← if ← wordIf "extends" then pure [← g.type] else pure []
  let given ← if ← markIf "=" then pure [← g.type] else pure []
  return name :: (bound ++ given)

/-- The parameters of a generic declaration, between angle brackets. -/
def typeParameters (g : Grammar) : Reader Node := do
  let start ← startByte
  raw ['<']
  let first ← typeParameter g
  let more ← many do
    mark ","
    typeParameter g
  let _ ← markIf ","
  raw ['>']
  node .typeParameters start (first ++ more.flatten)

/-- The parameters of a generic declaration, if there are any. -/
def typeParametersIf (g : Grammar) : Reader (List Node) := do
  if g.language.hasTypes && (← nextIsRaw ['<']) then
    return [← typeParameters g]
  return []

/-- A type after a colon. -/
def typeMark (g : Grammar) : Reader Node := do
  let start ← startByte
  mark ":"
  node .typeMark start [← g.type]

/-- A type after a colon, if there is one. -/
def typeMarkIf (g : Grammar) : Reader (List Node) := do
  if g.language.hasTypes && (← nextIsMark ":") then
    return [← typeMark g]
  return []

/-- The type of a result, which may be a claim about a parameter. -/
def resultType (g : Grammar) : Reader Node := do
  let start ← startByte
  mark ":"
  let second ← peekSecond
  let claims ← match second.token with
    | .word _ => nextIsWord "asserts"
    | _ => pure false
  if claims && !second.broken then
    word "asserts"
    let name ← anyWord .identifier
    let claimed ← if ← wordIf "is" then pure [← g.type] else pure []
    node .typeMark start (name :: claimed)
  else
    node .typeMark start [← g.type]

/-- The type of a result, if one is given. -/
def resultTypeIf (g : Grammar) : Reader (List Node) := do
  if g.language.hasTypes && (← nextIsMark ":") then
    return [← resultType g]
  return []

/-- The name of a member of an object type, an object, a class, or a pattern: a word, a string, a
number, a private name, or an expression in brackets. -/
def memberName (g : Grammar) : Reader Node := do
  let lexeme ← peek
  match lexeme.token with
  | .word _ => anyWord .propertyIdentifier
  | .quote _ => stringLiteral
  | .number =>
    let _ ← take
    node .number lexeme.start.offset []
  | .privateName =>
    let _ ← take
    node .privateIdentifier lexeme.start.offset []
  | .mark _ =>
    mark "["
    let value ← g.expression {}
    mark "]"
    node .computedPropertyName lexeme.start.offset [value]
  | _ => failure

/-- A sign before a modifier or a mark of a mapped type. -/
def signIf : Reader Unit := do
  if ← nextIsMark "+" then mark "+" else if ← nextIsMark "-" then mark "-"

/-- The bracket of an index signature or of a mapped type. -/
def indexBracket (g : Grammar) : Reader (List Node) := do
  mark "["
  let name ← anyWord .identifier
  if ← wordIf "in" then
    let keys ← g.type
    let renamed ← if ← wordIf "as" then pure [← g.type] else pure []
    mark "]"
    return name :: keys :: renamed
  else
    mark ":"
    let keys ← g.type
    mark "]"
    return [name, keys]

/-- What follows the name of a member of an object type: a signature or a type. -/
def memberType (g : Grammar) : Reader (List Node) := do
  signIf
  let _ ← markIf "?"
  let generic ← typeParametersIf g
  if ← nextIsMark "(" then
    let parameters ← g.parameters
    let result ← resultTypeIf g
    return generic ++ parameters :: result
  else
    require generic.isEmpty
    typeMarkIf g

/-- Whether the next word changes the member that follows it, and is not the member's own name. -/
def nextIsModifier (words : List String) : Reader Bool := do
  match (← peek).token with
  | .word spelling =>
    if words.contains spelling then
      match (← peekSecond).token with
      | .word _ => return true
      | .quote _ => return true
      | .number => return true
      | .privateName => return true
      | .mark "[" => return true
      | _ => return false
    else return false
  | _ => return false

/-- A member of an object type. -/
def typeMember (g : Grammar) : Reader (List Node) := do
  signIf
  if ← nextIsModifier ["readonly"] then
    let _ ← take
  let members ←
    (do
      let index ← indexBracket g
      return index ++ (← memberType g)) <|>
    (do
      let generic ← typeParametersIf g
      let parameters ← g.parameters
      return generic ++ parameters :: (← resultTypeIf g)) <|>
    (do
      word "new"
      let generic ← typeParametersIf g
      let parameters ← g.parameters
      return generic ++ parameters :: (← resultTypeIf g)) <|>
    (do
      let isAccessor ← nextIsModifier ["get", "set"]
      require isAccessor
      let _ ← take
      let name ← memberName g
      return name :: (← memberType g)) <|>
    (do
      let name ← memberName g
      return name :: (← memberType g))
  return members

/-- An object type. -/
def objectType (g : Grammar) : Reader Node := do
  let start ← startByte
  mark "\x7b"
  let members ← many do
    if (← nextIsMark ";") || (← nextIsMark ",") then
      let _ ← take
      return []
    typeMember g
  mark "\x7d"
  node .typeExpression start members.flatten

/-- An element of a tuple type. -/
def tupleElement (g : Grammar) : Reader (List Node) := do
  let _ ← markIf "..."
  let labelled : Reader (List Node) := do
    let name ← anyWord .identifier
    let _ ← markIf "?"
    mark ":"
    return [name, ← g.type]
  let plain : Reader (List Node) := do
    let type ← g.type
    let _ ← markIf "?"
    return [type]
  labelled <|> plain

/-- Arguments in parentheses, each an expression. -/
def typeCallArguments (g : Grammar) : Reader Node := do
  let start ← startByte
  mark "("
  let values ← listUntil ")" (g.assignment {})
  return (← node .arguments start values).withPart .arguments

/-- An imported module as a type: a call of `import`. -/
def importType (g : Grammar) : Reader Node := do
  let start ← startByte
  let callee ← do
    word "import"
    node .metaProperty start []
  let arguments ← typeCallArguments g
  node .callExpression start [callee.withPart .callee, arguments]

/-- What follows the thing that `typeof` asks for: members, items, arguments. -/
def queryTail (g : Grammar) (start : Nat) : Nat → Node → Reader Node
  | 0, subject => pure subject
  | fuel + 1, subject => do
    let lexeme ← peek
    match lexeme.token with
    | .mark "." =>
      mark "."
      if (← peekToken) == .privateName then
        let _ ← take
      else
        let _ ← anyWord .propertyIdentifier
      queryTail g start fuel (← node .memberExpression start [subject])
    | .mark "(" =>
      if lexeme.broken then
        return subject
      let arguments ← typeCallArguments g
      queryTail g start fuel
        (← node .callExpression start [subject.withPart .callee, arguments])
    | _ =>
      if !lexeme.broken && (← nextIsRaw ['<']) then
        match ← attempt (typeArguments g) with
        | some arguments =>
          queryTail g start fuel (← node .instantiationExpression start [subject, arguments])
        | none => return subject
      else return subject

/-- A query for the type of a value. -/
def typeQuery (g : Grammar) : Reader Node := do
  let start ← startByte
  word "typeof"
  let inner ← startByte
  let subject ← if ← nextIsWord "import" then importType g else anyWord .identifier
  let fuel := (← get).rest.length
  let whole ← queryTail g inner fuel subject
  node .typeQuery start [whole]

/-- The names and arguments that follow a name in a type. -/
def nameTail (g : Grammar) : Reader (List Node) := do
  let _ ← many do
    mark "."
    anyWord .propertyIdentifier
  let lexeme ← peek
  if !lexeme.broken && (← nextIsRaw ['<']) then
    match ← attempt (typeArguments g) with
    | some arguments => return [arguments]
    | none => return []
  return []

/-- The types that hold no others beside them. -/
def primaryType (g : Grammar) : Reader Node := do
  let lexeme ← peek
  let start := lexeme.start.offset
  match lexeme.token with
  | .mark "(" =>
    mark "("
    let inner ← g.type
    mark ")"
    node .typeExpression start [inner]
  | .mark "[" =>
    mark "["
    let elements ← listUntil "]" (tupleElement g)
    node .typeExpression start elements.flatten
  | .mark "\x7b" => objectType g
  | .quote _ => stringLiteral
  | .number =>
    let _ ← take
    node .number start []
  | .mark "-" =>
    mark "-"
    require ((← take).token == .number)
    node .number start []
  | .mark "*" =>
    mark "*"
    node .typeExpression start []
  | .mark "?" =>
    mark "?"
    node .typeExpression start [← g.type]
  | .backtick => templateLiteral g.type
  | .word "typeof" => typeQuery g
  | .word "import" =>
    let call ← importType g
    node .typeExpression start (call :: (← nameTail g))
  | .word _ =>
    let name ← anyWord .identifier
    let claim ← peek
    let claims := match claim.token with
      | .word "is" => !claim.broken
      | _ => false
    if claims then
      word "is"
      node .typeExpression start [name, ← g.type]
    else
      node .typeExpression start (name :: (← nameTail g))
  | _ => failure

/-- A type with the brackets that follow it, for arrays and for items of a type. -/
def postfixType (g : Grammar) : Reader Node := do
  let start ← startByte
  let subject ← primaryType g
  let brackets ← many do
    let lexeme ← peek
    require (!lexeme.broken)
    mark "["
    if ← markIf "]" then
      return []
    let index ← g.type
    mark "]"
    return [index]
  if brackets.isEmpty then
    return subject
  node .typeExpression start (subject :: brackets.flatten)

/-- Whether the next word is an operator before a type rather than the name of a type. -/
def nextIsTypeOperator : Reader Bool := do
  match (← peek).token with
  | .word spelling =>
    if ["keyof", "unique", "readonly", "infer"].contains spelling then
      match (← peekSecond).token with
      | .word following => return !(["extends", "is", "as", "of", "in"].contains following)
      | .quote _ => return true
      | .number => return true
      | .backtick => return true
      | .mark "(" => return true
      | .mark "[" => return true
      | .mark "\x7b" => return true
      | _ => return false
    else return false
  | _ => return false

/-- What an inferred type has to extend, if it is said. -/
def inferredBoundIf (g : Grammar) (operators : List Lexeme) : Reader (List Node) := do
  let infers := operators.any fun operator => operator.token == .word "infer"
  if infers && (← nextIsWord "extends") then
    word "extends"
    return [← g.type]
  return []

/-- A type with the operators before it. -/
def operatorType (g : Grammar) : Reader Node := do
  let start ← startByte
  let operators ← many do
    require (← nextIsTypeOperator)
    take
  let subject ← postfixType g
  if operators.isEmpty then
    return subject
  node .typeExpression start (subject :: (← inferredBoundIf g operators))

/-- A function type or a constructor type. -/
def functionType (g : Grammar) : Reader Node := do
  let start ← startByte
  if ← nextIsWord "abstract" then
    word "abstract"
    require (← nextIsWord "new")
  let _ ← wordIf "new"
  let generic ← typeParametersIf g
  let parameters ← g.parameters
  mark "=>"
  let claims ← do
    if ← nextIsWord "asserts" then
      match (← peekSecond).token with
      | .word _ => pure true
      | _ => pure false
    else pure false
  if claims then
    word "asserts"
  let result ← g.type
  node .typeExpression start (generic ++ [parameters, result])

/-- Whether a function type can start here. -/
def nextIsFunctionType : Reader Bool := do
  match (← peek).token with
  | .mark "(" => return true
  | .word "new" => return true
  | .word "abstract" => return (← peekSecond).token == .word "new"
  | _ => nextIsRaw ['<']

/-- One of the types that are joined by `|` and `&`. -/
def joinedType (g : Grammar) : Reader Node := do
  if ← nextIsFunctionType then functionType g <|> operatorType g else operatorType g

/-- Types joined by `|` and `&`. -/
def unionType (g : Grammar) : Reader Node := do
  let start ← startByte
  let joiner : Reader Unit := do
    if ← nextIsMark "|" then mark "|" else mark "&"
  let _ ← attempt joiner
  let first ← operatorType g
  let more ← many do
    joiner
    joinedType g
  if more.isEmpty then
    return first
  node .typeExpression start (first :: more)

/-- A type. -/
def typeRule (g : Grammar) : Reader Node := do
  let start ← startByte
  let plain : Reader Node := do
    let subject ← unionType g
    let lexeme ← peek
    if lexeme.token == .word "extends" && !lexeme.broken then
      let conditional : Reader (List Node) := do
        word "extends"
        let bound ← if ← nextIsFunctionType then functionType g <|> unionType g else unionType g
        mark "?"
        let yes ← g.type
        mark ":"
        let no ← g.type
        return [bound, yes, no]
      match ← attempt conditional with
      | some parts => node .typeExpression start (subject :: parts)
      | none => return subject
    else return subject
  if ← nextIsFunctionType then
    functionType g <|> plain
  else plain

end ModuleAlias.Script
