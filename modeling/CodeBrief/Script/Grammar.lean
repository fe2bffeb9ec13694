import CodeBrief.Script.Rule
import CodeBrief.Digest.Language

/-!
# The grammar of scripts

One grammar for three dialects: plain scripts with elements in expressions,
typed scripts without, and typed scripts with elements.

The tree is as fine as a digest needs it. Declarations, classes, functions and
their parameters have nodes with fields of their own; an expression of one
operand is the node of the operand, and any other expression is a single node
over its operands, whatever their operators and precedence. Types are parsed for
where they end, and only the types that an interface extends have nodes of a
known shape.
-/

namespace CodeBrief.Script

/-- What a script may contain: types, and elements in angle brackets. -/
structure Dialect where
  typed : Bool
  elements : Bool
  deriving DecidableEq, Repr

/-- The dialect of a language that has a grammar. -/
def Dialect.of? : Language → Option Dialect
  | .javascript => some ⟨false, true⟩
  | .typescript => some ⟨true, false⟩
  | .tsx => some ⟨true, true⟩
  | .java | .generic => none

/-- The symbols of the grammar. -/
inductive Sym where
  | program | statement | block | declaration | importStatement | exportStatement | loop
  | bindings | declarator | function | classDeclaration | interfaceDeclaration | typeAlias
  | enumeration | namespaceBlock | ambient | importAlias
  | classBody | classMember | heritage | decorator | propertyName
  | parameters | parameter | signature | pattern | patternOrDefault | bindingTarget
  | expressions | expression | consequent | arrow | untypedArrow | chain | operation | unit
  | operand | baseOperand | primary | suffix | arguments | object | array | template
  | functionExpression | classExpression | element | elementChild | elementAttribute
  | type | typeOperand | typePrimary | typeArguments | typeParameters | returnType | objectType
  | typeMember | extendedType
  deriving DecidableEq, Repr

namespace Grammar

/-- A rule over the symbols of scripts. -/
abbrev R := Rule Sym

open Rule (token opening adjacent keyword lexeme content seq choice many node nodeUnlessSingle
  ahead notAhead sameLine)

/-- A symbol as a rule. -/
def sym (s : Sym) : R := .symbol s

/-- A rule or nothing. -/
def opt (r : R) : R := choice [r, .empty]

/-- Rules that only one kind of dialect has. -/
def only (condition : Bool) (rules : List R) : List R :=
  if condition then rules else []

/-- One or more of a rule with separators between them. -/
def sepBy (separator : String) (r : R) : R :=
  seq [r, many (seq [token separator, r])]

/-- Any number of a rule with commas between them; one may be left out anywhere. -/
def commaList (r : R) : R :=
  seq [opt r, many (seq [token ",", opt r])]

/-- One of some words. -/
def oneWord (words : List String) : R :=
  choice (words.map keyword)

/-- A word that has its meaning only if the line does not end behind it. -/
def contextual (word : String) : R :=
  seq [keyword word, sameLine]

/-- The end of a statement. -/
def semicolon : R := choice [token ";", .inserted]

/-- A name. -/
def identifier : R :=
  choice [node "undefined" (keyword "undefined"), lexeme .identifier "identifier"]

/-- A name that is read as one whatever it is. -/
def plainName : R := lexeme .identifier "identifier"

/-- A name of a type. -/
def typeName : R := lexeme .identifier "type_identifier"

/-- A name after a dot. -/
def memberName : R :=
  choice [lexeme .word "property_identifier", lexeme .privateName "private_property_identifier"]

/-- A quoted string. -/
def quotedString : R := lexeme .string "string"

/-- The name of a class, a type in typed scripts. -/
def className (d : Dialect) : R := if d.typed then typeName else plainName

/-- A condition in parentheses. -/
def condition : R := seq [token "(", sym .expressions, token ")"]

/-- A value behind an equals sign. -/
def initializer : R := seq [token "=", .field "value" (sym .expression)]

/-- A type behind a colon. -/
def typeAnnotation : R := node "type_annotation" (seq [token ":", sym .type])

/-- A return type behind a colon. -/
def returnAnnotation : R := node "type_annotation" (seq [token ":", sym .returnType])

/-! ## Statements -/

def ifStatement : R :=
  node "if_statement" (seq [keyword "if", condition, sym .statement,
    opt (seq [keyword "else", sym .statement])])

def switchStatement : R :=
  node "switch_statement" (seq [keyword "switch", condition, token "\x7b",
    many (choice [seq [keyword "case", sym .expressions, token ":", many (sym .statement)],
      seq [keyword "default", token ":", many (sym .statement)]]),
    token "\x7d"])

def whileStatement : R :=
  node "while_statement" (seq [keyword "while", condition, sym .statement])

def doStatement : R :=
  node "do_statement" (seq [keyword "do", sym .statement, keyword "while", condition, opt semicolon])

def withStatement : R :=
  node "with_statement" (seq [keyword "with", condition, sym .statement])

def tryStatement (d : Dialect) : R :=
  node "try_statement" (seq [keyword "try", sym .block,
    opt (seq [keyword "catch",
      opt (seq ([token "(", sym .bindingTarget] ++ only d.typed [opt typeAnnotation] ++ [token ")"])),
      sym .block]),
    opt (seq [keyword "finally", sym .block])])

/-- A statement of a word and perhaps something on the same line. -/
def wordStatement (type word : String) (operand : R) : R :=
  node type (seq [keyword word, opt (seq [notAhead .inserted, operand]), semicolon])

def labeledStatement : R :=
  node "labeled_statement" (seq [lexeme .identifier "statement_identifier", token ":", sym .statement])

/-- An expression that no declaration could be, and no block unless it starts with a name and a colon. -/
def expressionStatement : R :=
  node "expression_statement" (seq [
    notAhead (choice [seq [token "\x7b", notAhead (seq [sym .propertyName, token ":"])],
      seq [opt (contextual "async"), keyword "function", opt (token "*"), plainName],
      seq [keyword "class", plainName]]),
    sym .expressions, semicolon])

def statement (d : Dialect) : R :=
  choice [sym .exportStatement, sym .importStatement, sym .declaration, sym .block, ifStatement,
    switchStatement, sym .loop, whileStatement, doStatement, tryStatement d,
    wordStatement "return_statement" "return" (sym .expressions),
    node "throw_statement" (seq [keyword "throw", sym .expressions, semicolon]),
    wordStatement "break_statement" "break" (lexeme .identifier "statement_identifier"),
    wordStatement "continue_statement" "continue" (lexeme .identifier "statement_identifier"),
    node "debugger_statement" (seq [keyword "debugger", semicolon]), withStatement,
    node "empty_statement" (token ";"), labeledStatement, expressionStatement]

/-- A loop over the members of something, then a loop with a counter. -/
def loop : R :=
  choice [
    node "for_in_statement" (seq [keyword "for", opt (keyword "await"), token "(",
      choice [seq [oneWord ["var", "let", "const"], .field "left" (sym .bindingTarget)],
        .field "left" (sym .operand)],
      oneWord ["of", "in"], sym .expressions, token ")", sym .statement]),
    node "for_statement" (seq [keyword "for", token "(",
      choice [sym .bindings, seq [sym .expressions, token ";"], token ";"],
      opt (sym .expressions), token ";", opt (sym .expressions), token ")", sym .statement])]

/-- Declarations of variables; `let` before the end of a line is a name. -/
def bindings : R :=
  choice [
    node "lexical_declaration" (seq [choice [keyword "const", seq [keyword "let", notAhead .inserted]],
      sepBy "," (sym .declarator), semicolon]),
    node "variable_declaration" (seq [keyword "var", sepBy "," (sym .declarator), semicolon])]

def declarator (d : Dialect) : R :=
  node "variable_declarator" (seq ([.field "name" (sym .bindingTarget)] ++
    only d.typed [opt (token "!"), opt typeAnnotation] ++ [opt initializer]))

def declaration (d : Dialect) : R :=
  choice ([sym .function, sym .classDeclaration] ++
    only d.typed [sym .enumeration, sym .interfaceDeclaration, sym .typeAlias, sym .namespaceBlock,
      sym .importAlias, sym .ambient] ++
    [sym .bindings])

/-! ## Imports and exports -/

/-- A name of a module, which may be quoted. -/
def moduleName : R := choice [lexeme .word "identifier", quotedString]

/-- Names in braces with other names for them. -/
def moduleNames (type specifierType : String) (d : Dialect) : R :=
  let renamed := seq [moduleName, opt (seq [keyword "as", moduleName])]
  let ends := choice [token ",", token "\x7d"]
  let specifier := choice
    (only d.typed [seq [oneWord ["type", "typeof"], renamed, ahead ends]] ++ [renamed])
  node type (seq [token "\x7b", commaList (node specifierType specifier), token "\x7d"])

/-- The module that is imported from. -/
def fromModule : R := seq [keyword "from", .field "source" quotedString]

/-- What is asked of a module, on the line of its name. -/
def moduleAttributes : R :=
  seq [notAhead .inserted, oneWord ["with", "assert"], sym .object]

def importClause (d : Dialect) : R :=
  let names := choice [seq [token "*", keyword "as", plainName],
    moduleNames "named_imports" "import_specifier" d]
  node "import_clause" (choice [names, seq [plainName, opt (seq [token ",", names])]])

def importStatement (d : Dialect) : R :=
  let clause := seq [importClause d, fromModule]
  let required := node "import_require_clause" (seq [plainName, token "=", keyword "require",
    token "(", .field "source" quotedString, token ")"])
  node "import_statement" (seq [keyword "import",
    choice ([clause, .field "source" quotedString] ++
      only d.typed [seq [oneWord ["type", "typeof"], choice [clause, required]], required]),
    opt moduleAttributes, semicolon])

/-- A name for something of a namespace. -/
def importAlias : R :=
  node "import_alias" (seq [keyword "import", opt (contextual "type"), plainName, token "=",
    sepBy "." (lexeme .word "identifier"), semicolon])

def exportStatement (d : Dialect) : R :=
  let names := moduleNames "export_clause" "export_specifier" d
  let all := seq [token "*", opt (seq [keyword "as", moduleName]), fromModule]
  let some := seq [names, opt (seq [notAhead .inserted, fromModule])]
  node "export_statement" (choice ([
    seq [many (sym .decorator), keyword "export", choice [
      seq [keyword "default", choice [.field "declaration" (sym .declaration),
        seq [.field "value" (sym .expression), semicolon]]],
      .field "declaration" (sym .declaration)]],
    seq [keyword "export", choice [all, some], opt moduleAttributes, semicolon]] ++
    only d.typed [
      seq [keyword "export", keyword "type", choice [all, some], semicolon],
      seq [keyword "export", sym .importAlias],
      seq [keyword "export", token "=", sym .expression, semicolon],
      seq [keyword "export", keyword "as", keyword "namespace", plainName, semicolon]]))

/-! ## Functions and classes -/

/-- Type parameters, parameters and return type. -/
def signature (d : Dialect) : R :=
  if d.typed then
    seq [opt (sym .typeParameters), .field "parameters" (sym .parameters), opt returnAnnotation]
  else .field "parameters" (sym .parameters)

def body : R := .field "body" (sym .block)

def function (d : Dialect) : R :=
  let async := opt (contextual "async")
  let name := .field "name" plainName
  choice ([
    node "generator_function_declaration" (seq [async, keyword "function", token "*", name,
      sym .signature, body]),
    node "function_declaration" (seq [async, keyword "function", name, sym .signature, body])] ++
    only d.typed [
      node "function_signature" (seq [async, keyword "function", opt (token "*"), name,
        sym .signature, semicolon])])

def functionExpression : R :=
  let async := opt (contextual "async")
  let name := opt (.field "name" plainName)
  choice [
    node "generator_function" (seq [async, keyword "function", token "*", name, sym .signature, body]),
    node "function_expression" (seq [async, keyword "function", name, sym .signature, body])]

/-- What follows the name of a class. -/
def classRest (d : Dialect) : List R :=
  only d.typed [opt (sym .typeParameters)] ++ [opt (sym .heritage), .field "body" (sym .classBody)]

def classDeclaration (d : Dialect) : R :=
  let name := .field "name" (className d)
  choice ([node "class_declaration"
      (seq ([many (sym .decorator), keyword "class", name] ++ classRest d))] ++
    only d.typed [node "abstract_class_declaration"
      (seq ([many (sym .decorator), contextual "abstract", keyword "class", name] ++ classRest d))])

def classExpression (d : Dialect) : R :=
  node "class" (seq ([many (sym .decorator), keyword "class",
    opt (seq [notAhead (keyword "implements"), .field "name" (className d)])] ++ classRest d))

/-- The base of a class, and in typed scripts the interfaces that it implements. -/
def heritage (d : Dialect) : R :=
  if d.typed then
    let bases := node "extends_clause" (seq [keyword "extends",
      sepBy "," (seq [.field "value" (sym .baseOperand), opt (sym .typeArguments)])])
    let interfaces := node "implements_clause" (seq [keyword "implements", sepBy "," (sym .type)])
    node "class_heritage" (choice [seq [bases, opt interfaces], interfaces])
  else node "class_heritage" (seq [keyword "extends", sym .baseOperand])

def classBody : R := node "class_body" (seq [token "\x7b", many (sym .classMember), token "\x7d"])

/-- What the name of a member may start with, or the star of a generator. -/
def memberStart : R :=
  choice [lexeme .word "", quotedString, lexeme .number "", token "[", lexeme .privateName "",
    token "*"]

/-- A word in front of the name of a class member; at the end of a line it is itself a name. -/
def modifier (word : String) : R :=
  seq [keyword word, notAhead .inserted, ahead memberStart]

/-- A word in front of the name of an object member. -/
def objectModifier (word : String) : R :=
  seq [keyword word, ahead memberStart]

/-- The words that make a member an accessor, and the star of a generator. -/
def accessorWord (modifier : String → R) : R :=
  opt (choice [modifier "get", modifier "set", token "*"])

/-- The word for members of the class itself. -/
def staticWord : R := choice [.unnamed .staticGet "static get", modifier "static"]

/-- The words in front of a member of a class in typed scripts. -/
def typedModifiers : R :=
  many (choice [
    node "accessibility_modifier" (choice [modifier "public", modifier "private", modifier "protected"]),
    node "override_modifier" (modifier "override"),
    modifier "static", modifier "readonly", modifier "abstract", modifier "declare",
    modifier "accessor", modifier "async"])

def decorators : R := many (sym .decorator)

def memberNameField : R := .field "name" (sym .propertyName)

/-- A member of a class in plain scripts. -/
def plainMember : List R :=
  [seq [node "method_definition" (seq [decorators, opt staticWord, opt (modifier "async"),
      accessorWord modifier, memberNameField, sym .signature, body]), opt (token ";")],
   seq [node "field_definition" (seq [decorators, opt staticWord, opt (modifier "accessor"),
      .field "property" (sym .propertyName), opt initializer]), semicolon]]

/-- A name in brackets with its type, or a name that runs over a type. -/
def indexKey : R :=
  seq [token "[", choice [seq [lexeme .word "identifier", token ":", sym .type],
    seq [typeName, keyword "in", sym .type, opt (seq [keyword "as", sym .type])]], token "]"]

/-- A member of a class in typed scripts. -/
def typedMember : List R :=
  let ends := choice [semicolon, token ","]
  let mark := opt (choice [token "?", token "!"])
  [seq [node "method_definition" (seq [decorators, typedModifiers, accessorWord modifier,
      memberNameField, opt (token "?"), sym .signature, body]), opt (token ";")],
   seq [node "index_signature" (seq [typedModifiers, indexKey, typeAnnotation]), ends],
   seq [node "method_signature" (seq [decorators, typedModifiers, accessorWord modifier,
      memberNameField, opt (token "?"), sym .signature]), ends],
   seq [node "public_field_definition" (seq [decorators, typedModifiers, memberNameField, mark,
      opt typeAnnotation, opt initializer]), ends]]

def classMember (d : Dialect) : R :=
  choice ([node "class_static_block" (seq [keyword "static", sym .block])] ++
    (if d.typed then typedMember else plainMember) ++ [token ";"])

def decorator (d : Dialect) : R :=
  node "decorator" (seq [token "@", choice [condition,
    seq ([plainName, many (seq [token ".", memberName])] ++
      only d.typed [opt (sym .typeArguments)] ++ [opt (sym .arguments)])]])

def propertyName : R :=
  choice [memberName, quotedString, lexeme .number "number",
    node "computed_property_name" (seq [token "[", sym .expression, token "]"])]

/-! ## Parameters and patterns -/

def parameters : R :=
  node "formal_parameters" (seq [token "(", commaList (sym .parameter), token ")"])

/-- What a word before a parameter must be followed by. -/
def parameterStart : R := choice [lexeme .word "", token "\x7b", token "[", token "..."]

/-- A word in front of a parameter. -/
def parameterModifier (word : String) : R := seq [keyword word, ahead parameterStart]

/-- Decorators, words and the pattern of a parameter in typed scripts. -/
def typedParameterName : R :=
  seq [decorators,
    many (choice [
      node "accessibility_modifier" (choice [parameterModifier "public", parameterModifier "private",
        parameterModifier "protected"]),
      node "override_modifier" (parameterModifier "override"), parameterModifier "readonly"]),
    .field "pattern" (choice [node "this" (keyword "this"), sym .pattern])]

def parameter (d : Dialect) : R :=
  if d.typed then
    choice [
      node "required_parameter" (seq [typedParameterName, notAhead (token "?"), opt typeAnnotation,
        opt initializer]),
      node "optional_parameter" (seq [typedParameterName, token "?", opt typeAnnotation,
        opt initializer])]
  else seq [decorators, sym .patternOrDefault]

def bindingTarget : R :=
  let property := choice [node "rest_pattern" (seq [token "...", sym .pattern]),
    seq [sym .propertyName, token ":", sym .patternOrDefault],
    seq [identifier, opt (seq [token "=", sym .expression])]]
  choice [identifier,
    node "object_pattern" (seq [token "\x7b", commaList property, token "\x7d"]),
    node "array_pattern" (seq [token "[", commaList (sym .patternOrDefault), token "]"])]

def pattern : R :=
  choice [node "rest_pattern" (seq [token "...", sym .pattern]), sym .bindingTarget]

/-- A pattern, as one node with its default if it has one. -/
def patternOrDefault : R :=
  nodeUnlessSingle "assignment_pattern" (seq [sym .pattern, opt (seq [token "=", sym .expression])])

/-! ## Expressions -/

def expressions : R :=
  nodeUnlessSingle "sequence_expression" (sepBy "," (sym .expression))

/-- A `yield` with or without an operand. -/
def yieldExpression : R :=
  node "yield_expression" (seq [keyword "yield", choice [seq [token "*", sym .expression],
    opt (seq [notAhead .inserted, sym .expression])]])

def expression : R :=
  choice [sym .arrow, yieldExpression, nodeUnlessSingle "expression" (sym .chain)]

/-- An expression before the colon of a conditional, in which an arrow function says no return type. -/
def consequent : R :=
  choice [sym .untypedArrow, nodeUnlessSingle "expression" (sym .chain)]

/-- Parameters, an arrow, and a block or an expression. -/
def arrowWith (signature : R) : R :=
  let rest := seq [
    choice [seq [.field "parameter" identifier, token "=>"], seq [signature, token "=>"]],
    choice [body, seq [notAhead (token "\x7b"), .field "body" (sym .expression)]]]
  node "arrow_function" (choice [seq [contextual "async", rest], rest])

def arrow : R := arrowWith (sym .signature)

def untypedArrow : R := arrowWith (.field "parameters" (sym .parameters))

/-- Operands with operators between them. -/
def chain : R := seq [sym .unit, many (sym .operation)]

def operators : List String :=
  ["||", "&&", "??", "|", "^", "&", "==", "!=", "===", "!==", "<", ">", "<=", ">=", "<<", ">>", ">>>",
   "+", "-", "*", "/", "%", "**"]

def assignments : List String :=
  ["=", "+=", "-=", "*=", "/=", "%=", "**=", "<<=", ">>=", ">>>=", "&=", "|=", "^=", "&&=", "||=",
   "??="]

/-- An operator with what follows it. -/
def operation (d : Dialect) : R :=
  choice ([
    seq [choice (operators.map token ++ [keyword "in", keyword "instanceof"]),
      choice [sym .arrow, sym .unit]],
    seq [choice (assignments.map token), sym .expression],
    seq [token "?", sym .expression, token ":", sym .expression]] ++
    only d.typed [
      seq [token "?", sym .consequent, token ":", sym .expression],
      seq [contextual "as", choice [keyword "const", sym .type]],
      seq [contextual "satisfies", sym .type]])

def unaryOperators : List String := ["!", "~", "+", "-", "++", "--"]

/-- An operand with the operators in front of it. -/
def unit (d : Dialect) : R :=
  choice ([
    seq [choice (unaryOperators.map token ++
      ["typeof", "void", "delete", "await"].map keyword), sym .unit],
    seq [keyword "new", notAhead (token "."), sym .unit]] ++
    only (d.typed && !d.elements) [seq [opening "<", sym .type, opening ">", sym .unit]] ++
    [sym .operand])

/-- What may follow the type arguments of an operand that is not called. -/
def typeArgumentsEnd : R :=
  choice ([")", "]", "\x7d", ":", ";", ",", ".", "?.", "=", "==", "===", "!=", "!==", "&&", "||", "??"].map
    token ++ [.atEnd])

/-- An operand with calls, members and the like behind it. -/
def operand (d : Dialect) : R :=
  seq [sym .primary, many (choice ([sym .suffix,
      seq [sameLine, choice [token "++", token "--"]]] ++
    only d.typed [seq [sameLine, token "!"], seq [sym .typeArguments, ahead typeArgumentsEnd]]))]

/-- The operand that a class extends. -/
def baseOperand : R :=
  nodeUnlessSingle "member_expression" (seq [sym .primary, many (sym .suffix)])

/-- A member, a call or a template behind an operand. -/
def suffix (d : Dialect) : R :=
  let index := seq [token "[", sym .expressions, token "]"]
  let typedCall := only d.typed [seq [sym .typeArguments, choice [sym .arguments, sym .template]]]
  choice ([
    seq [token ".", memberName],
    seq [token "?.", choice ([memberName, index, sym .arguments, sym .template] ++ typedCall)],
    index, sym .arguments, sym .template] ++ typedCall)

def arguments : R :=
  node "arguments" (seq [token "(",
    commaList (choice [seq [token "...", sym .expression], sym .expression]), token ")"])

def array : R :=
  node "array" (seq [token "[",
    commaList (choice [seq [token "...", sym .expression], sym .expression]), token "]"])

def object : R :=
  let async := opt (objectModifier "async")
  let method := node "method_definition" (seq [async, accessorWord objectModifier, memberNameField,
    sym .signature, body])
  let property := choice [method,
    node "pair" (seq [.field "key" (sym .propertyName), token ":", .field "value" (sym .expression)]),
    node "spread_element" (seq [token "...", sym .expression]),
    seq [lexeme .identifier "shorthand_property_identifier", opt (seq [token "=", sym .expression])]]
  node "object" (seq [token "\x7b", commaList property, token "\x7d"])

/-- A template with substitutions of a kind. -/
def templateOf (substitution : R) : R :=
  let quote := String.ofList [Char.ofNat 0x60]
  node "template_string" (seq [opening quote,
    many (choice [content .templateText,
      node "template_substitution" (seq [adjacent "$\x7b", substitution, token "\x7d"])]),
    adjacent quote])

/-- A word that is an operand. -/
def wordOperand (word : String) : R := node word (keyword word)

def primary (d : Dialect) : R :=
  choice ([sym .functionExpression, sym .classExpression,
    seq ([token "(", sym .expressions] ++ only d.typed [opt typeAnnotation] ++ [token ")"]),
    sym .array, sym .object, sym .template, quotedString, lexeme .number "number",
    lexeme .regex "regex"] ++
    only d.elements [sym .element] ++
    [wordOperand "this", wordOperand "super", wordOperand "null", wordOperand "true",
     wordOperand "false",
     node "import" (seq [keyword "import", ahead (choice [token "(", token "."])]),
     node "meta_property" (seq [keyword "new", token ".", keyword "target"]),
     lexeme .privateName "private_property_identifier", identifier])

/-! ## Elements -/

/-- The name of an element or of an attribute. -/
def elementName : R :=
  seq [lexeme .elementName "identifier",
    many (seq [choice [token ".", token ":"], lexeme .elementName "identifier"])]

/-- An expression in braces, which may be left out. -/
def elementExpression : R :=
  node "jsx_expression" (seq [token "\x7b",
    opt (choice [seq [token "...", sym .expression], sym .expressions]), token "\x7d"])

def element (d : Dialect) : R :=
  let children := many (sym .elementChild)
  let closing (name : List R) := seq ([opening "<", opening "/"] ++ name ++ [opening ">"])
  node "jsx_element" (seq [opening "<", choice [
    seq [opening ">", children, closing []],
    seq ([elementName] ++ only d.typed [opt (sym .typeArguments)] ++
      [many (sym .elementAttribute), choice [seq [opening "/", opening ">"],
        seq [opening ">", children, closing [elementName]]]])]])

def elementChild : R :=
  choice [content .elementText, elementExpression, seq [notAhead (adjacent "</"), sym .element]]

def elementAttribute : R :=
  choice [elementExpression,
    node "jsx_attribute" (seq [elementName,
      opt (seq [opening "=", choice [lexeme .elementString "string", elementExpression, sym .element]])])]

/-! ## Types -/

/-- What a word before a type must be followed by. -/
def typeStart : R :=
  choice [lexeme .word "", token "(", token "[", token "\x7b", quotedString, lexeme .number ""]

/-- A word in front of a type. -/
def typePrefix (word : String) : R := seq [keyword word, ahead typeStart]

/-- A bar or an ampersand between types. -/
def typeOperator : R := choice [token "|", token "&"]

def type : R :=
  seq [opt typeOperator, sym .typeOperand, many (seq [typeOperator, sym .typeOperand]),
    opt (seq [keyword "extends", sym .type, token "?", sym .type, token ":", sym .type])]

def typeOperand : R :=
  seq [many (choice [typePrefix "keyof", typePrefix "unique", typePrefix "readonly"]), sym .typePrimary,
    many (seq [sameLine, token "[", opt (sym .type), token "]"])]

/-- Reserved words that stand for types. -/
def typeWords : List String := ["null", "this", "true", "false", "void"]

/-- Words that are no names of types. -/
def typeStops : R :=
  oneWord (reservedWords.filter fun w => !typeWords.contains w)

/-- A name with members of it and type arguments. -/
def namedType : R :=
  seq [notAhead typeStops, lexeme .word "type_identifier",
    many (seq [token ".", lexeme .word "type_identifier"]), opt (sym .typeArguments)]

/-- The type of a variable, a member of it, or a module. -/
def queriedType : R :=
  seq [keyword "typeof", choice [
    seq [keyword "import", token "(", sym .type, token ")", many (seq [token ".", memberName])],
    seq [lexeme .word "identifier", many (seq [token ".", memberName])]],
    opt (sym .typeArguments)]

def tupleMember : R :=
  let rest := opt (token "...")
  choice [seq [rest, lexeme .word "identifier", opt (token "?"), token ":", sym .type],
    seq [rest, sym .type, opt (token "?")]]

def typePrimary : R :=
  choice [
    seq [opt (sym .typeParameters), sym .parameters, token "=>", sym .returnType],
    seq [opt (keyword "abstract"), keyword "new", opt (sym .typeParameters), sym .parameters,
      token "=>", sym .type],
    seq [token "(", sym .type, token ")"],
    sym .objectType,
    seq [token "[", commaList tupleMember, token "]"],
    queriedType,
    seq [keyword "infer", typeName,
      opt (seq [keyword "extends", sym .typeOperand, notAhead (token "?")])],
    seq [keyword "import", token "(", sym .type, opt (seq [token ",", sym .object]), token ")",
      many (seq [token ".", memberName]), opt (sym .typeArguments)],
    quotedString, lexeme .number "number", seq [token "-", lexeme .number "number"],
    templateOf (sym .type), namedType]

def typeArguments : R :=
  node "type_arguments" (seq [opening "<", sym .type, many (seq [token ",", sym .type]),
    opt (token ","), opening ">"])

def typeParameters : R :=
  let parameter := seq [many (choice [typePrefix "const", typePrefix "in", typePrefix "out"]),
    lexeme .word "type_identifier", opt (seq [keyword "extends", sym .type]),
    opt (seq [token "=", sym .type])]
  node "type_parameters" (seq [opening "<", parameter, many (seq [token ",", parameter]),
    opt (token ","), opening ">"])

/-- A type or a statement about a parameter. -/
def returnType : R :=
  let subject := choice [keyword "this", lexeme .identifier "identifier"]
  let isOfType := seq [sameLine, keyword "is", sym .type]
  choice [seq [contextual "asserts", subject, opt isOfType], seq [subject, isOfType], sym .type]

/-- The words in front of a member of an object type. -/
def memberTypeModifiers : R :=
  seq [many (oneOf ["public", "private", "protected", "static", "readonly", "override", "async"]),
    opt (oneOf ["get", "set"])]
where
  /-- One of some words in front of a name. -/
  oneOf (words : List String) : R := choice (words.map modifier)

def typeMember : R :=
  let sign := choice [token "-", token "+"]
  let readonly := opt (choice [seq [sign, keyword "readonly"], objectModifier "readonly"])
  choice [
    seq [opt (sym .typeParameters), sym .parameters, opt returnAnnotation],
    seq [opt (objectModifier "abstract"), keyword "new", opt (sym .typeParameters), sym .parameters,
      opt typeAnnotation],
    seq [readonly, indexKey, opt (seq [opt sign, token "?"]), opt typeAnnotation],
    node "method_signature" (seq [memberTypeModifiers, memberNameField, opt (token "?"),
      sym .signature]),
    node "property_signature" (seq [memberTypeModifiers, memberNameField, opt (token "?"),
      opt typeAnnotation])]

def objectType : R :=
  let ends := choice [token ";", token ",", .inserted]
  node "object_type" (seq [token "\x7b", opt (choice [token ",", token ";"]),
    many (seq [sym .typeMember, ends]), token "\x7d"])

/-- A type that an interface extends. -/
def extendedType : R :=
  let name := nodeUnlessSingle "nested_type_identifier" (sepBy "." typeName)
  choice [node "generic_type" (seq [.field "name" name, sym .typeArguments]), name]

def interfaceDeclaration : R :=
  node "interface_declaration" (seq [contextual "interface", .field "name" typeName,
    opt (sym .typeParameters),
    opt (node "extends_type_clause" (seq [keyword "extends",
      sepBy "," (.field "type" (sym .extendedType))])),
    .field "body" (sym .objectType)])

def typeAlias : R :=
  node "type_alias_declaration" (seq [contextual "type", .field "name" typeName,
    opt (sym .typeParameters), token "=", sym .type, semicolon])

def enumeration : R :=
  node "enum_declaration" (seq [opt (keyword "const"), keyword "enum", .field "name" plainName,
    token "\x7b", commaList (seq [sym .propertyName, opt (seq [token "=", sym .expression])]), token "\x7d"])

def namespaceBlock : R :=
  node "module" (seq [choice [contextual "namespace", contextual "module"],
    .field "name" (choice [quotedString,
      nodeUnlessSingle "nested_identifier" (sepBy "." plainName)]),
    opt (.field "body" (sym .block))])

def ambient : R :=
  node "ambient_declaration" (seq [contextual "declare", choice [sym .declaration,
    seq [keyword "global", sym .block]]])

/-- The rule of a symbol in a dialect. -/
def rule (d : Dialect) : Sym → R
  | .program => node "program" (seq [opt (lexeme .hashBang "hash_bang_line"), many (sym .statement), .atEnd])
  | .statement => statement d
  | .block => node "statement_block" (seq [token "\x7b", many (sym .statement), token "\x7d"])
  | .declaration => declaration d
  | .importStatement => importStatement d
  | .exportStatement => exportStatement d
  | .loop => loop
  | .bindings => bindings
  | .declarator => declarator d
  | .function => function d
  | .classDeclaration => classDeclaration d
  | .interfaceDeclaration => interfaceDeclaration
  | .typeAlias => typeAlias
  | .enumeration => enumeration
  | .namespaceBlock => namespaceBlock
  | .ambient => ambient
  | .importAlias => importAlias
  | .classBody => classBody
  | .classMember => classMember d
  | .heritage => heritage d
  | .decorator => decorator d
  | .propertyName => propertyName
  | .parameters => parameters
  | .parameter => parameter d
  | .signature => signature d
  | .pattern => pattern
  | .patternOrDefault => patternOrDefault
  | .bindingTarget => bindingTarget
  | .expressions => expressions
  | .expression => expression
  | .consequent => consequent
  | .arrow => arrow
  | .untypedArrow => untypedArrow
  | .chain => chain
  | .operation => operation d
  | .unit => unit d
  | .operand => operand d
  | .baseOperand => baseOperand
  | .primary => primary d
  | .suffix => suffix d
  | .arguments => arguments
  | .object => object
  | .array => array
  | .template => templateOf (sym .expressions)
  | .functionExpression => functionExpression
  | .classExpression => classExpression d
  | .element => element d
  | .elementChild => elementChild
  | .elementAttribute => elementAttribute
  | .type => type
  | .typeOperand => typeOperand
  | .typePrimary => typePrimary
  | .typeArguments => typeArguments
  | .typeParameters => typeParameters
  | .returnType => returnType
  | .objectType => objectType
  | .typeMember => typeMember
  | .extendedType => extendedType

end Grammar
end CodeBrief.Script
