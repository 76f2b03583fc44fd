import ScriptHost.Source.Span
/-!
# Syntax errors

What can be wrong with a source text, as causes, and the wording of each.

- `SyntaxError`: the causes.
- `SyntaxError.message`: the wording of a cause.
- `Issue`: a cause with the text it is found in.
-/

namespace ScriptHost

/-- What is wrong with a source text. -/
inductive SyntaxError where
  -- tokens
  | unexpectedEnd
  | unexpectedChar (c : Char)
  | unterminatedBlockComment
  | unterminatedString
  | unterminatedRegex
  | unterminatedTemplate
  | unterminatedMarkup
  | identAfterNumber
  | badEscape (expected : String)
  | invalidStringEscape
  | invalidUnicodeEscape
  | expectedUnicodeEscape
  | invalidIdentChar
  | escapeInReservedWord (word : String)
  | expectedDigit (radix : Nat)
  | exponentWithoutDigits
  | numericSeparator
  | legacyDecimal
  | legacyOctal
  | octalLiteral
  | legacyComment
  | mergeConflict
  | markupSuggestion (candidates : String)
  | unknownRegexFlags
  | duplicatedRegexFlags (flag : Char)
  -- expectations
  | unexpected (got expected : String)
  | expectedToken (want got : String)
  | expectedSemicolon
  | expectedSemiOrEnd
  | expectedIdent
  | expectedIdentifier
  | expectedExpression
  | expectedType
  | expectedString
  -- names
  | reservedInStrict (word : String)
  | awaitAsIdent
  | evalOrArguments
  | argumentsInClassField
  | argumentsInStrict
  | reservedShorthand
  | reservedWordInImport
  | importBindingIsString (name : String)
  | exportBindingIsString
  -- expressions
  | unaryBeforePow
  | nullishMixed
  | awaitStar
  | awaitInFunction
  | awaitInParams
  | yieldInParams
  | arrowNotAllowed
  | lineBreakBeforeArrow
  | spreadInParens
  | emptyParens
  | notAPattern
  | notAnExpression
  | notSimpleAssign
  | assignTargetNotReference
  | invalidAssignTarget
  | assignProperty
  | restNotLast
  | commaAfterRest
  | taggedInOptionalChain
  | chainAfterNew
  | superCallOptional
  | invalidSuperCall
  | invalidSuper
  | superPrivateName
  | invalidNewTarget
  | deleteIdent
  | deleteNotReference
  | commaInComputedKey
  | trailingCommaInImport
  | nonNullNotAllowed (target : String)
  | typeAnnAfterAssign
  | optionalObjectMember
  | modifierOnAccessor
  -- statements
  | declarationNotAllowed
  | returnNotAllowed
  | breakOutside
  | continueTarget
  | continueLabel
  | breakTarget
  | duplicateLabel (label : String)
  | labelledGeneratorOrAsync
  | multipleDefaults
  | lineBreakInThrow
  | withInStrict
  | withNotSupported
  | constWithoutInit
  | patternWithoutInit
  | emptyDeclarationList
  | trailingComma
  | tooManyLoopVars
  | loopInitializer
  | loopTypeAnn
  | loopPattern
  | awaitForNotOf
  | asyncInForOf
  | usingNotAllowed
  | usingInForIn
  | usingNotEnabled
  | usingPattern
  | usingWithoutInit
  | illegalUseStrict
  -- functions and classes
  | getterParams
  | setterParams
  | restInSetter
  | optionalBindingPattern
  | restOptional
  | restInitializer
  | restParamNotLast
  | optionalWithInit
  | requiredAfterOptional
  | paramPropOutsideConstructor
  | paramPropPattern
  | implementationInAmbient
  | paramInitializer
  | asyncConstructor
  | generatorConstructor
  | accessorConstructor
  | duplicateConstructor
  | fieldNamedConstructor
  | privateConstructor
  | readonlyMethod
  | readonlyAccessor
  | privateNameInInterface
  | accessOnPrivateName
  | modifierBeforePrivateName (modifier : String)
  | modifierOnConstructor (modifier : String)
  | typeParamsOnConstructor
  | typeAnnOnConstructor
  | modifierOrder (first second : String)
  | modifierSeen (modifier : String)
  | modifierConflict (first second : String)
  | modifierNotHere
  | declareOnMember
  | declareInAmbient
  | overrideWithoutExtends
  | abstractOutsideAbstract
  | abstractWithBody
  | abstractWithInit
  | abstractNotHere
  | extendsSeen
  | extendsAfterImplements
  | multipleExtends
  | implementsSeen
  | invalidClassName
  | decoratorsNotHere
  | leadingDecorators
  | decoratorBeforeAndAfterExport
  | decoratorOnExport
  | asyncNotHere
  -- types
  | emptyTypeParams
  | emptyTypeArgs
  | indexSignatureParams
  | accessorsUnavailable
  | dotsWithoutIdent
  | modifierOnTypeParam (modifier : String)
  | varianceNotHere (modifier : String)
  | constTypeParamNotHere (modifier : String)
  | invalidInterfaceName
  | numericEnumMember
  | computedEnumMember
  | lineBreakHere
  -- modules
  | notTopLevel
  | exportNotHere
  | exportDefaultWithoutFrom
  | exportExpectsFrom (name : String)
  | typeOnImportSpecifier
  | typeOnExportSpecifier
  -- markup
  | expectedClosingTag (tag : String)
  | expectedClosingFragment
  | emptyAttribute
  | invalidAttributeValue
deriving BEq, DecidableEq, Repr, Inhabited

/-- The wording of a syntax error. -/
def SyntaxError.message : SyntaxError → String
  | .unexpectedEnd => "Unexpected eof"
  | .unexpectedChar c => "Unexpected character '" ++ c.toString ++ "'"
  | .unterminatedBlockComment => "Unterminated block comment"
  | .unterminatedString => "Unterminated string constant"
  | .unterminatedRegex => "Unterminated regexp literal"
  | .unterminatedTemplate => "Unterminated template"
  | .unterminatedMarkup => "Unterminated JSX contents"
  | .identAfterNumber => "Identifier cannot follow number"
  | .badEscape e => "Bad character escape sequence, expected " ++ e
  | .invalidStringEscape => "Invalid string escape"
  | .invalidUnicodeEscape => "Invalid unicode escape"
  | .expectedUnicodeEscape => "Expected unicode escape"
  | .invalidIdentChar => "Invalid character in identifier"
  | .escapeInReservedWord w => "Unexpected escape sequence in reserved word: " ++ w
  | .expectedDigit r =>
    "A digit expected for a number of radix " ++ toString r
  | .exponentWithoutDigits => "Expected +, - or decimal digit after e"
  | .numericSeparator => "A numeric separator is only allowed between two digits"
  | .legacyDecimal => "Legacy decimal escape is not permitted in strict mode"
  | .legacyOctal => "Legacy octal escape is not permitted in strict mode"
  | .octalLiteral =>
    "Legacy octal literals are not available when targeting ECMAScript 5 and higher"
  | .legacyComment => "Legacy comments cannot be used in module code"
  | .mergeConflict => "Merge conflict marker encountered."
  | .markupSuggestion c => "Unexpected token. Did you mean " ++ c ++ "?"
  | .unknownRegexFlags => "Unknown regular expression flags."
  | .duplicatedRegexFlags f => "Duplicated regular expression flag '" ++ f.toString ++ "'."
  | .unexpected got expected => "Unexpected token `" ++ got ++ "`. Expected " ++ expected
  | .expectedToken want got => "Expected '" ++ want ++ "', got '" ++ got ++ "'"
  | .expectedSemicolon => "Expected a semicolon"
  | .expectedSemiOrEnd => "Expected ';', '\x7d' or <eof>"
  | .expectedIdent => "Expected ident"
  | .expectedIdentifier => "Expected an identifier"
  | .expectedExpression => "Expression expected"
  | .expectedType => "Type expected"
  | .expectedString => "String literal expected"
  | .reservedInStrict w => "`" ++ w ++ "` cannot be used as an identifier in strict mode"
  | .awaitAsIdent => "`await` cannot be used as an identifier in an async context"
  | .evalOrArguments => "'eval' and 'arguments' cannot be used as a binding identifier in strict mode"
  | .argumentsInClassField => "'arguments' is only allowed in functions and class methods"
  | .argumentsInStrict => "Invalid use of 'arguments' in strict mode"
  | .reservedShorthand => "Cannot use a reserved word as a shorthand property"
  | .reservedWordInImport => "cannot import as reserved word"
  | .importBindingIsString n =>
    "A string literal cannot be used as an imported binding.\n- Did you mean `import \x7b \""
      ++ n ++ "\" as foo \x7d`?"
  | .exportBindingIsString =>
    "A string literal cannot be used as an exported binding without `from`."
  | .unaryBeforePow => "'**' cannot be applied to unary/await expression."
  | .nullishMixed =>
    "Nullish coalescing operator(??) requires parens when mixing with logical operators"
  | .awaitStar =>
    "await* has been removed from the async functions proposal. Use Promise.all() instead."
  | .awaitInFunction => "await isn't allowed in non-async function"
  | .awaitInParams => "`await` expressions cannot be used in a parameter initializer"
  | .yieldInParams => "'yield' cannot be used as a parameter within generator"
  | .arrowNotAllowed => "An arrow function is not allowed here"
  | .lineBreakBeforeArrow => "Unexpected line break between arrow head and arrow"
  | .spreadInParens => "Parenthesized expression cannot contain spread operator"
  | .emptyParens => "Parenthesized expression cannot be empty"
  | .notAPattern => "Not a pattern"
  | .notAnExpression => "Not an expression"
  | .notSimpleAssign => "Cannot assign to this"
  | .assignTargetNotReference =>
    "The left-hand side of an assignment expression must be a variable or a property access."
  | .invalidAssignTarget => "Invalid assignment target"
  | .assignProperty => "assignment property is invalid syntax"
  | .restNotLast => "Rest element must be final element"
  | .commaAfterRest => "Trailing comma isn't permitted after a rest element"
  | .taggedInOptionalChain => "Tagged template literal is not allowed in optional chain."
  | .chainAfterNew => "Constructor in/with optional chain is not allowed"
  | .superCallOptional => "Super call cannot be optional"
  | .invalidSuperCall => "Invalid `super()`"
  | .invalidSuper => "Invalid access to super"
  | .superPrivateName => "Index super with private name is not allowed"
  | .invalidNewTarget =>
    "'new.target' is only allowed in the body of a function declaration, function expression, or constructor"
  | .deleteIdent => "'delete' cannot be called on an identifier in strict mode"
  | .deleteNotReference => "The operand of a delete operator must be a property reference."
  | .commaInComputedKey => "A comma expression is not allowed in a computed property name"
  | .trailingCommaInImport => "Trailing comma is disallowed inside import(...) arguments"
  | .nonNullNotAllowed t =>
    "Typescript non-null assertion operator is not allowed with '" ++ t ++ "'"
  | .typeAnnAfterAssign => "Type annotations must come before default assignments"
  | .modifierOnAccessor => "Modifiers cannot be used here."
  | .optionalObjectMember => "An object member cannot be declared optional"
  | .declarationNotAllowed => "Declaration is not allowed"
  | .returnNotAllowed => "Return statement is not allowed here"
  | .breakOutside =>
    "A 'break' statement can only be used within an enclosing iteration or switch statement"
  | .continueTarget =>
    "A 'continue' statement can only jump to a label of an enclosing iteration statement"
  | .continueLabel => "Jump target cannot cross function boundary"
  | .breakTarget => "A 'break' statement can only jump to a label of an enclosing statement"
  | .duplicateLabel l => "Label " ++ l ++ " is already declared"
  | .labelledGeneratorOrAsync => "Generator or async function cannot be labelled"
  | .multipleDefaults => "A switch block cannot have multiple defaults"
  | .lineBreakInThrow => "LineBreak cannot follow 'throw'"
  | .withInStrict => "With statement are not allowed in strict mode"
  | .withNotSupported =>
    "The 'with' statement is not supported. All symbols in a 'with' block will have type 'any'."
  | .constWithoutInit => "'const' declarations must be initialized"
  | .patternWithoutInit => "Destructuring bindings require initializers"
  | .emptyDeclarationList => "Variable declaration list cannot be empty"
  | .trailingComma => "Trailing comma is not allowed"
  | .tooManyLoopVars => "Expected one variable binding"
  | .loopInitializer => "Unexpected initializer in for in/of loop"
  | .loopTypeAnn => "The left-hand side of a 'for...of' statement cannot use a type annotation"
  | .loopPattern => "The left-hand side of a 'for...in' statement cannot be a destructuring pattern"
  | .awaitForNotOf => "for await syntax is valid only for for-of statement"
  | .asyncInForOf => "The left-hand side of a for...of statement may not be `async`"
  | .usingNotAllowed => "Using declaration is not allowed"
  | .usingInForIn => "Using declaration is not allowed in for-in loop"
  | .usingNotEnabled =>
    "Using declaration is not enabled. Set jsc.parser.explicitResourceManagement to true"
  | .usingPattern => "Using declaration only allows identifiers"
  | .usingWithoutInit => "Using declaration requires initializer"
  | .illegalUseStrict =>
    "Illegal 'use strict' directive in function with non-simple parameter list."
  | .getterParams => "A `get` accessor cannot have parameters"
  | .setterParams => "A `set` accessor must have exactly one parameter"
  | .restInSetter => "Rest pattern is not allowed in setter"
  | .optionalBindingPattern =>
    "A binding pattern parameter cannot be optional in an implementation signature."
  | .restOptional => "A rest parameter cannot be optional"
  | .restInitializer => "A rest parameter cannot have an initializer"
  | .restParamNotLast => "A rest parameter must be last in a parameter list"
  | .optionalWithInit => "Parameter cannot have question mark and initializer"
  | .requiredAfterOptional => "A required element cannot follow an optional element."
  | .paramPropOutsideConstructor =>
    "A parameter property is only allowed in a constructor implementation"
  | .paramPropPattern =>
    "Typescript parameter property must be an identifier or assignment pattern"
  | .implementationInAmbient => "An implementation cannot be declared in ambient contexts"
  | .paramInitializer =>
    "A parameter initializer is only allowed in a function or constructor implementation"
  | .asyncConstructor => "Constructor can't be an async function"
  | .generatorConstructor => "Constructor can't be a generator"
  | .accessorConstructor => "Class constructor can't be an accessor"
  | .duplicateConstructor => "A class may only have one constructor"
  | .fieldNamedConstructor => "Classes may not have a non-static field named 'constructor'"
  | .privateConstructor => "Classes can't have a private field named '#constructor'"
  | .readonlyAccessor => "A getter or a setter cannot be readonly"
  | .readonlyMethod => "A method cannot be readonly"
  | .privateNameInInterface => "private names are not allowed in interface"
  | .accessOnPrivateName =>
    "An accessibility modifier cannot be used with a private identifier."
  | .modifierBeforePrivateName m =>
    "'" ++ m ++ "' modifier cannot be used with a private identifier"
  | .modifierOnConstructor m =>
    "'" ++ m ++ "' modifier cannot appear on a constructor declaration"
  | .typeAnnOnConstructor => "Type annotation cannot appear on a constructor declaration."
  | .typeParamsOnConstructor => "Type parameters cannot appear on a constructor declaration"
  | .modifierOrder a b => "'" ++ a ++ "' modifier must precede '" ++ b ++ "' modifier."
  | .modifierConflict a b => "'" ++ a ++ "' modifier cannot be used with '" ++ b ++ "' modifier."
  | .modifierSeen m => "'" ++ m ++ "' modifier already seen."
  | .modifierNotHere => "Modifiers cannot appear here"
  | .declareOnMember => "`declare` modifier cannot appear on class elements of this kind"
  | .declareInAmbient => "`declare` modifier not allowed for code already in an ambient context"
  | .overrideWithoutExtends =>
    "This member cannot have an 'override' modifier because its containing class does not extend another class."
  | .abstractOutsideAbstract => "Abstract methods can only appear within an abstract class."
  | .abstractWithBody => "Abstract method cannot have an implementation."
  | .abstractWithInit => "Abstract property cannot have an initializer."
  | .abstractNotHere =>
    "'abstract' modifier can only appear on a class, method, or property declaration."
  | .extendsSeen => "'extends' clause already seen."
  | .extendsAfterImplements => "'extends' clause must precede 'implements' clause."
  | .multipleExtends => "Classes can only extend a single class"
  | .implementsSeen => "'implements' clause already seen."
  | .invalidClassName => "Invalid class name"
  | .decoratorsNotHere => "Decorators are not valid here."
  | .leadingDecorators => "Leading decorators must be attached to a class declaration"
  | .decoratorBeforeAndAfterExport =>
    "Decorators may not appear after 'export' or 'export default' if they also appear before 'export'."
  | .decoratorOnExport =>
    "Using the export keyword between a decorator and a class is not allowed. Please use `export @dec class` instead."
  | .asyncNotHere => "`async` modifier cannot be used here"
  | .emptyTypeParams => "Type parameter list cannot be empty"
  | .emptyTypeArgs => "Type argument list cannot be empty"
  | .indexSignatureParams => "An index signature must have exactly one parameter"
  | .accessorsUnavailable => "Accessors are only available when targeting ECMAScript 5 and higher"
  | .dotsWithoutIdent => "`...` must be followed by an identifier in declaration contexts"
  | .modifierOnTypeParam m => "'" ++ m ++ "' modifier cannot appear on a type parameter"
  | .varianceNotHere m =>
    "'" ++ m ++ "' modifier can only appear on a type parameter of a class, interface or type alias"
  | .constTypeParamNotHere m =>
    "'" ++ m ++ "' modifier can only appear on a type parameter of a function, method or class"
  | .invalidInterfaceName => "interface name is invalid"
  | .numericEnumMember => "An enum member cannot have a numeric name"
  | .computedEnumMember => "Computed property names are not allowed in enums"
  | .lineBreakHere => "Line break not permitted here"
  | .exportNotHere => "`export` is not allowed here"
  | .notTopLevel => "'import', and 'export' cannot be used outside of module code"
  | .exportDefaultWithoutFrom => "export default statements required from '...';"
  | .exportExpectsFrom n => "`" ++ n ++ "` cannot be used without `from` clause"
  | .typeOnImportSpecifier =>
    "The 'type' modifier cannot be used on a named import when 'import type' is used on its import statement."
  | .typeOnExportSpecifier =>
    "The 'type' modifier cannot be used on a named export when 'export type' is used on its export statement."
  | .expectedClosingTag t => "Expected corresponding JSX closing tag for <" ++ t ++ ">"
  | .expectedClosingFragment => "Expected corresponding JSX closing tag for <>"
  | .emptyAttribute => "JSX attributes must only be assigned a non-empty expression"
  | .invalidAttributeValue =>
    "JSX value should be either an expression or a quoted JSX text"

/-- A syntax error and where it is found. -/
structure Issue where
  span : Span
  error : SyntaxError
deriving BEq, Repr, Inhabited

end ScriptHost
