import ScriptCoverage.Identifier
import ScriptCoverage.Text.Quoted

/-!
What can be wrong with the text of a script, and the message for each case. `SyntaxFault` lists the
rules of the grammar that a text can break; `ParseError` adds the limits of what is read, lowered and
printed.
-/

namespace ScriptCoverage.Source

/-- A rule of the grammar that a text breaks. The first group is about tokens, the last about words
that stand where their statement does not allow them. -/
inductive SyntaxFault
  | unexpectedChar (c : Char)
  | digitExpected (radix : Nat)
  | exponentDigitExpected
  | misplacedSeparator
  | nameAfterNumber
  | legacyOctal
  | legacyDecimal
  | escapeDigitsExpected (wanted : String)
  | escapeExpected
  | unclosedEscape
  | danglingEscape
  | invalidNameChar
  | escapedKeyword (word : String)
  | unterminatedString
  | unterminatedComment
  | unterminatedTemplate
  | unterminatedRegex
  | duplicateRegexFlag (flag : Char)
  | unknownRegexFlags
  | conflictMarker
  | spacedHash
  | expressionExpected
  | expected (wanted got : String)
  | unexpectedEnd
  | unexpected (got wanted : String)
  | nameExpected
  | statementEndExpected
  | semicolonExpected
  | trailingComma
  | optionalMember
  | reservedShorthand
  | invalidAssignment
  | notAssignable
  | notSimple
  | notPattern
  | defaultOutsidePattern
  | restNotLast
  | commaAfterRest
  | restInitializer
  | restParameterNotLast
  | restNotName
  | restInSetter
  | emptyParens
  | spreadInParens
  | newlineBeforeArrow
  | strayArrow
  | unaryBeforePower
  | mixedNullish
  | optionalConstruction
  | optionalTag
  | straySuper
  | straySuperCall
  | optionalSuperCall
  | strayNewTarget
  | strayImport
  | commaInImport
  | importMeta
  | moduleSyntax
  | topLevelAwait
  | awaitInFunction
  | awaitInParameter
  | awaitStar
  | awaitAsName
  | awaitWithoutOf
  | yieldInParameter
  | asyncOf
  | enumAsName
  | argumentsInField
  | strictDirective
  | missingConstValue
  | missingPatternValue
  | severalForBindings
  | initializedForBinding
  | strayBreak
  | strayContinue
  | unknownBreakLabel
  | unknownContinueLabel
  | duplicateLabel (name : String)
  | misplacedDeclaration
  | labeledStrictFunction
  | labeledGenerator
  | newlineAfterThrow
  | secondDefault
  | secondExtends
  | secondConstructor
  | constructorField
  | constructorGenerator
  | asyncConstructor
  | constructorAccessor
  | privateConstructor
  | getterParameters
  | setterParameters
  | tooLong
  deriving DecidableEq, Inhabited, Repr

def radixName : Nat → String
  | 2 => "binary"
  | 8 => "octal"
  | 16 => "hexadecimal"
  | _ => "decimal"

def article (word : String) : String := if word = "octal" then "an" else "a"

/-- A character in single quotes. -/
def quotedChar (c : Char) : String := "'" ++ String.ofList (Text.shownChar c) ++ "'"

def SyntaxFault.message : SyntaxFault → String
  | .unexpectedChar c => "Unexpected character " ++ quotedChar c
  | .digitExpected radix => "Expected " ++ article (radixName radix) ++ " " ++ radixName radix ++ " digit"
  | .exponentDigitExpected => "Expected +, - or decimal digit after e"
  | .misplacedSeparator => "A numeric separator is only allowed between two digits"
  | .nameAfterNumber => "Identifier cannot follow number"
  | .legacyOctal => "Legacy octal escape is not permitted in strict mode"
  | .legacyDecimal => "Legacy decimal escape is not permitted in strict mode"
  | .escapeDigitsExpected wanted => "Bad character escape sequence, expected " ++ wanted
  | .escapeExpected => "Expected unicode escape"
  | .unclosedEscape => "Invalid unicode escape"
  | .danglingEscape => "Invalid string escape"
  | .invalidNameChar => "Invalid character in identifier"
  | .escapedKeyword word => "Unexpected escape sequence in reserved word: " ++ word
  | .unterminatedString => "Unterminated string constant"
  | .unterminatedComment => "Unterminated block comment"
  | .unterminatedTemplate => "Unterminated template"
  | .unterminatedRegex => "Unterminated regexp literal"
  | .duplicateRegexFlag flag => "Duplicated regular expression flag '" ++ flag.toString ++ "'."
  | .unknownRegexFlags => "Unknown regular expression flags."
  | .conflictMarker => "Merge conflict marker encountered."
  | .spacedHash => "Unexpected space between # and identifier"
  | .expressionExpected => "Expression expected"
  | .expected wanted got => "Expected '" ++ wanted ++ "', got '" ++ got ++ "'"
  | .unexpectedEnd => "Unexpected eof"
  | .unexpected got wanted => "Unexpected token \x60" ++ got ++ "\x60. Expected " ++ wanted
  | .nameExpected => "Expected ident"
  | .statementEndExpected => "Expected ';', '\x7d' or <eof>"
  | .semicolonExpected => "Expected a semicolon"
  | .trailingComma => "Trailing comma is not allowed"
  | .optionalMember => "An object member cannot be declared optional"
  | .reservedShorthand => "Cannot use a reserved word as a shorthand property"
  | .invalidAssignment => "Invalid assignment target"
  | .notAssignable =>
    "The left-hand side of an assignment expression must be a variable or a property access."
  | .notSimple => "Cannot assign to this"
  | .notPattern => "Not a pattern"
  | .defaultOutsidePattern => "assignment property is invalid syntax"
  | .restNotLast => "Rest element must be final element"
  | .commaAfterRest => "Trailing comma isn't permitted after a rest element"
  | .restInitializer => "A rest parameter cannot have an initializer"
  | .restParameterNotLast => "A rest parameter must be last in a parameter list"
  | .restNotName => "\x60...\x60 must be followed by an identifier in declaration contexts"
  | .restInSetter => "Rest pattern is not allowed in setter"
  | .emptyParens => "Parenthesized expression cannot be empty"
  | .spreadInParens => "Parenthesized expression cannot contain spread operator"
  | .newlineBeforeArrow => "Unexpected line break between arrow head and arrow"
  | .strayArrow => "An arrow function is not allowed here"
  | .unaryBeforePower => "'**' cannot be applied to unary/await expression."
  | .mixedNullish =>
    "Nullish coalescing operator(??) requires parens when mixing with logical operators"
  | .optionalConstruction => "Constructor in/after an optional chaining is not allowed."
  | .optionalTag => "Tagged template literal is not allowed in optional chain."
  | .straySuper => "Invalid access to super"
  | .straySuperCall => "Invalid \x60super()\x60"
  | .optionalSuperCall => "Super call cannot be optional"
  | .strayNewTarget =>
    "'new.target' is only allowed in the body of a function declaration, function expression, or class."
  | .strayImport => "Import is not allowed here"
  | .commaInImport => "Trailing comma is disallowed inside import(...) arguments"
  | .importMeta => "'import.meta' cannot be used outside of module code."
  | .moduleSyntax => "'import', and 'export' cannot be used outside of module code"
  | .topLevelAwait => "top level await is only allowed in module"
  | .awaitInFunction => "await isn't allowed in non-async function"
  | .awaitInParameter => "\x60await\x60 expressions cannot be used in a parameter initializer."
  | .awaitStar =>
    "\x60await*\x60 has been removed from the async functions proposal. Use Promise.all() instead."
  | .awaitAsName => "\x60await\x60 cannot be used as an identifier in an async context"
  | .awaitWithoutOf => "for await syntax is valid only for for-of statement"
  | .yieldInParameter => "'yield' cannot be used as a parameter within generator"
  | .asyncOf => "The left-hand side of a 'for...of' statement may not be 'async'."
  | .enumAsName => "\x60enum\x60 cannot be used as an identifier in strict mode"
  | .argumentsInField => "'arguments' is only allowed in functions and class methods"
  | .strictDirective => "Illegal 'use strict' directive in function with non-simple parameter list."
  | .missingConstValue => "'const' declarations must be initialized"
  | .missingPatternValue => "Destructuring bindings require initializers"
  | .severalForBindings => "Expected one variable binding"
  | .initializedForBinding => "Unexpected initializer in for in/of loop"
  | .strayBreak =>
    "A 'break' statement can only be used within an enclosing iteration or switch statement"
  | .strayContinue =>
    "A 'continue' statement can only jump to a label of an enclosing iteration statement"
  | .unknownBreakLabel => "A 'break' statement can only jump to a label of an enclosing statement"
  | .unknownContinueLabel => "Jump target cannot cross function boundary"
  | .duplicateLabel name => "Label " ++ name ++ " is already declared"
  | .misplacedDeclaration => "Declaration is not allowed"
  | .labeledStrictFunction => "Function cannot be labelled in strict mode"
  | .labeledGenerator => "Generator or async function cannot be labelled"
  | .newlineAfterThrow => "LineBreak cannot follow 'throw'"
  | .secondDefault => "A switch block cannot have multiple defaults"
  | .secondExtends => "'extends' clause already seen"
  | .secondConstructor => "A class can only have one constructor"
  | .constructorField => "Classes may not have a non-static field named 'constructor'"
  | .constructorGenerator => "A constructor cannot be generator"
  | .asyncConstructor => "A constructor cannot be async"
  | .constructorAccessor => "Class constructor can't be an accessor"
  | .privateConstructor => "Classes can't have a private field named '#constructor'"
  | .getterParameters => "A \x60get\x60 accessor cannot have parameters"
  | .setterParameters => "A \x60set\x60 accessor must have exactly one parameter"
  | .tooLong => "Source is too large"

/-- A broken rule and the byte offset where it is broken. -/
structure Failure where
  fault : SyntaxFault
  offset : Nat
  deriving DecidableEq, Inhabited, Repr

/-- Why a text could not be read, lowered or printed. Offsets count bytes of the text. -/
inductive ParseError
  | invalidIdentifier (name reason : String)
  | syntaxFault (message : String) (offset : Nat)
  | tooDeep (limit offset : Nat)
  | unsupported (construct : String) (offset : Nat)
  | emit (message : String)
  deriving DecidableEq, Inhabited, Repr

namespace ParseError

def ofFailure (f : Failure) : ParseError := .syntaxFault f.fault.message f.offset

def message : ParseError → String
  | .invalidIdentifier name reason => "Invalid identifier '" ++ name ++ "': " ++ reason
  | .syntaxFault message offset => message ++ " at offset " ++ toString offset
  | .tooDeep limit offset => "Nesting deeper than " ++ toString limit ++ " levels at offset " ++ toString offset
  | .unsupported construct offset => "Unsupported " ++ construct ++ " at offset " ++ toString offset
  | .emit message => "Code generation failed: " ++ message

/-- The byte offset that the error points at, if it has one. -/
def offset? : ParseError → Option Nat
  | .invalidIdentifier .. | .emit _ => none
  | .syntaxFault _ offset | .tooDeep _ offset | .unsupported _ offset => some offset

end ParseError

/-- Checks a name and reports its fault as an error of reading. -/
def checkIdentifier (name : String) : Except ParseError Identifier :=
  (Identifier.check name).mapError fun f => .invalidIdentifier name f.message

end ScriptCoverage.Source
