import ScriptCoverage.Machine.Value
import ScriptCoverage.Source.Error

/-!
What ends a run early. Every error but a fatal one can be caught by a script; `RuntimeError.parts?` says what
the script then sees. A run that is out of fuel, or that its host stopped, has no outcome at all.
-/

namespace ScriptCoverage.Machine

/-- The kinds of errors that have a constructor, the base of the others first. -/
inductive ErrorKind
  | error | typeError | rangeError | referenceError | syntaxError
  deriving DecidableEq, Inhabited, Repr

namespace ErrorKind

def all : List ErrorKind := [error, typeError, rangeError, referenceError, syntaxError]

def name : ErrorKind → String
  | error => "Error"
  | typeError => "TypeError"
  | rangeError => "RangeError"
  | referenceError => "ReferenceError"
  | syntaxError => "SyntaxError"

/-- The kind with a name; what has no kind of its own is a plain error. -/
def ofName (name : String) : ErrorKind := (all.find? (·.name == name)).getD error

end ErrorKind

/-- An operation on a value that is not fit for it. -/
inductive TypeFault
  | notFunction (text : String)
  | notConstructor (text : String)
  | readOf (text key : String)
  | writeOf (text key : String)
  | nullishToObject
  | inOf (key text : String)
  | instanceOfNonFunction
  | instanceOfNonObject
  | argumentList
  | bindNonFunction
  | arrayMethod (name : String)
  | stringMethod
  | regexMethod (name : String)
  | createPrototype
  | functionConstructor
  | requirePath
  | other (message : String)
  deriving DecidableEq, Inhabited, Repr

def TypeFault.message : TypeFault → String
  | .notFunction text => text ++ " is not a function"
  | .notConstructor text => text ++ " is not a constructor"
  | .readOf text key => "Cannot read properties of " ++ text ++ " (reading '" ++ key ++ "')"
  | .writeOf text key => "Cannot set properties of " ++ text ++ " (setting '" ++ key ++ "')"
  | .nullishToObject => "Cannot convert undefined or null to object"
  | .inOf key text => "Cannot use 'in' operator to search for '" ++ key ++ "' in " ++ text
  | .instanceOfNonFunction => "Right-hand side of 'instanceof' is not callable"
  | .instanceOfNonObject => "Function has non-object prototype in instanceof check"
  | .argumentList => "CreateListFromArrayLike called on non-object"
  | .bindNonFunction => "Bind must be called on a function"
  | .arrayMethod name => "Array.prototype." ++ name ++ " called on non-array"
  | .stringMethod => "String.prototype method called on null or undefined"
  | .regexMethod name => "RegExp.prototype." ++ name ++ " called on incompatible receiver"
  | .createPrototype => "Object prototype may only be an Object or null"
  | .functionConstructor => "Function constructor is not supported"
  | .requirePath => "require path must be a string"
  | .other message => message

inductive RuntimeError
  | thrown (value : Value)
  | typeFault (fault : TypeFault)
  | unbound (name : String)
  | stackOverflow
  | moduleNotFound (path requester : String)
  | badSource (key : String) (cause : Source.ParseError)
  | badRegex (pattern message : String)
  | badFactory (reason : String)
  | fatal (message : String)
  deriving DecidableEq, Inhabited, Repr

namespace RuntimeError

/-- Whether a script can catch the error. -/
def isCatchable : RuntimeError → Bool
  | fatal _ => false
  | _ => true

/-- The message of an error that is no thrown value. -/
def fixedMessage : RuntimeError → String
  | thrown _ => ""
  | typeFault f => "TypeError: " ++ f.message
  | unbound name => "ReferenceError: " ++ name ++ " is not defined"
  | stackOverflow => "RangeError: Maximum call stack size exceeded"
  | moduleNotFound path requester => "Cannot find module '" ++ path ++ "' from '" ++ requester ++ "'"
  | badSource key cause => "SyntaxError in " ++ key ++ ": " ++ cause.message
  | badRegex pattern message => "SyntaxError: Invalid regular expression: /" ++ pattern ++ "/: " ++ message
  | badFactory reason => "Invalid factory: " ++ reason
  | fatal message => "Fatal: " ++ message

/-- The kind of error object and the message that a script sees; a thrown value it sees as it is. -/
def parts? (e : RuntimeError) : Option (ErrorKind × String) :=
  match e with
  | thrown _ => none
  | typeFault f => some (.typeError, f.message)
  | unbound name => some (.referenceError, name ++ " is not defined")
  | stackOverflow => some (.rangeError, "Maximum call stack size exceeded")
  | badSource _ cause => some (.syntaxError, cause.message)
  | badRegex pattern message => some (.syntaxError, "Invalid regular expression: /" ++ pattern ++ "/: " ++ message)
  | moduleNotFound .. | badFactory _ | fatal _ => some (.error, e.fixedMessage)

end RuntimeError

/-- What ends a run without a result. A host may stop a run where a statement begins. -/
inductive Interrupt
  | failed (e : RuntimeError)
  | outOfFuel
  | stopped
  deriving DecidableEq, Inhabited, Repr

end ScriptCoverage.Machine
