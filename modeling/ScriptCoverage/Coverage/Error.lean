import ScriptCoverage.Machine.Conversion

/-!
What can go wrong when modules are instrumented and when statements are recorded.
-/

namespace ScriptCoverage

open Machine (Heap RuntimeError)

inductive CoverageError
  | parse (key : String) (cause : Source.ParseError)
  | generate (key : String) (cause : Source.ParseError)
  | unknownModule (key : String)
  | invalidCall (reason : String)
  | invalidName (name reason : String)
  | nameTaken (name : String)
  | runtime (cause : RuntimeError)
  deriving DecidableEq, Inhabited, Repr

namespace CoverageError

def message (h : Heap) : CoverageError → String
  | parse key cause => "Failed to parse module '" ++ key ++ "': " ++ cause.message
  | generate key cause => "Failed to generate instrumented source for '" ++ key ++ "': " ++ cause.message
  | unknownModule key => "Unknown module '" ++ key ++ "'"
  | invalidCall reason => "Invalid recorder call: " ++ reason
  | invalidName name reason => "Invalid recorder name '" ++ name ++ "': " ++ reason
  | nameTaken name => "Recorder name '" ++ name ++ "' is already bound in the global namespace"
  | runtime cause => cause.message h

/-- The error as one that no script can catch. -/
def toFatal (h : Heap) (e : CoverageError) : RuntimeError := .fatal (e.message h)

end CoverageError

end ScriptCoverage
