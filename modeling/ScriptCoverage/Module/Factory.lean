import ScriptCoverage.Module.Dedent
import ScriptCoverage.Program.Lower

/-!
Factories: functions, given as text, that fill in a module when they are called with what the module may
use. `Factory.ofFunctionText` takes a function text apart, and `Factory.ofBody` writes one around a body.
-/

namespace ScriptCoverage.Module

open Text

/-- Why a text is no factory. -/
inductive FactoryFault
  | noBraces
  | noFunction
  | noParameters
  | openParameters
  | textBeforeBody
  | badParameter
  | badName (error : Source.ParseError)
  deriving DecidableEq, Inhabited, Repr

def FactoryFault.message : FactoryFault → String
  | .noBraces => "missing function body braces"
  | .noFunction => "expected 'function'"
  | .noParameters => "expected '(' before parameters"
  | .openParameters => "expected ',' or ')' in parameter list"
  | .textBeforeBody => "unexpected text before function body"
  | .badParameter => "expected parameter name"
  | .badName e => e.message

/-- A function that fills in a module: its parameters, its whole text and the text of its body. -/
structure Factory where
  params : List String
  text : String
  body : String
  deriving DecidableEq, Inhabited, Repr

/-! ### Headers of functions -/

/-- A name that has to be valid. -/
def validName (cs : List Char) : Except FactoryFault String := do
  let name := String.ofList cs
  let _ ← (Source.checkIdentifier name).mapError FactoryFault.badName
  return name

def validParameters : List (List Char) → Except FactoryFault (List String)
  | [] => .ok []
  | p :: ps => do
    let name ← (validName (trim p)).mapError fun _ => .badParameter
    return name :: (← validParameters ps)

/-- The parameters that the text in front of the body of a function declares. -/
def headerParameters (header : List Char) : Except FactoryFault (List String) :=
  match dropStart? "function".toList (trim header) with
  | none => .error .noFunction
  | some rest =>
    if !rest.head?.any (fun c => c = '(' || Unicode.isBlank c) then .error .noFunction
    else match cutAt? '(' rest with
      | none => .error .noParameters
      | some (name, rest) => do
        if !isBlankText name then let _ ← validName (trim name)
        match cutAt? ')' rest with
        | none => .error .openParameters
        | some (list, trailing) =>
          if !isBlankText trailing then .error .textBeforeBody
          else if isBlankText list then .ok []
          else validParameters (splitAt ',' list)

namespace Factory

/-- Takes a function text apart: its body lies between the first opening and the last closing brace. -/
def ofFunctionText (text : String) : Except FactoryFault Factory :=
  match cutBraces? text.toList with
  | none => .error .noBraces
  | some (header, body) => (headerParameters header).map fun params => ⟨params, text, String.ofList body⟩

/-- Parameters that the loader provides, in their order. -/
def loaderParams : List String := ["exports", "require", "module"]

/-- Writes a function around a body, which stands on lines of its own. -/
def ofBody (params : List String) (body : String) : Except FactoryFault Factory := do
  let _ ← params.mapM fun p => validName p.toList
  return ⟨params, "function(" ++ ", ".intercalate params ++ ")\x7b\n" ++ body ++ "\n\x7d", body⟩

/-- The text of the body, moved to the left. -/
def source (f : Factory) : String := functionSource f.text

/-- The program that runs when the factory is called. -/
def compile (f : Factory) : Except Source.ParseError Program := Source.compile f.body

end Factory

end ScriptCoverage.Module
