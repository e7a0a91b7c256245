import ScriptCoverage.Span
import ScriptCoverage.Text.Json

/-!
Settings of a session, and the ways to come by them: by default, by overriding some, and from JSON. Ranges
are read from JSON here as well.
-/

namespace ScriptCoverage

open Text (Json)

/-- What is to be covered: the modules of a component except those in its dependency directory. Without a
recorder name one is generated. -/
structure Config where
  component : String := ""
  recorderName : Option String := none
  depsDir : String := "deps"
  deriving DecidableEq, Inhabited, Repr

namespace Config

/-- Settings with some of the defaults overridden; an empty dependency directory means the default one. -/
def ofOverrides (component recorderName depsDir : Option String) : Config :=
  { component := component.getD ""
    recorderName
    depsDir := (depsDir.filter (· != "")).getD ({} : Config).depsDir }

/-! ### Reading -/

/-- The fields in the order in which an array lists them. -/
inductive Field
  | component | recorderName | depsDir
  deriving DecidableEq

def Field.ofKey? : String → Option Field
  | "component" => some .component
  | "recorder_name" => some .recorderName
  | "deps_dir" => some .depsDir
  | _ => none

/-- Sets a field to a JSON value. Only the recorder name may be `null`. -/
def set? (c : Config) : Field → Json → Option Config
  | .component, .text (some s) => some { c with component := s }
  | .recorderName, .text (some s) => some { c with recorderName := some s }
  | .recorderName, .null => some { c with recorderName := none }
  | .depsDir, .text (some s) => some { c with depsDir := s }
  | _, _ => none

/-- Reads the entries of an object. No field may occur twice; unknown keys mean nothing. -/
def ofEntries? (seen : List Field) (c : Config) : List (Option String × Json) → Option Config
  | [] => some c
  | (none, _) :: _ => none
  | (some key, v) :: es =>
    match Field.ofKey? key with
    | none => ofEntries? seen c es
    | some f => if f ∈ seen then none else (c.set? f v).bind fun c => ofEntries? (f :: seen) c es

/-- Reads the items of an array, which give the fields in their order; a missing tail keeps the defaults. -/
def ofItems? (c : Config) : List Field → List Json → Option Config
  | _, [] => some c
  | [], _ :: _ => none
  | f :: fs, v :: vs => (c.set? f v).bind fun c => ofItems? c fs vs

/-- The settings that a JSON text spells. -/
def ofJson? (s : String) : Option Config :=
  match Json.parse? s with
  | some (.object es) => ofEntries? [] {} es
  | some (.array vs) => ofItems? {} [.component, .recorderName, .depsDir] vs
  | _ => none

end Config

/-- The range that a JSON text spells: an array of two whole numbers of at most 64 bits. -/
def Span.ofJson? (s : String) : Option Span :=
  match Json.parse? s with
  | some (.array [.number (some start), .number (some stop)]) =>
    if start < Nat.pow 2 64 && stop < Nat.pow 2 64 then some ⟨start, stop⟩ else none
  | _ => none

end ScriptCoverage
