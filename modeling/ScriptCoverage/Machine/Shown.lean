import ScriptCoverage.Machine.Scope
import ScriptCoverage.Text.Quoted

/-!
Debug output: values, properties, functions, frames and machines in a form that shows what they are made of.
-/

namespace ScriptCoverage.Machine

/-! ### Shapes -/

/-- Things between brackets. -/
def shownList (parts : List String) : String := "[" ++ ", ".intercalate parts ++ "]"

/-- Things between braces. -/
def shownMap (parts : List (String × String)) : String :=
  "\x7b" ++ ", ".intercalate (parts.map fun (k, v) => k ++ ": " ++ v) ++ "\x7d"

/-- A record: its name and its fields. -/
def shownRecord (name : String) (fields : List (String × String)) : String :=
  name ++ " \x7b " ++ ", ".intercalate (fields.map fun (k, v) => k ++ ": " ++ v) ++ " \x7d"

def shownBool (b : Bool) : String := if b then "true" else "false"

namespace Heap

/-! ### Values -/

/-- A property, given how values are shown. -/
def shownPropertyBy (value : Value → String) : Property → String
  | .data v => value v
  | .accessor get set =>
    "[" ++ (if get.isSome then "Getter" else "") ++ (if set.isSome then "/Setter" else "") ++ "]"

def shownObjectBy (value : Value → String) (o : Object) : String :=
  shownMap (o.slots.entries.map fun (k, s) => (Text.shown k, shownPropertyBy value s.property))

/-- A value, with objects and arrays opened up to a depth. -/
def shownWithin (h : Heap) : Nat → Value → String
  | _, .undefined => "undefined"
  | _, .null => "null"
  | _, .bool b => shownBool b
  | _, .number x => numberText x
  | _, .string s => Text.shown s
  | _, .function r => "[Function " ++ (h.function r).name ++ "]"
  | _, .regex r => (h.regex r).shown
  | 0, .object _ | 0, .array _ => ""
  | n + 1, .object r => shownObjectBy (shownWithin h n) (h.object r)
  | n + 1, .array r => shownList ((h.array r).toList.map (shownWithin h n))

/-- A value. One that does not contain itself nests no deeper than there are objects and arrays. -/
def shown (h : Heap) (v : Value) : String := h.shownWithin (h.objects.size + h.arrays.size) v

def shownProperty (h : Heap) (p : Property) : String := shownPropertyBy h.shown p

def shownObject (h : Heap) (o : Object) : String := shownObjectBy h.shown o

end Heap

variable {σ : Type}

/-! ### Frames, scopes and functions -/

def shownFrame (m : Machine σ) (r : FrameRef) : String :=
  match (m.frame r).kind with
  | .global => "Global"
  | .function this => "Function(" ++ m.heap.shown this ++ ")"
  | .arrow => "Arrow"
  | .block => "Block"
  | .object v => "With(" ++ m.heap.shown v ++ ")"

/-- A scope: its innermost frame with the names that are bound there in ascending order. -/
def shownScope (m : Machine σ) (scope : Scope) : String :=
  let f := m.frame (scope.head?.getD globalFrame)
  shownRecord "Scope" [("frame", Text.shown f.kind.word), ("bindings", shownList (f.bindings.sortedKeys.map Text.shown)),
    ("has_parent", shownBool (scope.length > 1))]

def shownSpan (s : Span) : String := shownRecord "Span" [("start", toString s.start), ("end", toString s.stop)]

def shownKind (m : Machine σ) : FunctionKind → String
  | .script decl scope =>
    shownRecord "Script" [("params", shownList (decl.params.map fun p => "Identifier(" ++ Text.shown p ++ ")")),
      ("is_arrow", shownBool decl.isArrow), ("span", shownSpan decl.span), ("scope", m.shownScope scope)]
  | .native _ => "Native"
  | .bound target this args =>
    shownRecord "Bound" [("target", m.heap.shown (.function target)), ("this", m.heap.shown this),
      ("args", shownList (args.map m.heap.shown))]

def shownFunction (m : Machine σ) (f : Function) : String :=
  shownRecord "JsFunction" [("name", Text.shown f.name), ("kind", m.shownKind f.kind),
    ("properties", shownRecord "RefCell" [("value", m.heap.shownObject f.properties)])]

/-- The machine as a whole: how many modules are registered and how many are loaded. -/
def shownMachine (m : Machine σ) : String :=
  "Runtime \x7b modules: " ++ toString m.registry.size ++ ", loaded: " ++ toString m.loaded.size ++ ", .. \x7d"

end ScriptCoverage.Machine
