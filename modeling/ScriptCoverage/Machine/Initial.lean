import ScriptCoverage.Machine.State

/-!
The machine before any script has run: the prototypes with their methods, and the global names. The tables say
which function stands where, and `Machine.initial` sets them up.
-/

namespace ScriptCoverage.Machine

/-! ### What there is -/

/-- The methods of the prototypes in the order in which they stand there. -/
def prototypeMethods : List (ObjectRef × List (String × Builtin)) := [
  (objectPrototype, [("hasOwnProperty", .hasOwnProperty), ("toString", .classText), ("valueOf", .receiver)]),
  (functionPrototype, [("call", .call), ("apply", .apply), ("bind", .bind), ("toString", .ownText)]),
  (arrayPrototype, [("push", .array .push), ("pop", .array .pop), ("shift", .array .shift), ("join", .array .join),
    ("toString", .ownText), ("indexOf", .array .indexOf), ("slice", .array .slice), ("concat", .array .concat),
    ("forEach", .array .forEach), ("map", .array .map), ("filter", .array .filter)]),
  (stringPrototype, [("toString", .string .toString), ("charAt", .string .charAt),
    ("charCodeAt", .string .charCodeAt), ("indexOf", .string .indexOf), ("slice", .string .slice),
    ("substring", .string .substring), ("toUpperCase", .string .toUpperCase),
    ("toLowerCase", .string .toLowerCase), ("trim", .string .trim), ("split", .string .split),
    ("replace", .string .replace)]),
  (numberPrototype, [("toString", .numberText), ("toFixed", .fixedText)]),
  (regexPrototype, [("test", .regexTest), ("exec", .regexExec), ("toString", .ownText)]),
  (errorPrototype .error, [("toString", .ownText)])]

/-- A function that makes values of a kind: its name, the prototype of what it makes, what it does, and the
functions that it holds. -/
structure Maker where
  name : String
  proto : ObjectRef
  does : Builtin
  statics : List (String × Builtin) := []

def makers : List Maker := [
  { name := "Object", proto := objectPrototype, does := .makeObject,
    statics := [("keys", .keys), ("create", .create), ("getPrototypeOf", .getPrototypeOf)] },
  { name := "Function", proto := functionPrototype, does := .makeFunction },
  { name := "Array", proto := arrayPrototype, does := .makeArray, statics := [("isArray", .isArray)] },
  { name := "String", proto := stringPrototype, does := .makeString },
  { name := "Number", proto := numberPrototype, does := .makeNumber },
  { name := "RegExp", proto := regexPrototype, does := .makeRegex }] ++
  ErrorKind.all.map fun k => { name := k.name, proto := errorPrototype k, does := .makeError k }

/-- Functions that are global names and nothing else. -/
def conversions : List (String × Builtin) :=
  [("Boolean", .makeBoolean), ("isNaN", .isNaN), ("parseFloat", .parseFloat), ("parseInt", .parseInt)]

/-! ### Setting it up -/

namespace Heap

/-- The prototypes without their methods, each at its place. -/
def prototypes : Array Object :=
  #[({} : Object)] ++ Array.replicate 5 ({ proto := some objectPrototype } : Object) ++
  ErrorKind.all.toArray.map fun k =>
    (({ proto := some (if k = .error then objectPrototype else errorPrototype .error) } : Object).setHidden
      "name" (.string k.name)).setHidden "message" (.string "")

def addBuiltin (h : Heap) (name : String) (b : Builtin) : FunctionRef × Heap :=
  h.addFunction { name, kind := .native (.builtin b) }

def addMethod (proto : ObjectRef) (h : Heap) (m : String × Builtin) : Heap :=
  let (r, h) := h.addBuiltin m.1 m.2
  h.modifyObject proto (·.setHidden m.1 (.function r))

def addStatic (f : FunctionRef) (h : Heap) (m : String × Builtin) : Heap :=
  let (r, h) := h.addBuiltin m.1 m.2
  h.modifyProperties f (·.setHidden m.1 (.function r))

/-- The heap with prototypes and their methods. -/
def initial : Heap := prototypeMethods.foldl (fun h (proto, ms) => ms.foldl (addMethod proto) h) { objects := prototypes }

end Heap

/-- A heap, and global names. -/
structure Globals where
  heap : Heap
  bindings : Table Value := {}

namespace Globals

def bind (g : Globals) (name : String) (v : Value) : Globals := { g with bindings := g.bindings.put name v }

def addFunction (g : Globals) (name : String) (n : Native) : Globals :=
  let (r, heap) := g.heap.addFunction { name, kind := .native n }
  ({ g with heap } : Globals).bind name (.function r)

/-- Adds a function that makes values, with its prototype in front of the functions that it holds. -/
def addMaker (g : Globals) (k : Maker) : Globals :=
  let (r, heap) := g.heap.addBuiltin k.name k.does
  let heap := heap.modifyProperties r (·.setHidden "prototype" (.object k.proto))
  ({ g with heap := k.statics.foldl (Heap.addStatic r) heap } : Globals).bind k.name (.function r)

/-- Adds an object without a prototype that holds the function that logs. -/
def addConsole (g : Globals) : Globals :=
  let (log, heap) := g.heap.addBuiltin "log" .log
  let (r, heap) := heap.addObject (({} : Object).set "log" (.function log))
  ({ g with heap } : Globals).bind "console" (.object r)

/-- The global names from the start. -/
def initial : Globals :=
  let g : Globals := { heap := .initial }
  let g := ((g.bind "undefined" .undefined).bind "NaN" (.number notANumber)).bind "Infinity" (.number infinity)
  let g := makers.foldl addMaker (g.addConsole.addFunction "require" (.require none))
  conversions.foldl (fun g (name, b) => g.addFunction name (.builtin b)) g

end Globals

variable {σ : Type}

/-- The machine before any script has run. -/
def initial (host : σ) : Machine σ :=
  let g := Globals.initial
  { heap := g.heap, frames := #[{ kind := .global, bindings := g.bindings }], host }

/-- A machine with nothing in it, not even global names. -/
def bare (host : σ) : Machine σ := { heap := {}, frames := #[{ kind := .global }], host }

end ScriptCoverage.Machine
