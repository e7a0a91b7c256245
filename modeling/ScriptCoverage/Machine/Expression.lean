import ScriptCoverage.Machine.Evaluator
import ScriptCoverage.Text.Quoted

/-!
Expressions. `Evaluator.evalExpr` evaluates one, given an evaluator for its parts.
-/

namespace ScriptCoverage.Machine

open Program (Expr Place Entry)
open Source (UnaryOp UpdateOp BinaryOp LogicalOp AssignOp)

variable {σ : Type}

/-- A short spelling of an expression for messages. -/
def describe : Expr → String
  | .this _ => "this"
  | .place p => describePlace p
  | .call _ f _ => describe f ++ "(...)"
  | _ => "expression"
where
  describePlace : Place → String
    | .name _ name => name
    | .member _ o key => describe o ++ "." ++ key
    | .index _ o (.string _ key) => describe o ++ "[" ++ Text.shown key ++ "]"
    | .index _ o (.number _ x) => describe o ++ "[" ++ numberText x ++ "]"
    | .index _ o _ => describe o ++ "[...]"

/-! ### Operators -/

/-- Whether an operator leaves its right operand alone. -/
def skipsRight (op : LogicalOp) (left : Value) : Bool :=
  match op with
  | .and => !left.isTruthy
  | .or => left.isTruthy
  | .nullish => !left.isNullish

/-- The operator `+` for values that are not on the heap. -/
def Heap.sum (h : Heap) (a b : Value) : Value :=
  match a, b with
  | .string s, b => .string (s ++ h.text b)
  | a, .string t => .string (h.text a ++ t)
  | a, b => .number (h.number a + h.number b)

/-- A power. An exponent that is no number gives none, and neither does an infinite power of one. -/
def power (x y : Float) : Float := if y.isNaN || (x.abs == 1 && y.isInf) then notANumber else x.pow y

/-- A number with a sign and 32 bits as a value. -/
def ofInt32 (n : Int32) : Value := .number (ofWhole n.toInt)

/-- An operator that works on 32 bits. -/
def Heap.onBits (h : Heap) (f : Int32 → Int32 → Int32) (a b : Value) : Value :=
  ofInt32 (f (.ofInt (h.int32 a)) (.ofInt (h.int32 b)))

/-- An operator that computes a number from two. -/
def Heap.onNumbers (h : Heap) (f : Float → Float → Float) (a b : Value) : Value := .number (f (h.number a) (h.number b))

namespace Run

/-- The operator `instanceof`: whether the prototype that a function gives to what it constructs is one of a
value's prototypes. -/
def instanceOf (call : Caller σ) (v constructor : Value) : Run σ Bool := do
  match constructor with
  | .function r =>
    let r ← see fun h => (h.unbound r []).1
    if !v.isObject then return false
    else match ← getProperty call (.function r) "prototype" with
      | .object target => see fun h => (h.chain (h.prototypeOf? v)).contains target
      | _ => refuse .instanceOfNonObject
  | _ => refuse .instanceOfNonFunction

/-- An operator between two values. -/
def binary (call : Caller σ) (a b : Value) : BinaryOp → Run σ Value
  | .add => see fun h => h.sum (h.primitive a) (h.primitive b)
  | .sub => see fun h => h.onNumbers (· - ·) a b
  | .mul => see fun h => h.onNumbers (· * ·) a b
  | .div => see fun h => h.onNumbers (· / ·) a b
  | .mod => see fun h => h.onNumbers remainder a b
  | .exp => see fun h => h.onNumbers power a b
  | .eq => see fun h => .bool (h.looseEquals a b)
  | .ne => see fun h => .bool !(h.looseEquals a b)
  | .eqStrict => return .bool (a.strictEquals b)
  | .neStrict => return .bool !(a.strictEquals b)
  | .lt => see fun h => .bool (h.compare .less a b)
  | .le => see fun h => .bool (h.compare .lessOrEqual a b)
  | .gt => see fun h => .bool (h.compare .greater a b)
  | .ge => see fun h => .bool (h.compare .greaterOrEqual a b)
  | .bitAnd => see fun h => h.onBits (· &&& ·) a b
  | .bitOr => see fun h => h.onBits (· ||| ·) a b
  | .bitXor => see fun h => h.onBits (· ^^^ ·) a b
  | .shl => see fun h => h.onBits (· <<< ·) a b
  | .shr => see fun h => h.onBits (· >>> ·) a b
  | .ushr => see fun h => .number (ofWhole (h.uint32 a >>> (h.uint32 b % 32) : Nat))
  | .in_ => do
    if b.isObject then see fun h => .bool (h.hasProperty b (h.text a))
    else refuse (.inOf (← see (·.text a)) (← see (·.text b)))
  | .instanceOf => do return .bool (← instanceOf call a b)

end Run

namespace Evaluator

variable (ev : Evaluator σ)

/-! ### Places -/

/-- A place whose parts were evaluated. -/
inductive Reference
  | name (name : String)
  | property (object : Value) (key : String)
  deriving DecidableEq, Inhabited, Repr

/-- Evaluates the parts of a place. -/
def reference (scope : Scope) : Place → Run σ Reference
  | .name _ name => return .name name
  | .member _ o key => return .property (← ev.expr scope o) key
  | .index _ o key => do
    let object ← ev.expr scope o
    return .property object (← ev.textOf scope key)

def read (scope : Scope) : Reference → Run σ Value
  | .name name => Run.getName ev.call scope name
  | .property v key => Run.getProperty ev.call v key

def write (scope : Scope) (new : Value) : Reference → Run σ Unit
  | .name name => Run.setName ev.call scope name new
  | .property v key => Run.setProperty ev.call v key new

/-! ### Literals -/

/-- The text of a template: its chunks with the texts of values in between. -/
def templateText (scope : Scope) : List String → List Expr → Run σ String
  | [], _ => return ""
  | q :: _, [] => return q
  | q :: qs, e :: es => do
    let text ← ev.textOf scope e
    return q ++ text ++ (← templateText scope qs es)

def keyText (scope : Scope) : Program.Key → Run σ String
  | .fixed text => return text
  | .computed e => ev.textOf scope e

/-- Adds the entries of a literal to an object. -/
def entries (scope : Scope) (o : Object) : List Entry → Run σ Object
  | [] => return o
  | .mk kind key value :: es => do
    let key ← ev.keyText scope key
    let v ← ev.expr scope value
    let o := match kind with
      | .init => o.set key v
      | .get => o.setAccessor key (some v) none
      | .set => o.setAccessor key none (some v)
    entries scope o es

/-! ### Operators -/

/-- Deletes what a place refers to. Names cannot be deleted. -/
def delete (scope : Scope) : Expr → Run σ Unit
  | .place p@(.member ..) | .place p@(.index ..) => do
    match ← ev.reference scope p with
    | .property v key => Run.deleteProperty v key
    | .name _ => return
  | e => do let _ ← ev.expr scope e

/-- Whether an expression is a name that is bound nowhere. -/
def isUnboundName (m : Machine σ) (scope : Scope) : Expr → Bool
  | .place (.name _ name) => (m.resolve? scope name).isNone
  | _ => false

/-- The operator `typeof`, which takes names that are bound nowhere. -/
def typeOf (scope : Scope) (e : Expr) : Run σ String := do
  if isUnboundName (← get) scope e then return "undefined" else return (← ev.expr scope e).typeName

def unary (scope : Scope) (e : Expr) : UnaryOp → Run σ Value
  | .typeOf => return .string (← ev.typeOf scope e)
  | .delete => do
    ev.delete scope e
    return .bool true
  | .not => return .bool !(← ev.holds scope e)
  | .neg => do
    let v ← ev.expr scope e
    Run.see fun h => .number (-h.number v)
  | .plus => do
    let v ← ev.expr scope e
    Run.see fun h => .number (h.number v)
  | .bitNot => do
    let v ← ev.expr scope e
    Run.see fun h => ofInt32 (~~~ .ofInt (h.int32 v))
  | .void => do
    let _ ← ev.expr scope e
    return .undefined

/-- Adds or takes away one, and gives the number before or after. -/
def update (scope : Scope) (op : UpdateOp) (before : Bool) (p : Place) : Run σ Value := do
  let r ← ev.reference scope p
  let v ← ev.read scope r
  let old ← Run.see (·.number v)
  let new := match op with
    | .increment => old + 1
    | .decrement => old - 1
  ev.write scope (.number new) r
  return .number (if before then new else old)

/-- Assigns to a place. The place is evaluated first, then read if the operator asks for it. -/
def assign (scope : Scope) (p : Place) (value : Expr) (op : AssignOp) : Run σ Value := do
  let r ← ev.reference scope p
  match op with
  | .assign =>
    let v ← ev.expr scope value
    ev.write scope v r
    return v
  | .compound op =>
    let old ← ev.read scope r
    let v ← Run.binary ev.call old (← ev.expr scope value) op
    ev.write scope v r
    return v
  | .logical op =>
    let old ← ev.read scope r
    if skipsRight op old then return old
    else
      let v ← ev.expr scope value
      ev.write scope v r
      return v

/-! ### Calls -/

/-- Evaluates what is called, and the receiver of the call: the object that the function was read from. -/
def callee (scope : Scope) : Expr → Run σ (Value × Value)
  | .place (.member _ o key) => do
    let object ← ev.expr scope o
    return (← Run.getProperty ev.call object key, object)
  | .place (.index _ o key) => do
    let object ← ev.expr scope o
    return (← Run.getProperty ev.call object (← ev.textOf scope key), object)
  -- a name gives no receiver, even if it was found in an object
  | e => return (← ev.expr scope e, .undefined)

/-- Applies `new` to a function. The result of the call counts only if it is an object of some kind. -/
def construct (callee : Value) (args : List Value) : Run σ Value := do
  match callee with
  | .function r =>
    if ← Run.see (·.isConstructor r) then
      let (r, args) ← Run.see (·.unbound r args)
      let proto := match ← Run.getProperty ev.call (.function r) "prototype" with
        | .object proto => proto
        | _ => objectPrototype
      let this ← Run.newObject { proto := some proto }
      let result ← ev.call (.function r) this args
      return if result.isObject then result else this
    else Run.refuse (.notConstructor (← Run.see (·.text callee)))
  | _ => Run.refuse (.notConstructor (← Run.see (·.text callee)))

def isConstructor (h : Heap) : Value → Bool
  | .function r => h.isConstructor r
  | _ => false

/-! ### All expressions -/

/-- The value of the last of several expressions. -/
def sequence (scope : Scope) (last : Value) : List Expr → Run σ Value
  | [] => return last
  | e :: es => do sequence scope (← ev.expr scope e) es

/-- Reads the place that an expression names. -/
def evalPlace (scope : Scope) (p : Place) : Run σ Value := do ev.read scope (← ev.reference scope p)

/-- Evaluates an expression. -/
def evalExpr (scope : Scope) : Expr → Run σ Value
  | .hole => return .undefined
  | .null _ => return .null
  | .bool _ b => return .bool b
  | .number _ x => return .number x
  | .string _ s => return .string s
  | .regex _ pattern flags => Run.newRegex pattern flags
  | .template _ quasis es => return .string (← ev.templateText scope quasis es)
  | .place p => ev.evalPlace scope p
  | .this _ => return (← get).receiver scope
  | .array _ es => do Run.newArray (← ev.values scope es)
  | .object _ es => do Run.newObject (← ev.entries scope { proto := some objectPrototype } es)
  | .function decl => Run.closure scope decl
  | .unary _ op e => ev.unary scope e op
  | .update _ op before p => ev.update scope op before p
  | .binary _ op l r => do
    let left ← ev.expr scope l
    let right ← ev.expr scope r
    Run.binary ev.call left right op
  | .logical _ op l r => do
    let left ← ev.expr scope l
    if skipsRight op left then return left else ev.expr scope r
  | .assign _ op p value => ev.assign scope p value op
  | .conditional _ test consequent alternate => do
    if ← ev.holds scope test then ev.expr scope consequent else ev.expr scope alternate
  | .call _ f es => do
    -- the arguments are evaluated even if there is nothing to call
    let (function, this) ← ev.callee scope f
    let args ← ev.values scope es
    if function.isFunction then ev.call function this args else Run.refuse (.notFunction (describe f))
  | .construct _ f es => do
    let function ← ev.expr scope f
    let args ← ev.values scope es
    if ← Run.see (isConstructor · function) then ev.construct function args
    else Run.refuse (.notConstructor (describe f))
  | .sequence _ es => ev.sequence scope .undefined es

end Evaluator

end ScriptCoverage.Machine
