import ScriptCoverage.Machine.Value
import ScriptCoverage.Table

/-!
Objects: properties in the order in which they came in, and perhaps a prototype, where a search for a
property goes on. A property keeps its place and stays visible or hidden when its content changes.
-/

namespace ScriptCoverage.Machine

/-- What a property holds: a value, or functions that read and write it, either of which may be missing. -/
inductive Property
  | data (value : Value)
  | accessor (get set : Option Value)
  deriving DecidableEq, Inhabited, Repr

/-- The value of a property that holds one. -/
def Property.value? : Property → Option Value
  | data v => some v
  | accessor .. => none

/-- A property, and whether enumerations show it. -/
structure Slot where
  property : Property
  enumerable : Bool
  deriving DecidableEq, Inhabited, Repr

structure Object where
  slots : Table Slot := {}
  proto : Option ObjectRef := none
  deriving DecidableEq, Inhabited, Repr

namespace Object

/-! ### Look-up -/

/-- The object's own property with a key. -/
def property? (o : Object) (key : String) : Option Property := (o.slots.get? key).map Slot.property

/-- The value of the object's own property with a key, if it holds one. -/
def get? (o : Object) (key : String) : Option Value := (o.property? key).bind Property.value?

def contains (o : Object) (key : String) : Bool := o.slots.contains key

def keys (o : Object) : List String := o.slots.keys

/-- The keys that enumerations show. -/
def enumerableKeys (o : Object) : List String := (o.slots.entries.filter (·.2.enumerable)).map Prod.fst

def size (o : Object) : Nat := o.slots.size

/-! ### Change -/

/-- Gives a key a content. Only a new key takes on the visibility that is asked for. -/
def put (o : Object) (key : String) (p : Property) (enumerable : Bool) : Object :=
  { o with slots := o.slots.put key ⟨p, ((o.slots.get? key).map Slot.enumerable).getD enumerable⟩ }

/-- Gives a key a value that enumerations show. -/
def set (o : Object) (key : String) (v : Value) : Object := o.put key (.data v) true

/-- Gives a key a value that enumerations pass over. -/
def setHidden (o : Object) (key : String) (v : Value) : Object := o.put key (.data v) false

/-- Installs halves of an accessor; a half that is not given stays as it was. -/
def setAccessor (o : Object) (key : String) (get set : Option Value) : Object :=
  match o.property? key with
  | some (.accessor oldGet oldSet) => o.put key (.accessor (get.or oldGet) (set.or oldSet)) true
  | _ => o.put key (.accessor get set) true

/-- Takes a property out. -/
def erase (o : Object) (key : String) : Object := { o with slots := o.slots.erase key }

end Object

end ScriptCoverage.Machine
