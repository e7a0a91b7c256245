/-!
Which modules belong to a component: those whose keys lie below the component, the keys below its
dependency directory excepted.
-/

namespace ScriptCoverage

/-- Whether a key lies below a directory. -/
def isBelow (directory key : String) : Bool := (directory ++ "/").toList.isPrefixOf key.toList

/-- Whether a key is one of a component's own modules. -/
def isSelected (component depsDir key : String) : Bool :=
  isBelow component key && !isBelow (component ++ "/" ++ depsDir) key

/-- The keys of a component's own modules, in their order. -/
def selectKeys (component depsDir : String) (keys : List String) : List String :=
  keys.filter (isSelected component depsDir)

end ScriptCoverage
