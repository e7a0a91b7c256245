import ScriptCoverage.Unicode.Property

/-!
Upper and lower case of texts. A sigma at the end of a word has a lower case of its own.
-/

namespace ScriptCoverage.Unicode

/-! ### The final sigma -/

def casedSet : CodeSet := Property.cased.set

def caseIgnorableSet : CodeSet := Property.caseIgnorable.set

/-- Letters that have a case. -/
def isCased (c : Char) : Bool := casedSet.contains c

/-- Characters that the search for a neighbouring cased letter passes over. -/
def isCaseIgnorable (c : Char) : Bool := caseIgnorableSet.contains c

/-- Whether the first character that is not passed over has a case. -/
def meetsCased (cs : List Char) : Bool :=
  match cs.dropWhile isCaseIgnorable with
  | c :: _ => isCased c
  | [] => false

/-! ### Texts -/

/-- Lower case of the rest of a text, given the characters before it, the last one first. -/
def lowerAfter : List Char → List Char → List Char
  | _, [] => []
  | before, c :: cs =>
    (if c.toNat = 0x3a3 then
      [if meetsCased before && !meetsCased cs then Char.ofNat 0x3c2 else Char.ofNat 0x3c3]
    else if c.toNat = 0x130 then ['i', Char.ofNat 0x307]
    else [simpleLower c]) ++ lowerAfter (c :: before) cs

def toLower (s : String) : String := String.ofList (lowerAfter [] s.toList)

def toUpper (s : String) : String := String.ofList (s.toList.flatMap upperOf)

end ScriptCoverage.Unicode
