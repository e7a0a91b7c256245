import ScriptCoverage.Unicode.Property

/-!
Classes of characters: blanks, the characters of names and of words, digits, and the characters that a
quoted text shows as they are.
-/

namespace ScriptCoverage.Unicode

def whiteSpaceSet : CodeSet := Property.whiteSpace.set

/-- Characters with the property White_Space. -/
def isBlank (c : Char) : Bool :=
  if c.toNat < 128 then c == ' ' || (9 ≤ c.toNat && c.toNat ≤ 13) else whiteSpaceSet.contains c

/-- Characters with the property ID_Start. -/
def isIdStart (c : Char) : Bool := if c.toNat < 128 then c.isAlpha else Property.idStartSet.contains c

/-- Characters with the property ID_Continue. -/
def isIdContinue (c : Char) : Bool :=
  if c.toNat < 128 then c.isAlphanum || c == '_' else Property.idContinueSet.contains c

def alphabeticSet : CodeSet := Property.alphabetic.set

/-- Characters with the property Alphabetic. -/
def isAlphabetic (c : Char) : Bool := if c.toNat < 128 then c.isAlpha else alphabeticSet.contains c

/-- Digits and other numbers. -/
def isNumeric (c : Char) : Bool :=
  if c.toNat < 128 then c.isDigit else
    match Category.ofChar c with
    | .nd | .nl | .no => true
    | _ => false

def defaultIgnorableSet : CodeSet := Property.defaultIgnorable.set

/-- Characters that extend the one before them, that have no shape of their own or that may be ignored. -/
def isUnprintable (c : Char) : Bool :=
  if c.toNat < 128 then c.toNat < 32 || c.toNat == 127 else
    match Category.ofChar c with
    | .cc | .cf | .cs | .co | .cn | .zl | .zp | .zs => true
    | _ => Property.graphemeExtendSet.contains c || defaultIgnorableSet.contains c

end ScriptCoverage.Unicode
