import ScriptCoverage.Unicode.Class

/-!
Cutting texts at characters, and blanks at their ends.
-/

namespace ScriptCoverage.Text

/-! ### Blanks at the ends -/

def trimLeft (cs : List Char) : List Char := cs.dropWhile Unicode.isBlank

def trimRight (cs : List Char) : List Char := (cs.reverse.dropWhile Unicode.isBlank).reverse

/-- A text without the blanks around it. -/
def trim (cs : List Char) : List Char := trimRight (trimLeft cs)

def isBlankText (cs : List Char) : Bool := cs.all Unicode.isBlank

/-! ### Cutting -/

/-- What stands in front of the first `x` and behind it. -/
def cutAt? (x : Char) : List Char → Option (List Char × List Char)
  | [] => none
  | c :: cs => if c = x then some ([], cs) else (cutAt? x cs).map fun (a, b) => (c :: a, b)

/-- What stands in front of the last `x` and behind it. -/
def cutAtLast? (x : Char) (cs : List Char) : Option (List Char × List Char) :=
  (cutAt? x cs.reverse).map fun (b, a) => (a.reverse, b.reverse)

/-- The parts between all `x`, one more than there are of them. -/
def splitAt (x : Char) : List Char → List (List Char)
  | [] => [[]]
  | c :: cs =>
    if c = x then [] :: splitAt x cs
    else match splitAt x cs with
      | p :: ps => (c :: p) :: ps
      | [] => [[c]]

/-- The parts between all occurrences of a text that do not overlap, found from the left. The second argument
counts the characters of an occurrence that are still to be passed over. -/
def splitByFrom (x : List Char) : Nat → List Char → List (List Char)
  | _, [] => [[]]
  | n + 1, _ :: cs => splitByFrom x n cs
  | 0, c :: cs =>
    if x.isPrefixOf (c :: cs) then [] :: splitByFrom x (x.length - 1) cs
    else match splitByFrom x 0 cs with
      | p :: ps => (c :: p) :: ps
      | [] => [[c]]

/-- The parts between all occurrences of a text that is not empty. -/
def splitBy (x cs : List Char) : List (List Char) := splitByFrom x 0 cs

/-- What stands in front of the first occurrence of a text. -/
def before? (x : List Char) : List Char → Option (List Char)
  | [] => if x.isEmpty then some [] else none
  | c :: cs => if x.isPrefixOf (c :: cs) then some [] else (before? x cs).map (c :: ·)

/-- What stands behind a text at the start of another one. -/
def dropStart? : List Char → List Char → Option (List Char)
  | [], cs => some cs
  | _ :: _, [] => none
  | x :: xs, c :: cs => if x = c then dropStart? xs cs else none

end ScriptCoverage.Text
