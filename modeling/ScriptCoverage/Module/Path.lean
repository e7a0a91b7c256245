import ScriptCoverage.Text.Cut

/-!
Paths of modules. A path that starts with `./` or `../` is taken from the directory of the module that asks
for it, any other one from the top. `normalize` walks over the segments of a path, and `candidates` lists the
keys under which a module may be registered, the preferred one first.
-/

namespace ScriptCoverage.Module

open Text

/-- Steps over one segment: nothing and `.` stay, and `..` goes up, if there is a place to go. The place is
a list of segments, the innermost first. -/
def stepSegment (place : List (List Char)) (segment : List Char) : List (List Char) :=
  if segment = [] || segment = ['.'] then place
  else if segment = ['.', '.'] then place.drop 1
  else segment :: place

/-- The place where a directory is. Its segments are taken as they are, the empty ones excepted. -/
def placeOf (dir : List Char) : List (List Char) := ((splitAt '/' dir).filter (!·.isEmpty)).reverse

/-- The text of a place. -/
def placeText (place : List (List Char)) : List Char := ['/'].intercalate place.reverse

/-- Where a path leads from a directory. -/
def normalize (dir path : List Char) : List Char := placeText ((splitAt '/' path).foldl stepSegment (placeOf dir))

def isRelative (path : List Char) : Bool := "./".toList.isPrefixOf path || "../".toList.isPrefixOf path

/-- The directory of a module. -/
def directoryOf (key : List Char) : List Char := ((cutAtLast? '/' key).map Prod.fst).getD []

/-- What a path names before any ending is added, for the module that asks or for none. -/
def basePath (origin : Option String) (path : String) : String :=
  let cs := path.toList
  if isRelative cs then String.ofList (normalize ((origin.map fun k => directoryOf k.toList).getD []) cs)
  else String.ofList ((dropStart? ['/'] cs).getD cs)

/-- The keys that a base path may stand for, the preferred one first. -/
def candidates (base : String) : List String :=
  [base, base ++ ".js", base ++ ".json", base ++ "/index.js", base ++ "/index.json"]

/-- The key of the module that a path names, if one is registered. -/
def resolve? (isRegistered : String → Bool) (origin : Option String) (path : String) : Option String :=
  (candidates (basePath origin path)).find? isRegistered

end ScriptCoverage.Module
