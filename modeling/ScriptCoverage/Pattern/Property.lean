import ScriptCoverage.Pattern.Syntax
import ScriptCoverage.Unicode.Class
import ScriptCoverage.Unicode.Fold
import ScriptCoverage.Unicode.Segment

/-!
Names of sets of characters: properties, general categories, scripts and editions, by their short and long
names. Case, blanks, hyphens and underscores in a name do not count, and neither does `is` in front of it.
`PropertyQuery.set?` finds the set that a pattern asks for.
-/

namespace ScriptCoverage.Pattern

open Unicode (Category ClusterBreak CodeSet Edition Property Script SentenceBreak WordBreak)

/-- The edition of the standard that patterns go by. -/
def edition : Edition := ⟨16, 0⟩

/-- The letters and digits of a name in lower case, without `is` in front. -/
def looseName (s : List Char) : String :=
  let plain (cs : List Char) : List Char :=
    (cs.filter fun c => c.toNat < 128 && c != ' ' && c != '-' && c != '_').map Char.toLower
  match s with
  | i :: j :: rest =>
    if i.toLower == 'i' && j.toLower == 's' then
      let short := plain rest
      String.ofList (if short == ['c'] then ['i', 's', 'c'] else short)
    else String.ofList (plain s)
  | _ => String.ofList (plain s)

/-! ### Categories -/

def letters : List Category := [.lu, .ll, .lt, .lm, .lo]
def marks : List Category := [.mn, .mc, .me]
def numbers : List Category := [.nd, .nl, .no]
def punctuation : List Category := [.pc, .pd, .ps, .pe, .pi, .pf, .po]
def symbols : List Category := [.sm, .sc, .sk, .so]
def separators : List Category := [.zs, .zl, .zp]
def others : List Category := [.cc, .cf, .co, .cn]

/-- The general categories by their names; halves of characters have a name but no set. -/
def categoryNames : List (List String × List Category) := [
  (["l", "letter"], letters), (["lc", "casedletter"], [.lu, .ll, .lt]),
  (["lu", "uppercaseletter"], [.lu]), (["ll", "lowercaseletter"], [.ll]), (["lt", "titlecaseletter"], [.lt]),
  (["lm", "modifierletter"], [.lm]), (["lo", "otherletter"], [.lo]),
  (["m", "mark", "combiningmark"], marks), (["mn", "nonspacingmark"], [.mn]), (["mc", "spacingmark"], [.mc]),
  (["me", "enclosingmark"], [.me]),
  (["n", "number"], numbers), (["nd", "decimalnumber", "digit"], [.nd]), (["nl", "letternumber"], [.nl]),
  (["no", "othernumber"], [.no]),
  (["p", "punctuation", "punct"], punctuation), (["pc", "connectorpunctuation"], [.pc]),
  (["pd", "dashpunctuation"], [.pd]), (["ps", "openpunctuation"], [.ps]), (["pe", "closepunctuation"], [.pe]),
  (["pi", "initialpunctuation"], [.pi]), (["pf", "finalpunctuation"], [.pf]), (["po", "otherpunctuation"], [.po]),
  (["s", "symbol"], symbols), (["sm", "mathsymbol"], [.sm]), (["sc", "currencysymbol"], [.sc]),
  (["sk", "modifiersymbol"], [.sk]), (["so", "othersymbol"], [.so]),
  (["z", "separator"], separators), (["zs", "spaceseparator"], [.zs]), (["zl", "lineseparator"], [.zl]),
  (["zp", "paragraphseparator"], [.zp]),
  (["c", "other"], others), (["cc", "control", "cntrl"], [.cc]), (["cf", "format"], [.cf]),
  (["co", "privateuse"], [.co]), (["cn", "unassigned"], [.cn])]

/-- What asking for a property comes to. -/
inductive Answer
  | found (s : CodeSet)
  | unknown
  | unknownValue
  deriving DecidableEq, Inhabited, Repr

def Answer.or (a b : Answer) : Answer :=
  match a with
  | unknown => b
  | a => a

/-- The characters of a general category. -/
def categorySet (name : String) : Answer :=
  match name with
  | "any" => .found .all
  | "ascii" => .found (.ofRanges [(0, 127)])
  | "assigned" => .found (Category.setIn edition [.cn]).complement
  | "cs" | "surrogate" => .unknownValue
  | _ =>
    match categoryNames.find? fun e => e.1.contains name with
    | some (_, ks) => .found (Category.setIn edition ks)
    | none => .unknown

/-! ### Scripts -/

/-- Names of scripts that have no characters of their own. -/
def emptyScripts : List String := ["unknown", "zzzz", "katakanaorhiragana", "hrkt"]

def scriptSet (set : Script → CodeSet) (name : String) : Answer :=
  match Script.named? name with
  | some s => .found (set s)
  | none => if emptyScripts.contains name then .unknownValue else .unknown

/-! ### Editions -/

/-- The characters that an edition knows. The edition is written as `3.0` or as `V3_0`. -/
def editionSet (name : String) : Answer :=
  let names (e : Edition) : List String :=
    let plain := toString e.major ++ toString e.minor
    [toString e.major ++ "." ++ toString e.minor, "v" ++ plain]
  match Edition.all.find? fun e => e.le edition && (names e).contains name with
  | some e => .found e.assignedBy
  | none => .unknown

/-! ### Breaks in texts -/

def clusterBreakNames : List (List String × ClusterBreak) := [
  (["cn", "control"], .control), (["cr"], .cr), (["ex", "extend"], .extend), (["l"], .l), (["lf"], .lf), (["lv"], .lv),
  (["lvt"], .lvt), (["pp", "prepend"], .prepend), (["ri", "regionalindicator"], .regionalIndicator),
  (["sm", "spacingmark"], .spacingMark), (["t"], .t), (["v"], .v), (["zwj"], .zwj)]

def wordBreakNames : List (List String × WordBreak) := [
  (["le", "aletter"], .aLetter), (["cr"], .cr), (["dq", "doublequote"], .doubleQuote), (["extend"], .extend),
  (["ex", "extendnumlet"], .extendNumLet), (["fo", "format"], .format), (["hl", "hebrewletter"], .hebrewLetter),
  (["ka", "katakana"], .katakana), (["lf"], .lf), (["ml", "midletter"], .midLetter), (["mn", "midnum"], .midNum),
  (["mb", "midnumlet"], .midNumLet), (["nl", "newline"], .newline), (["nu", "numeric"], .numeric),
  (["ri", "regionalindicator"], .regionalIndicator), (["sq", "singlequote"], .singleQuote),
  (["wsegspace"], .wSegSpace), (["zwj"], .zwj)]

def sentenceBreakNames : List (List String × SentenceBreak) := [
  (["at", "aterm"], .aTerm), (["cl", "close"], .close), (["cr"], .cr), (["ex", "extend"], .extend),
  (["fo", "format"], .format), (["lf"], .lf), (["lo", "lower"], .lower), (["nu", "numeric"], .numeric),
  (["le", "oletter"], .oLetter), (["sc", "scontinue"], .sContinue), (["st", "sterm"], .sTerm), (["se", "sep"], .sep),
  (["sp"], .sp), (["up", "upper"], .upper)]

/-- The characters that a name among others stands for. -/
def breakSet {α : Type} (names : List (List String × α)) (set : α → CodeSet) (name : String) : Answer :=
  match names.find? fun e => e.1.contains name with
  | some (_, v) => .found (set v)
  | none => .unknown

/-! ### Properties -/

/-- The properties that characters have or lack, by their names. -/
def propertyNames : List (List String × Property) := [
  (["asciihexdigit", "ahex"], .asciiHexDigit), (["alphabetic", "alpha"], .alphabetic),
  (["bidicontrol", "bidic"], .bidiControl), (["caseignorable", "ci"], .caseIgnorable), (["cased"], .cased),
  (["changeswhencasefolded", "cwcf"], .changesWhenFolded), (["changeswhencasemapped", "cwcm"], .changesWhenMapped),
  (["changeswhenlowercased", "cwl"], .changesWhenLowered), (["changeswhentitlecased", "cwt"], .changesWhenTitled),
  (["changeswhenuppercased", "cwu"], .changesWhenUppered), (["dash"], .dash),
  (["defaultignorablecodepoint", "di"], .defaultIgnorable), (["deprecated", "dep"], .deprecated),
  (["diacritic", "dia"], .diacritic), (["emoji"], .emoji), (["emojicomponent", "ecomp"], .emojiComponent),
  (["emojimodifier", "emod"], .emojiModifier), (["emojimodifierbase", "ebase"], .emojiModifierBase),
  (["emojipresentation", "epres"], .emojiPresentation),
  (["extendedpictographic", "extpict"], .extendedPictographic), (["extender", "ext"], .extender),
  (["graphemebase", "grbase"], .graphemeBase), (["graphemeextend", "grext"], .graphemeExtend),
  (["graphemelink", "grlink"], .graphemeLink), (["hexdigit", "hex"], .hexDigit), (["hyphen"], .hyphen),
  (["idcompatmathcontinue"], .idCompatMathContinue), (["idcompatmathstart"], .idCompatMathStart),
  (["idcontinue", "idc"], .idContinue), (["idstart", "ids"], .idStart),
  (["idsbinaryoperator", "idsb"], .idsBinaryOperator), (["idstrinaryoperator", "idst"], .idsTrinaryOperator),
  (["idsunaryoperator", "idsu"], .idsUnaryOperator), (["ideographic", "ideo"], .ideographic),
  (["joincontrol", "joinc"], .joinControl), (["logicalorderexception", "loe"], .logicalOrderException),
  (["lowercase", "lower"], .lowercase), (["math"], .math),
  (["modifiercombiningmark", "mcm"], .modifierCombiningMark), (["noncharactercodepoint", "nchar"], .noncharacter),
  (["otheralphabetic", "oalpha"], .otherAlphabetic),
  (["otherdefaultignorablecodepoint", "odi"], .otherDefaultIgnorable),
  (["othergraphemeextend", "ogrext"], .otherGraphemeExtend), (["otheridcontinue", "oidc"], .otherIdContinue),
  (["otheridstart", "oids"], .otherIdStart), (["otherlowercase", "olower"], .otherLowercase),
  (["othermath", "omath"], .otherMath), (["otheruppercase", "oupper"], .otherUppercase),
  (["patternsyntax", "patsyn"], .patternSyntax), (["patternwhitespace", "patws"], .patternWhiteSpace),
  (["prependedconcatenationmark", "pcm"], .prependedConcatenationMark), (["quotationmark", "qmark"], .quotationMark),
  (["radical"], .radical), (["regionalindicator", "ri"], .regionalIndicator),
  (["sentenceterminal", "sterm"], .sentenceTerminal), (["softdotted", "sd"], .softDotted),
  (["terminalpunctuation", "term"], .terminalPunctuation), (["unifiedideograph", "uideo"], .unifiedIdeograph),
  (["uppercase", "upper"], .uppercase), (["variationselector", "vs"], .variationSelector),
  (["whitespace", "wspace", "space"], .whiteSpace), (["xidcontinue", "xidc"], .xidContinue),
  (["xidstart", "xids"], .xidStart)]

/-- Names of properties that have other values than yes and no, or that patterns do not know. -/
def otherPropertyNames : List String := [
  "age", "bc", "bidiclass", "bidim", "bidimirrored", "bidimirroringglyph", "bidipairedbracket",
  "bidipairedbrackettype", "blk", "block", "bmg", "bpb", "bpt", "canonicalcombiningclass", "casefolding", "ccc",
  "ce", "cf", "changeswhennfkccasefolded", "cjkaccountingnumeric", "cjkcompatibilityvariant", "cjkiicore",
  "cjkirggsource", "cjkirghsource", "cjkirgjsource", "cjkirgkpsource", "cjkirgksource", "cjkirgmsource",
  "cjkirgssource", "cjkirgtsource", "cjkirguksource", "cjkirgusource", "cjkirgvsource", "cjkothernumeric",
  "cjkprimarynumeric", "cjkrsunicode", "compex", "compositionexclusion", "cwkcf", "decompositionmapping",
  "decompositiontype", "dm", "dt", "ea", "eastasianwidth", "equideo", "equivalentunifiedideograph",
  "expandsonnfc", "expandsonnfd", "expandsonnfkc", "expandsonnfkd", "fcnfkc", "fcnfkcclosure",
  "fullcompositionexclusion", "gc", "gcb", "generalcategory", "graphemeclusterbreak", "hangulsyllabletype", "hst",
  "incb", "indicconjunctbreak", "indicpositionalcategory", "indicsyllabiccategory", "inpc", "insc", "isc",
  "isocomment", "jamoshortname", "jg", "joininggroup", "joiningtype", "jsn", "jt", "kaccountingnumeric",
  "kcompatibilityvariant", "kehcat", "kehdesc", "kehhg", "kehifao", "kehjsesh", "kehnomirror", "kehnorotate",
  "kiicore", "kirggsource", "kirghsource", "kirgjsource", "kirgkpsource", "kirgksource", "kirgmsource",
  "kirgssource", "kirgtsource", "kirguksource", "kirgusource", "kirgvsource", "kothernumeric", "kprimarynumeric",
  "krsunicode", "lb", "lc", "linebreak", "lowercasemapping", "na", "na1", "name", "namealias", "nfcqc",
  "nfcquickcheck", "nfdqc", "nfdquickcheck", "nfkccasefold", "nfkccf", "nfkcqc", "nfkcquickcheck", "nfkcscf",
  "nfkcsimplecasefold", "nfkdqc", "nfkdquickcheck", "nt", "numerictype", "numericvalue", "nv", "sb", "sc", "scf",
  "script", "scriptextensions", "scx", "sentencebreak", "sfc", "simplecasefolding", "simplelowercasemapping",
  "simpletitlecasemapping", "simpleuppercasemapping", "slc", "stc", "suc", "tc", "titlecasemapping", "uc",
  "unicode1name", "unicoderadicalstroke", "uppercasemapping", "urs", "verticalorientation", "vo", "wb",
  "wordbreak", "xonfc", "xonfd", "xonfkc", "xonfkd"]

/-- The property with a name. -/
def propertyOf? (name : String) : Option Property := (propertyNames.find? fun e => e.1.contains name).map Prod.snd

/-- The characters that a name alone asks for: those of a property, a category or a script. The three names
that belong to a category and to a property mean the category. -/
def namedSet (name : String) : Answer :=
  if name == "cf" || name == "sc" || name == "lc" then categorySet name
  else
    match propertyOf? name with
    | some p => .found (p.setIn edition)
    | none =>
      if otherPropertyNames.contains name then .unknown
      else (categorySet name).or (scriptSet Script.set name)

/-- The characters for which a property has a value. -/
def valuedSet (name value : String) : Answer :=
  let valued (a : Answer) : Answer := a.or .unknownValue
  match name with
  | "gc" | "generalcategory" => valued (categorySet value)
  | "sc" | "script" => valued (scriptSet Script.set value)
  | "scx" | "scriptextensions" => valued (scriptSet Script.extended value)
  | "age" => valued (editionSet value)
  | "gcb" | "graphemeclusterbreak" => valued (breakSet clusterBreakNames (·.setIn edition) value)
  | "wb" | "wordbreak" => valued (breakSet wordBreakNames (·.setIn edition) value)
  | "sb" | "sentencebreak" => valued (breakSet sentenceBreakNames (·.setIn edition) value)
  | _ => if (propertyOf? name).isSome || otherPropertyNames.contains name then .unknownValue else .unknown

/-- The characters that a pattern asks for. -/
def PropertyQuery.answer : PropertyQuery → Answer
  | named name => namedSet (looseName name)
  | valued name value equal =>
    match valuedSet (looseName name) (looseName value) with
    | .found s => .found (if equal then s else s.complement)
    | a => a

/-! ### Sets with letters of their own -/

def digitSet : CodeSet := Category.setIn edition [.nd]

def spaceSet : CodeSet := Property.whiteSpace.setIn edition

/-- Characters of words: letters, marks, digits, connectors and the two joiners. -/
def wordSet : CodeSet :=
  ((Property.alphabetic.setIn edition).union (Category.setIn edition [.mn, .mc, .me, .nd, .pc])).union
    (Property.joinControl.setIn edition)

def asciiDigitSet : CodeSet := .ofRanges [(0x30, 0x39)]

def asciiSpaceSet : CodeSet := .ofRanges [(9, 13), (0x20, 0x20)]

def asciiWordSet : CodeSet := .ofRanges [(0x30, 0x39), (0x41, 0x5a), (0x5f, 0x5f), (0x61, 0x7a)]

def Shorthand.set (ascii : Bool) : Shorthand → CodeSet
  | digit => if ascii then asciiDigitSet else digitSet
  | space => if ascii then asciiSpaceSet else spaceSet
  | word => if ascii then asciiWordSet else wordSet

end ScriptCoverage.Pattern
