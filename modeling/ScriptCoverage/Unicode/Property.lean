import ScriptCoverage.Unicode.Age
import ScriptCoverage.Unicode.CaseMap
import ScriptCoverage.Unicode.Category

/-!
The properties that a character has or lacks, each with the set of its characters. Those that the standard
lists are tables; the others are put together from categories, case mappings and listed ones, by the
standard's own definitions. `Property.setIn` is the set as an earlier edition had it.
-/

namespace ScriptCoverage.Unicode

inductive Property
  | alphabetic | asciiHexDigit | bidiControl | cased | caseIgnorable | changesWhenFolded
  | changesWhenLowered | changesWhenMapped | changesWhenTitled | changesWhenUppered | dash
  | defaultIgnorable | deprecated | diacritic | emoji | emojiComponent | emojiModifier
  | emojiModifierBase | emojiPresentation | extendedPictographic | extender | graphemeBase
  | graphemeExtend | graphemeLink | hexDigit | hyphen | idCompatMathContinue | idCompatMathStart
  | idContinue | ideographic | idsBinaryOperator | idStart | idsTrinaryOperator | idsUnaryOperator
  | joinControl | logicalOrderException | lowercase | math | modifierCombiningMark | noncharacter
  | otherAlphabetic | otherDefaultIgnorable | otherGraphemeExtend | otherIdContinue | otherIdStart
  | otherLowercase | otherMath | otherUppercase | patternSyntax | patternWhiteSpace
  | prependedConcatenationMark | quotationMark | radical | regionalIndicator | sentenceTerminal
  | softDotted | terminalPunctuation | unifiedIdeograph | uppercase | variationSelector
  | whiteSpace | xidContinue | xidStart
  deriving DecidableEq, Inhabited, Repr

namespace Property

/-! ### Sets of categories -/

def letters : CodeSet := Category.setOf Category.isLetter

def letterNumbers : CodeSet := Category.setOf (· == .nl)

def marks : CodeSet := Category.setOf Category.isMark

/-- Marks of one position, digits and connectors. -/
def idExtras : CodeSet := Category.setOf fun k => k == .mn || k == .mc || k == .nd || k == .pc

/-! ### Listed properties -/

/-- Starts of names that a normal form may take apart into characters that cannot start a name. -/
def unstableStarts : CodeSet := .ofRanges [
  (0x37a, 0x37a), (0xe33, 0xe33), (0xeb3, 0xeb3), (0x309b, 0x309c), (0xfc5e, 0xfc63), (0xfdfa, 0xfdfb),
  (0xfe70, 0xfe70), (0xfe72, 0xfe72), (0xfe74, 0xfe74), (0xfe76, 0xfe76), (0xfe78, 0xfe78), (0xfe7a, 0xfe7a),
  (0xfe7c, 0xfe7c), (0xfe7e, 0xfe7e), (0xff9e, 0xff9f)]

/-- Parts of names that a normal form may take apart into characters that names cannot hold. -/
def unstableParts : CodeSet :=
  unstableStarts.diff (.ofRanges [(0xe33, 0xe33), (0xeb3, 0xeb3), (0xff9e, 0xff9f)])

/-- The punctuation inside words. -/
def wordPunctuation : CodeSet := .ofRanges [
  (0x27, 0x27), (0x2e, 0x2e), (0x3a, 0x3a), (0xb7, 0xb7), (0x387, 0x387), (0x55f, 0x55f), (0x5f4, 0x5f4),
  (0x2018, 0x2019), (0x2024, 0x2024), (0x2027, 0x2027), (0xfe13, 0xfe13), (0xfe52, 0xfe52), (0xfe55, 0xfe55),
  (0xff07, 0xff07), (0xff0e, 0xff0e), (0xff1a, 0xff1a)]

/-- The characters that a listed property has. -/
def listed : Property → CodeSet
  | asciiHexDigit => .ofRanges [(0x30, 0x39), (0x41, 0x46), (0x61, 0x66)]
  | hexDigit => .ofRanges [(0x30, 0x39), (0x41, 0x46), (0x61, 0x66), (0xff10, 0xff19), (0xff21, 0xff26), (0xff41, 0xff46)]
  | idsBinaryOperator => .ofRanges [(0x2ff0, 0x2ff1), (0x2ff4, 0x2ffd), (0x31ef, 0x31ef)]
  | idsTrinaryOperator => .ofRanges [(0x2ff2, 0x2ff3)]
  | idsUnaryOperator => .ofRanges [(0x2ffe, 0x2fff)]
  | joinControl => .ofRanges [(0x200c, 0x200d)]
  | regionalIndicator => .ofRanges [(0x1f1e6, 0x1f1ff)]
  | whiteSpace => .ofRanges [
    (9, 13), (0x20, 0x20), (0x85, 0x85), (0xa0, 0xa0), (0x1680, 0x1680), (0x2000, 0x200a), (0x2028, 0x2029),
    (0x202f, 0x202f), (0x205f, 0x205f), (0x3000, 0x3000)]
  | bidiControl => .unpack ["N61cYN19f1Y2N1aY5N37Y4"]
  | changesWhenFolded => .unpack [
    "N41Y1aN5aYNaY17NY8N20YNYNYNYNYNYNYNYNYNYNYNYNYNYNYNYNYNYNYNYNYNYNYNYNYNYNYNYN2YNYNYNYNYNYNYNYNY",
    "2NYNYNYNYNYNYNYNYNYNYNYNYNYNYNYNYNYNYNYNYNYNYNY2NYNYNYNY2NYNY2NY3N2Y4NY2NY3N3Y2NY2NYNYNY2NYN2YN",
    "Y2NY3NYNY2N3YN7Y2NY2NY2NYNYNYNYNYNYNYNYN2YNYNYNYNYNYNYNYNYN2Y2NYNY3NYNYNYNYNYNYNYNYNYNYNYNYNYNY",
    "NYNYNYNYNYNYNYNYNYNYNYNYNYNYNYN7Y2NY2N2YNY4NYNYNYNYNf6YN2aYNYN3YN8YN6YNY3NYNY2NY11NY9N16YNcY3N3",
    "Y2NYNYNYNYNYNYNYNYNYNYNYNYNY2N2Y2NYNY2N2Y33N30YNYNYNYNYNYNYNYNYNYNYNYNYNYNYNYNYN9YNYNYNYNYNYNYN",
    "YNYNYNYNYNYNYNYNYNYNYNYNYNYNYNYNYNYNYNYNY2NYNYNYNYNYNYN2YNYNYNYNYNYNYNYNYNYNYNYNYNYNYNYNYNYNYNY",
    "NYNYNYNYNYNYNYNYNYNYNYNYNYNYNYNYNYNYNYNYNYNYNYNYNYNYNYNYN2Y26N30YNb18Y26NYN5YN32aY6N882YaN6Y2bN",
    "2Y3N140YNYNYNYNYNYNYNYNYNYNYNYNYNYNYNYNYNYNYNYNYNYNYNYNYNYNYNYNYNYNYNYNYNYNYNYNYNYNYNYNYNYNYNYN",
    "YNYNYNYNYNYNYNYNYNYNYNYNYNYNYNYNYNYNYNYNYNYNYNYNYNYNYNYNYNYNYN5Y2N2YNYNYNYNYNYNYNYNYNYNYNYNYNYN",
    "YNYNYNYNYNYNYNYNYNYNYNYNYNYNYNYNYNYNYNYNYNYNYNYNYNYNYNYNYNYNYNYNYNYNYN9Y8N8Y6NaY8N8Y8N8Y6NbYNYN",
    "YNYN8Y8N10Y30N2Y3N2Y6N5Y3N2Y6NbY4NcY5N5Y3N2Y6N129YN3Y2N6YN2dY10N13YN332Y1aN730Y30N30YNY3N2YNYNY",
    "NY4NYN2YN8Y3NYNYNYNYNYNYNYNYNYNYNYNYNYNYNYNYNYNYNYNYNYNYNYNYNYNYNYNYNYNYNYNYNYNYNYNYNYNYNYNYNYN",
    "YNYNYNYNYNYNYNYN8YNYN4YN794dYNYNYNYNYNYNYNYNYNYNYNYNYNYNYNYNYNYNYNYNYNYNYN13YNYNYNYNYNYNYNYNYNY",
    "NYNYNYNYN87YNYNYNYNYNYNYN3YNYNYNYNYNYNYNYNYNYNYNYNYNYNYNYNYNYNYNYNYNYNYNYNYNYNYNYNYNYNYNaYNYNY2",
    "NYNYNYNYN4YNYN2YNYN3YNYNYNYNYNYNYNYNYNYNY5NY5NYNYNYNYNYNYNYNY4NYNY2NYNYNYNYNYNYNYNYN18YN37aY50N",
    "4f40Y7NcY5N409Y1aN4c5Y28N88Y24N9cYbNYfNY7NY2N6eaY33N9dY16Nb3aY20N5580Y20N40Y19N7a47Y22"]
  | changesWhenTitled => .unpack [
    "N61Y1aN3aYN29Y18NY8NYNYNYNYNYNYNYNYNYNYNYNYNYNYNYNYNYNYNYNYNYNYNYNYNYNYNYNYN2YNYNYNYNYNYNYNY2NY",
    "NYNYNYNYNYNYNYNYNYNYNYNYNYNYNYNYNYNYNYNYNYNYN2YNYNY3N2YNYN2YN3YN5YN2YN3Y3N2YN2YNYNYN2YN4YN2YN3Y",
    "NYN2YN3YNYN4YNY2NY2NYNYNYNYNYNYNYNYNY2NYNYNYNYNYNYNYNYNY3NYNYN3YNYNYNYNYNYNYNYNYNYNYNYNYNYNYNYN",
    "YNYNYNYN3YNYNYNYNYNYNYNYNYN8YN2Y2NYN4YNYNYNYNY6NY2NYNY2N3Y2NY4NY5N2YNY2N2YN7YN2YNY2N3Y6N5YNaY2N",
    "a6YN2bYNYN3YN3Y3N12YN1bY23NY2N3Y3NYNYNYNYNYNYNYNYNYNYNYNY5NYN2YN2YN34Y30NYNYNYNYNYNYNYNYNYNYNYN",
    "YNYNYNYNYNYN9YNYNYNYNYNYNYNYNYNYNYNYNYNYNYNYNYNYNYNYNYNYNYNYNYNYNYN2YNYNYNYNYNYNY2NYNYNYNYNYNYN",
    "YNYNYNYNYNYNYNYNYNYNYNYNYNYNYNYNYNYNYNYNYNYNYNYNYNYNYNYNYNYNYNYNYNYNYNYNYNYNYNYNYNYN31Y27Ne70Y6",
    "N882Y9NYNeeYN3YN10YN72YNYNYNYNYNYNYNYNYNYNYNYNYNYNYNYNYNYNYNYNYNYNYNYNYNYNYNYNYNYNYNYNYNYNYNYNY",
    "NYNYNYNYNYNYNYNYNYNYNYNYNYNYNYNYNYNYNYNYNYNYNYNYNYNYNYNYNYNYNYNYNYNYNYNYNYNY7N5YNYNYNYNYNYNYNYN",
    "YNYNYNYNYNYNYNYNYNYNYNYNYNYNYNYNYNYNYNYNYNYNYNYNYNYNYNYNYNYNYNYNYNYNYNYNYNYNYNY9N8Y6NaY8N8Y8N8Y",
    "6NaY8N8Y8N8YeN2Y8N8Y8N8Y8N8Y5NY2N6YN3Y3NY2N8Y4N2Y2N8Y8NaY3NY2N156YN21Y10N4YN34bY1aN746Y30NYN3Y2",
    "NYNYNYN6YN2YNaYNYNYNYNYNYNYNYNYNYNYNYNYNYNYNYNYNYNYNYNYNYNYNYNYNYNYNYNYNYNYNYNYNYNYNYNYNYNYNYNY",
    "NYNYNYNYNYNYNYNYNYN8YNYN4YNcY26NYN5YN7913YNYNYNYNYNYNYNYNYNYNYNYNYNYNYNYNYNYNYNYNYNYNYN13YNYNYN",
    "YNYNYNYNYNYNYNYNYNYNYN87YNYNYNYNYNYNYN3YNYNYNYNYNYNYNYNYNYNYNYNYNYNYNYNYNYNYNYNYNYNYNYNYNYNYNYN",
    "YNYNYNaYNYN2YNYNYNYNYN4YN4YNY2N2YNYNYNYNYNYNYNYNYNYNbYNYNYNYNYNYNYNYN4YNYN2YNYNYNYNYNYNYNYN1aYN",
    "35cYN1cY50N4f40Y7NcY5N429Y1aN4cdY28N88Y24N9bYbNYfNY7NY2N703Y33N7dY16Nb3aY20N5580Y20N3bY19N7a4eY",
    "22"]
  | dash => .unpack [
    "N2dYN55cYN33YNe41YN405YN809Y6N3dYN27YNfYN186YNc04YN2YN1fY2N4YN1cYN1beYN13YN6fYNcd90Y2N25YNaYNa9",
    "YNe60YN13eY"]
  | deprecated => .unpack ["N149YN529YN903YNYN829Y2N8c5Y6N2b9Y2Nddcd6Y"]
  | diacritic => .unpack [
    "N5eYNYN47YN6YN4YN2Y2N1f7Y9fNY8N5Y6N11Y2N4YN9Y2NfdY5Nd1YN37Y2dNYNY2NY2NYN83Y8N4Y2N86Y2N4Y2N3Y3N4",
    "3Y1bN5bYbN3aYbN22Y2N7eY8N29YaN10Y1cN3dYN10YN3Y4N1cYN4aYN10YN6eYN10YN6eYN10YN2fY3N3cYN10YN7YN77Y",
    "N6eYN10YN6eYN10YN6dY2N10YN7cYN6fYNcY6NYN6bYNdY5N4bY2N1bYNYNYN4Y2N42Y3NY2N3eYN70YNY2N28Y2N4Y5N19",
    "Y7NYNaY2N2c1Y3N3b4Y2N1eYN94YbN9YN15bY3N124YN14Y8N2YN30YfN2YbN3YfN2YcN48YNfYN26Y9N36Y2N3aYNbY2N4",
    "2Y2N40Y6N52Y19N4YN6YN2Y3N32Y3fN30Y24N5YcN25YbN1bdYNY3NbY3NdY3NdY3NdY2Ncf0Y3N13dYN1faY6N69Y4N5fY",
    "N7572YNcY2NYN1cY2N52Y2NeY22N66Y3N66YN6Y2NcYN25YN97YN1bY12N39Y4N24YN5fYNcYN24YN95Y3N41Y4N33YN64Y",
    "5N9Y3N80Y2N4f30YN301Y10N10eYNYN2fYN2dY2N43YN2fcYN49fY6NY2aNY9N27dY3N4YNa5Y2N23bY6N26YN1aY5N18cY",
    "N2Y3N46YbN31Y4Nc0YN29YN48Y2N78Y2N3eYN4cYN9Y3N68Y2Nb2Y2N50Y2N10YN18Y7N3Y5N59Y3NY2NdY2N5fYN3YN7bY",
    "2NfbY2N7eYN76Y2N73YN10dY2N102Y2N4YN9cYN53YN12YN51YN1a5YN102YNY2N51YN41YN167Y2N17YN14ecYfN2cd9YN",
    "9c0Y5N3bY7N234Y2N222Y11N50Y2N3ffeY4NY7NY2N1f01Y2eN2Y17N220Y3N3Y6N8Y8N2Y7N1eY4Ne82Y3eNc2Y7N177YN",
    "3dY4N2feY2N2e0Y7N6dY3NY3"]
  | emoji => .unpack [
    "N23YN6YN5YaN6fYN4YN1f8dYNcYNd8YN16YN5aY6NfY2N16fY2NcYNa6YN19YbN4Y3Nc7YNe7Y2NaYN9YN3aY4NY5N9YN2Y",
    "N2Y2N2YN4YN2YNY2N2YN3YN3Y2N8Y3N5YNYN5YcNbY2N2YNY2NYN12YN2Y2N12Y6NYNY2N3Y2N5YN2Y2N4Y2NbY2N5Y2N2Y",
    "N5Y2NYNY2N14Y2N5Y6NY4N2YN4YN2YN2Y6NYN2YNYNYN6YN3YN6YNaY2NfYN2YN4YNYN4Y3NYNbY2N30Y3N9YNeYNeYN174",
    "Y2N1cfY3N13Y2N33YN4YN4daYNcYN259YNYN1bd6aYNcaYNa0Y2NcY2NeYN2YaN4bY1aNY2N17YN14YN2Y9N15Y2NaeY22N",
    "2Y70N2Y2NY3N2Y53N2Y3NY107NY3fNbY6NY18N7Y2N2Y8NcYN2Y4N2YN4Y2NdY2N2YN8Y2N9YN5Y3NcY3N8Y3N2YNYN4YN6",
    "YN3YN6Y56N30Y46N5Y8N2Y4N3YaN3YNY2N3YN2YaNe3YcN4YN11bY2fNYaNYb9N70YdN3YbN3Y39NYN4Y10N2YcN4Ya"]
  | emojiComponent => .unpack ["N23YN6YN5YaN1fd3YNd5YNdd2bYNf3d6Y1aN1fbY5N5b0Y4Nc066cY60"]
  | emojiModifier => .unpack ["N1f3fbY5"]
  | emojiModifierBase => .unpack [
    "N261dYNdbYN10Y4N1cc77YN3cY3N2YN2Y3N75Y2N2YbN15Y13N3YN4Y3NY3N7YNYN18YNc9Y2N4YN15YN4Y2NaeY3N3Y5N5",
    "3YN10Y3N9YNbYN23fYN2YN8Y8N6YN9YaN2Y3N38YN3dY2NY2NYN11Y3NYdNe5Y3N2aY9"]
  | emojiPresentation => .unpack [
    "N231aY2NcdY4N3YN2YN209Y2N15Y2N32YcN2bYN13YNdYN8Y2N11Y2N5Y2N8YN5YN15YN7Y2NYN4YN2YN7YN4Y2N1cYN23Y",
    "NYN4Y3NYN3dY3N18YNeYN35bY2N33YN4YN1c4aeYNcaYNbeYN2YaN4bY1aNYN18YN14YN2Y5NY3N15Y2NaeY21NcY9NY46N",
    "Y16NcY2bN4Y5NcY11N3YN3Y47NYNYbbN2Y3fNdY4NY18N12YN1aY2NdYN56Y55N30Y46N6YN3Y3N2Y4N3Y4NbY2N7Y9Ne3Y",
    "cN4YN11bY2fNYaNYb9N70YdN3YbN3Y39NYN4Y10N2YcN4Ya"]
  | extendedPictographic => .unpack [
    "Na9YN4YN1f8dYNcYNd8YN16YN5aY6NfY2N16fY2NcYNa6YN19YbN4Y3Nc7YNe7Y2NaYN9YN3aY4NY5N9YN2YN2Y2N2YN4YN",
    "2YNY2N2YN3YN3Y2N8Y3N5YNYN5YcNbY2N2YNY2NYN12YN2Y2N12Y6NYNY2N3Y2N5YN2Y2N4Y2NbY2N5Y2N2YN5Y2NYNY2N1",
    "4Y2N5Y6NY4N2YN4YN2YN2Y6NYN2YNYNYN6YN3YN6YNaY2NfYN2YN4YNYN4Y3NYNbY2N30Y3N9YNeYNeYN174Y2N1cfY3N13",
    "Y2N33YN4YN4daYNcYN259YNYN1bd6aYN27Y4N64YcNfY2NfYNeY2N25YaN70Y2NcY2NeYN2YaN13Y38N1bYfNaYN14YN2Y9",
    "NY4N9Y17N6YbcN2Y70N2Y2NY3N2Y53N2Y3NY4N5YfeNY3fNbY6NY18N7Y2N2Y8NcYN2Y4N2YN4Y2NdY2N2YN8Y2N9YN5Y3N",
    "cY3N8Y3N2YNYN4YN6YN3YN6Y56N30Y46N5Y8N2Y11N3YNY6N2YdNdaY26NcY4N38Y8NaY6N28Y8N1eY2NcY4N2YeN9Y27Nc",
    "Y2fNYaNYb9N58Y8NeY92N100Y3fe"]
  | extender => .unpack [
    "Nb7YN218Y2N36eYN1b9YN276YN89YN59YN2f0YN7fYN943YN38YN263YN18eYN44YN1389YN2bY5N67Y2N5dY3N6f16YN5f",
    "6YN3c2YN16YN89YN6cYN15Y2N547bYN810Y2N5cbYN1bYN4YN4c7YN125YN74Y2N1f2Y3N4cfYN340YN4d68Y2N49cY2NYN",
    "eY2N7148Y2N4b1YN354Y3"]
  | graphemeLink => .unpack [
    "N94dYN7fYN7fYN7fYN7fYN7fYN7fYN7fYN6dY2N10YN7cYN6fYN7fYNc9YNb4Y2N6d9Y2N1eYN9dYN28dYNe3YN65Y2N46Y",
    "2N118bYN7a86YN25YN97YN8eYN6cYN135YNf6YN5e51YN606YN29YNeYN39YN79Y2N8bYN74YNb4YN62YN80Y3N71YN7fYN",
    "fcYN7fYN76YN74YN10dYN103Y2Na1YN53YN12YN51YN1a5YN104Y2N51YN1a9Y2N41ecY"]
  | hyphen => .unpack ["N2dYN7fYN4dcYN127bYN809Y2Ne05YN2e3YNcd67YNa9YN57Y"]
  | idCompatMathContinue => .unpack [
    "Nb2Y2N5YN1fb6YN3YbNYfN173YN4YN16YN1b4a2YN19YN1fYN19YN1fYN19YN1fYN19YN1fYN19Y"]
  | idCompatMathStart => .unpack ["N2202YN4YN16YN1b4a2YN19YN1fYN19YN1fYN19YN1fYN19YN1fYN19Y"]
  | ideographic => .unpack [
    "N3006Y2N19Y9NeY3N3c5Y19c0N40Y5200N5900Y16eN2Y6aN750aYNdY5N9Y1cd6N29Y20N61Y73N237dY18cN4d04Ya6e0",
    "N20Y111eN2Y168eN2Y1d31NfY26eN9a2Y21eN5e2Y134bN5Y212a"]
  | logicalOrderException => .unpack ["Ne40Y5N7bY5Naf0Y3N2YN90faY2N2YNY2"]
  | modifierCombiningMark => .unpack ["N654Y2N2YN83YN6YN3Y2N1e1Y2NY3N3YN1fY"]
  | noncharacter => .unpack [
    "Nfdd0Y20N20eY2NfffeY2NfffeY2NfffeY2NfffeY2NfffeY2NfffeY2NfffeY2NfffeY2NfffeY2NfffeY2NfffeY2Nfff",
    "eY2NfffeY2NfffeY2NfffeY2NfffeY2"]
  | otherAlphabetic => .unpack [
    "N345YN1dYdN240YeNYNY2NY2NYN48YbN30YdNY7N10YN65Y7N4Y4N2Y2N4YN23YN1eY10N66YbN65Y2N3Y9NY3NY4N6aYN3",
    "cYcN3Y7N6Y14N36Y2N2YfNY2N5Y3NaY2N1dY3N3aY7N2Y2N2Y2NaYNaY2N1dY3N3aY5N4Y2N2Y2N4YN1eY2N3YNbY3N3aY8",
    "NY3NY2N15Y2N16Y3N4Y3N3aY7N2Y2N2Y2N9Y2NaY2N1eYN3bY5N3Y3NY3NaYN28Y5N39Y7NY3NY3N8Y2NbY2N1dY3N3aY7N",
    "Y3NY3N8Y2NbY2NfYNcY4N3aY7NY3NY3NaYNaY2N1dY3N4bY6NYNY8N12Y2N3dYN2Y7N12YN63YN2Y6NY2N10YNa3Y13N9Yb",
    "NY24N6eYcNYN2Y4N17Y4N4Y3NY3N2Y7N3Y4NdYcNYNaY4N674Y2N1eY2N1eY2N1eY2N42Y13NbcY2N22YN76YcN4Y9NdeY5",
    "N39YaN2Y14N4aY2NbY3N31Y5N30YfN3cY3N1eY9N2Y2N39YbN32Y13N19cY22N6c1Y34N8f6Y20N7874Y8N22Y2N162YN8Y",
    "N17Y5N58Y2N32Y10NYN39YN26Y5N1cYcN2dY4N30YcN25YN43YeNcYN8Y2N2dY3N32YNY3N2Y2N5YN2cY5N5YNedY8N4f33",
    "YN857Y5N686Y3NY2N5Y4N314Y4N41YN141Y2N4dY3N103Y3N35YeN2dY2NbY3N2dY9N9YN3dY3N24YcN12Y2N39Y3N30YdN",
    "eY2N5cY9N2YN6YN2YN9dYaN17Y4N3aY7N2Y2N2Y2NaYNaY2N54Y9NYN2YNY4NY2N67YdNY3N6aY12NedY7N2Y7N1dY2N52Y",
    "fNYN6aYbN67YeN101YdNf7Y6NY2N2Y2N3YNYN8eY7N2Y6N4YN1cYaN2aY5NY4N12YbN2eYeNc8Y8Nc7Y8NY7N53Y16NYeN7",
    "aY6N3YNY2NY3NYN3YN42Y5NY2NY4N15cY4N9Y2NYN30Y7N3Y3N41ddY11Ne20YNY37N7Y4N5dY2N4cacYN2361Y7NY11N2Y",
    "7NY2NY5N64YN653YN2YN7Y2N5YN251YN7e8Y1aN6Y1aN6Y1a"]
  | otherDefaultIgnorable => .unpack [
    "N34fYNe0fY2N653Y2N8afYN10feYNce3bYN4fY9Nd0007YNY1eN60Y80Nf0Ye10"]
  | otherGraphemeExtend => .unpack [
    "N9beYN18YN166YN18YN66YN18YNe8YNYN4Y2NY2N9Y2N67YN18YN77YNfYN935YN1eYN400YN5YNYN5Y2N65YN47Y2N418Y",
    "N1021Y2N7923YN6cYN55ddY2N1220YN74YN108YNeYN9YN60YN9YN2YNY3N5YNe0YNcYNf1YN106YN279YNcYN603YN50ae",
    "Y2N6173Y2N6Y6Nc2eadY60"]
  | otherIdContinue => .unpack ["Nb7YN2cfYNfe1Y9N668YN631Y2N10edYNce69Y"]
  | otherIdStart => .unpack ["N1885Y2N891YN15YNf6cY2"]
  | otherLowercase => .unpack [
    "NaaYNfYN1f5Y9N7Y2N1eY5N60YN34YNd81YNc2fY3fNdYN22Y25N2b1YNdYN10YdNd3Y10N350Y1aN792Y2N7a1eY2Nd2YN",
    "80Y4N3Y2N362Y4N9YN5c16YN2Y3NY2aNY9Nd875Y3e"]
  | otherMath => .unpack [
    "N5eYN371Y3N2YN1aY2N2Y2N1c20YN1bY3NbYN20Y4N18Y2NeY2N41YdN4YN3Y2N4Y5N12YN4YN2YaNYN3Y5N6YN3Y2N2Y2N",
    "Y3NY6N3Y4N5Y5N4bY5N2Y4NY2NY2NYNY5N2Y2N4Y2N4Y12N2Y2NYNY7NYN6Y2N122Y4Na8Y2NYN18YN11YN1bdY2NcY9N5Y",
    "5N5Y2N2Y2N3Y5NeYNYN2Y6N18Y2N39YNYN1dY4N9Y2N156Y2N1fYaN193Y16N3fY4N20Y2Nd463YNYN4YNd3YNYNd4c1Y55",
    "NY47NY2N2YN2Y2N2Y4NYcNYNY7NY41NY4N2Y8NY7NY1cNY4NY5NYN3Y7NY154N2Y19NY19NY1fNY19NY1fNY19NY1fNY19N",
    "Y1fNY19NY8N2Y32N1600Y4NY1bNY2NYN2YNYaNY4NYNYN6YN4YNYNYNY3NY2NYN2YNYNYNYNYNY2NYN2Y4NY7NY4NY4NYNY",
    "aNY11N5Y3NY5NY11"]
  | otherUppercase => .unpack ["N2160Y10N346Y1aN1cc60Y1aN6Y1aN6Y1a"]
  | patternSyntax => .unpack [
    "N21YfNaY7N1aY4NYN1aY4N22Y7NYNY2NYNY2N4YN4YN3YN17YN1fYN1f18Y18N8YfN2Y13NYaN131Y2d0Na0Y276N1eY46c",
    "N200Y80N181Y3N4Y19NfYNcd0dY2N105Y2"]
  | patternWhiteSpace => .unpack ["N9Y5N12YN64YN1f88Y2N18Y2"]
  | prependedConcatenationMark => .unpack ["N600Y6Nd7YN31YN180Y2N50YN107daYNfY"]
  | quotationMark => .unpack ["N22YN4YN83YNfYN1f5cY8N19Y2Ne07YN1c9Y4NdY3Nce21Y4NbdYN4YN5aY2"]
  | radical => .unpack ["N2e80Y1aNY59NcYd6"]
  | sentenceTerminal => .unpack [
    "N21YNcYN10YN549YN93Y3Nb4YN2bY3Nf6YN3dYNYN3Y2N125Y2N6e4Y2N316YN4Y2N305YNc6Y2N9dY2N2dYN5YN13aY2N1",
    "62Y4Na2Y2NaY2N2Y2N1dY3NbbY2N41Y2N3a4YN17Y2N9Y3NcafY3N132YNdYN16Y2N1adYN74fcYN10eY2Ne3YN3YN17eY2",
    "N56Y2N5fYN98Y2N93Y3N90Y2Nf9YN5226YN2Y2N3bYN3Y2Na9YNcYN10YN41YNaf4Y2N4fdY5N2cY4NbdY2N75Y4N7fY3N8",
    "1Y2N6YN10Y2N58Y2NY2N6cYN12aY2N75Y2N175Y2N5YfN69Y2Nf9Y3N205YNYNfbY2N57Y2N1a4Y2N2b4Y2N4aY2N4b29Y2",
    "N85YN41Y2NbYN229Y2N128YN4e06YN1de8Y"]
  | softDotted => .unpack [
    "N69Y2Nc4YN119YN1eYN34YN14YN140YN62YNYN1909YN33YNdYN3YN84YN9dYN1a5YNd6Y2Nb32YN1a7a5Y2N32Y2N32Y2N",
    "32Y2N32Y2N32Y2N32Y2N32Y2N32Y2N32Y2N32Y2N32Y2N32Y2N886YN131Y2N1aY"]
  | terminalPunctuation => .unpack [
    "N21YNaYNYNbY2N3YN33eYN8YN201YN39YN48YNeYNY3Nb4YN2bYbNYNebY2N36Y6NY8N1fYN105Y2N4f4Y2NacYN4Y6N137",
    "Y2N315Y8N305YN7cY3N47Y2N9dY3N3YN27Y4N2Y2N13aY2N162Y4Na2Y2NaY2NY3N1dY3NbbY5N3eY2N3a4YN17Y2N9Y3Nc",
    "afY3N132YNdYN4YNaYNY2N3Y2N1acY2N74fbY2N10dY3Ne3Y5N17eY2N56Y2N5fYN97Y3N93Y3N7fYN10Y2Nf9YN5226YN2",
    "Y2N39Y3NY4Na9YNaYNYNbY2N3YN41YN2YN43aYN30YN486YNc7YN136Y2N98Y6N44Y6N59Y4N3b8Y5N2cY4NbdY7N70Y4N7",
    "fY3N81Y2N6YN10Y2N58Y5N6cYN12aY2N75Y3NcY2N166Y4N3YfN69Y2Nf9Y3N205YNYNfbY2N57Y2N4Y2N19eY3N2dYN285",
    "Y2N4aY2N52bY5N45f9Y2N85YN41Y3NaYN229Y2N127Y2N4e06YN1de7Y4"]
  | unifiedIdeograph => .unpack [
    "N3400Y19c0N40Y5200N5a0eY2NYNY2NaYNYNY2N2Y3N105d6Ya6e0N20Y111eN2Y168eN2Y1d31NfY26eN11a2Y134bN5Y2",
    "12a"]
  | variationSelector => .unpack ["N180bY3NYNe5f0Y10Nd02f0Yf0"]
  | _ => .empty

/-! ### Derived properties -/

def lowercaseSet : CodeSet := (Category.setOf (· == .ll)).union otherLowercase.listed

def uppercaseSet : CodeSet := (Category.setOf (· == .lu)).union otherUppercase.listed

def graphemeExtendSet : CodeSet := (Category.setOf fun k => k == .mn || k == .me).union otherGraphemeExtend.listed

def idStartSet : CodeSet :=
  ((letters.union letterNumbers).union otherIdStart.listed).diff patternSyntax.listed |>.union otherIdStart.listed

def idContinueSet : CodeSet := (idStartSet.union idExtras).union otherIdContinue.listed

def changed (cs : List Nat) : CodeSet := .ofRanges (cs.map fun c => (c, c))

/-- The characters that have a property. -/
def set : Property → CodeSet
  | alphabetic => (letters.union letterNumbers).union otherAlphabetic.listed
  | lowercase => lowercaseSet
  | uppercase => uppercaseSet
  | cased => (lowercaseSet.union uppercaseSet).union (Category.setOf (· == .lt))
  | caseIgnorable =>
    (Category.setOf fun k => k == .mn || k == .me || k == .cf || k == .lm || k == .sk).union wordPunctuation
  | changesWhenLowered => changed changedByLower
  | changesWhenUppered => changed changedByUpper
  | changesWhenMapped => (changed (changedByLower ++ changedByUpper)).union changesWhenTitled.listed
  | math => (Category.setOf (· == .sm)).union otherMath.listed
  | graphemeExtend => graphemeExtendSet
  | graphemeBase =>
    (Category.setOf fun k => !(k == .cc || k == .cf || k == .cs || k == .co || k == .cn || k == .zl || k == .zp)).diff
      graphemeExtendSet
  | defaultIgnorable =>
    ((Category.setOf (· == .cf)).diff ((CodeSet.ofRanges [(0xfff9, 0xfffb), (0x13430, 0x13440)]).union
      prependedConcatenationMark.listed)).union (otherDefaultIgnorable.listed.union variationSelector.listed)
  | idStart => idStartSet
  | idContinue => idContinueSet
  | xidStart => idStartSet.diff unstableStarts
  | xidContinue => idContinueSet.diff unstableParts
  | p => p.listed

end Property

/-! ### Earlier editions -/

/-- The characters of some categories in an edition. `ʕ` was a small letter up to edition 16. -/
def Category.setIn (e : Edition) (ks : List Category) : CodeSet :=
  let s := Category.setOf ks.contains
  let pharyngeal := CodeSet.ofRanges [(0x295, 0x295)]
  let s := if Edition.le ⟨17, 0⟩ e then s
    else if ks.contains .ll then s.union pharyngeal
    else if ks.contains .lo then s.diff pharyngeal
    else s
  if ks.contains .cn then s.union e.addedAfter else s.diff e.addedAfter

/-- The characters that an edition gives a property. Properties that code points have without a meaning of
their own do not change with it; a letter changes its case only if the edition knows its other form. -/
def Property.setIn (e : Edition) (p : Property) : CodeSet :=
  match p with
  | .extendedPictographic | .defaultIgnorable | .otherDefaultIgnorable | .noncharacter | .patternSyntax => p.set
  | .changesWhenUppered | .changesWhenTitled | .changesWhenMapped =>
    let added := e.addedAfter
    (p.set.diff added).diff (changed (changedByUpper.filter fun c => added.contains (simpleUpper (Char.ofNat c))))
  | .lowercase | .cased => (p.set.diff e.addedAfter).union (Category.setIn e [.ll])
  | _ => p.set.diff e.addedAfter

end ScriptCoverage.Unicode
