import ScriptCoverage.Unicode.Property
import ScriptCoverage.Unicode.Script

/-!
How a text falls into characters as readers see them, into words and into sentences. Each of the three
properties gives a code point one value at most, which is put together from categories, properties, scripts
and lists by the standard's own definitions. `setIn` is the set of a value as an edition has it.
-/

namespace ScriptCoverage.Unicode

/-! ### What the definitions share -/

/-- The listed characters that an edition has. -/
def Edition.known (e : Edition) (rs : List (Nat × Nat)) : CodeSet := (CodeSet.ofRanges rs).inter e.assignedBy

/-- The characters of a script by its name. -/
def Script.charsOf (name : String) : CodeSet := ((Script.named? name).map Script.set).getD .empty

def carriageReturn : CodeSet := .ofRanges [(0xd, 0xd)]

def lineFeed : CodeSet := .ofRanges [(0xa, 0xa)]

def joiner : CodeSet := .ofRanges [(0x200d, 0x200d)]

/-- The mark that shortens Syriac words; it stands before letters and not before digits. -/
def abbreviationMark : CodeSet := .ofRanges [(0x70f, 0x70f)]

section

variable (e : Edition)

/-- Signs that stand before the digits of a number. -/
def numberSigns : CodeSet := (Property.prependedConcatenationMark.setIn e).diff abbreviationMark

/-- Marks that belong to the character before them. -/
def attached : CodeSet := (Property.graphemeExtend.setIn e).union (Category.setIn e [.mc])

/-- Digits, and signs that count as such. -/
def digits : CodeSet := ((Category.setIn e [.nd]).union (e.known [(0x66b, 0x66b)])).union (numberSigns e)

end

/-! ### Clusters -/

inductive ClusterBreak
  | control | cr | extend | l | lf | lv | lvt | prepend | regionalIndicator | spacingMark | t | v | zwj
  deriving DecidableEq, Inhabited, Repr

namespace ClusterBreak

/-- Consonants that are written before the one that follows them. -/
def prependedLetters : List (Nat × Nat) := [
  (0xd4e, 0xd4e), (0x111c2, 0x111c3), (0x113d1, 0x113d1), (0x1193f, 0x1193f), (0x11941, 0x11941),
  (0x11a84, 0x11a89), (0x11d46, 0x11d46), (0x11f02, 0x11f02)]

/-- A consonant that was among them up to edition 16. -/
def formerlyPrepended : List (Nat × Nat) := [(0x11a3a, 0x11a3a)]

/-- Marks that take room and still begin a cluster. -/
def separateMarks : List (Nat × Nat) := [
  (0x102b, 0x102c), (0x1038, 0x1038), (0x1062, 0x1064), (0x1067, 0x106d), (0x1083, 0x1083), (0x1087, 0x108c),
  (0x108f, 0x108f), (0x109a, 0x109c), (0x1a61, 0x1a61), (0x1a63, 0x1a64), (0xaa7b, 0xaa7b), (0xaa7d, 0xaa7d),
  (0x11720, 0x11721)]

/-- Room of the syllables that share their first two letters. -/
def block : Nat := 28

/-- The syllables at places of every block. -/
def syllables (first last : Nat) : CodeSet :=
  .ofRanges ((List.range 399).map fun i => (0xac00 + block * i + first, 0xac00 + block * i + last))

def extendSet (e : Edition) : CodeSet :=
  ((Property.graphemeExtend.setIn e).union (Property.emojiModifier.setIn e)).diff joiner

def prependSet (e : Edition) : CodeSet :=
  let former := if Edition.le ⟨17, 0⟩ e then [] else formerlyPrepended
  (Property.prependedConcatenationMark.setIn e).union (e.known (prependedLetters ++ former))

/-- Controls and formats, and what is kept free for such characters. -/
def controlSet (e : Edition) : CodeSet :=
  let kept := (Category.setIn e [.cn]).inter (Property.defaultIgnorable.setIn e)
  let others := [carriageReturn, lineFeed, joiner, extendSet e, prependSet e]
  others.foldl CodeSet.diff ((Category.setIn e [.cc, .cf, .zl, .zp]).union kept)

def setIn (e : Edition) : ClusterBreak → CodeSet
  | control => controlSet e
  | cr => carriageReturn
  | extend => extendSet e
  | l => e.known [(0x1100, 0x115f), (0xa960, 0xa97c)]
  | lf => lineFeed
  | lv => syllables 0 0
  | lvt => syllables 1 27
  | prepend => prependSet e
  | regionalIndicator => Property.regionalIndicator.setIn e
  | spacingMark =>
    (((Category.setIn e [.mc]).union (e.known [(0xe33, 0xe33), (0xeb3, 0xeb3)])).diff (extendSet e)).diff
      (.ofRanges separateMarks)
  | t => e.known [(0x11a8, 0x11ff), (0xd7cb, 0xd7fb)]
  | v => e.known [(0x1160, 0x11a7), (0xd7b0, 0xd7c6), (0x16d63, 0x16d63), (0x16d67, 0x16d6a)]
  | zwj => joiner

end ClusterBreak

/-! ### Words -/

inductive WordBreak
  | aLetter | cr | doubleQuote | extend | extendNumLet | format | hebrewLetter | katakana | lf | midLetter
  | midNum | midNumLet | newline | numeric | regionalIndicator | singleQuote | wSegSpace | zwj
  deriving DecidableEq, Inhabited, Repr

namespace WordBreak

/-- Signs that count as letters. -/
def letterSigns : List (Nat × Nat) := [
  (0xb8, 0xb8), (0x2c2, 0x2c5), (0x2d2, 0x2d7), (0x2de, 0x2df), (0x2e5, 0x2eb), (0x2ed, 0x2ed), (0x2ef, 0x2ff),
  (0x55a, 0x55c), (0x55e, 0x55e), (0x58a, 0x58a), (0x5f3, 0x5f3), (0x70f, 0x70f), (0xa708, 0xa716), (0xa720, 0xa721),
  (0xa789, 0xa78a), (0xab5b, 0xab5b)]

/-- Letters of the scripts in which only a dictionary tells where words end. -/
def complexLetters : List (Nat × Nat) := [
  (0xe01, 0xe3a), (0xe40, 0xe4e), (0xe81, 0xebd), (0xec0, 0xec4), (0xec6, 0xec6), (0xec8, 0xece), (0xedc, 0xedf),
  (0x1000, 0x103f), (0x1050, 0x108f), (0x109a, 0x109f), (0x1780, 0x17d3), (0x17d7, 0x17d7), (0x17dc, 0x17dd),
  (0x1950, 0x196d), (0x1970, 0x1974), (0x1980, 0x19ab), (0x19b0, 0x19c9), (0x19da, 0x19da), (0x19de, 0x19df),
  (0x1a20, 0x1a5e), (0x1a60, 0x1a7c), (0x1aa0, 0x1aad), (0xa9e0, 0xa9ef), (0xa9fa, 0xa9fe), (0xaa60, 0xaac2),
  (0xaadb, 0xaadf), (0x11700, 0x1171a), (0x1171d, 0x1172b), (0x1173a, 0x1173b), (0x1173f, 0x11746)]

def extendSet (e : Edition) : CodeSet := ((attached e).union (Property.emojiModifier.setIn e)).diff joiner

def katakanaSet (e : Edition) : CodeSet :=
  (Script.charsOf "katakana").union
    (e.known [(0x3031, 0x3035), (0x309b, 0x309c), (0x30a0, 0x30a0), (0x30fc, 0x30fc), (0xff70, 0xff70)])

def hebrewSet (e : Edition) : CodeSet := (Script.charsOf "hebrew").inter (Category.setIn e [.lo])

def letterSet (e : Edition) : CodeSet :=
  let others := [Property.ideographic.setIn e, katakanaSet e, .ofRanges complexLetters, Script.charsOf "hiragana",
    extendSet e, hebrewSet e]
  others.foldl CodeSet.diff ((Property.alphabetic.setIn e).union (e.known letterSigns))

def setIn (e : Edition) : WordBreak → CodeSet
  | aLetter => letterSet e
  | cr => carriageReturn
  | doubleQuote => .ofRanges [(0x22, 0x22)]
  | extend => extendSet e
  | extendNumLet => (Category.setIn e [.pc]).union (e.known [(0x202f, 0x202f)])
  | format =>
    let others := [extendSet e, joiner, Property.prependedConcatenationMark.setIn e, .ofRanges [(0x200b, 0x200b)]]
    others.foldl CodeSet.diff (Category.setIn e [.cf])
  | hebrewLetter => hebrewSet e
  | katakana => katakanaSet e
  | lf => lineFeed
  | midLetter => e.known [
    (0x3a, 0x3a), (0xb7, 0xb7), (0x387, 0x387), (0x55f, 0x55f), (0x5f4, 0x5f4), (0x2027, 0x2027), (0xfe13, 0xfe13),
    (0xfe55, 0xfe55), (0xff1a, 0xff1a)]
  | midNum => e.known [
    (0x2c, 0x2c), (0x3b, 0x3b), (0x37e, 0x37e), (0x589, 0x589), (0x60c, 0x60d), (0x66c, 0x66c), (0x7f8, 0x7f8),
    (0x2044, 0x2044), (0xfe10, 0xfe10), (0xfe14, 0xfe14), (0xfe50, 0xfe50), (0xfe54, 0xfe54), (0xff0c, 0xff0c),
    (0xff1b, 0xff1b)]
  | midNumLet => e.known [
    (0x2e, 0x2e), (0x2018, 0x2019), (0x2024, 0x2024), (0xfe52, 0xfe52), (0xff07, 0xff07), (0xff0e, 0xff0e)]
  | newline => .ofRanges [(0xb, 0xc), (0x85, 0x85), (0x2028, 0x2029)]
  | numeric => digits e
  | regionalIndicator => Property.regionalIndicator.setIn e
  | singleQuote => .ofRanges [(0x27, 0x27)]
  | wSegSpace => (Category.setIn e [.zs]).diff (.ofRanges [(0xa0, 0xa0), (0x2007, 0x2007), (0x202f, 0x202f)])
  | zwj => joiner

end WordBreak

/-! ### Sentences -/

inductive SentenceBreak
  | aTerm | close | cr | extend | format | lf | lower | numeric | oLetter | sContinue | sTerm | sep | sp | upper
  deriving DecidableEq, Inhabited, Repr

namespace SentenceBreak

/-- The quotation marks that have no side of their own. -/
def quotation : List (Nat × Nat) := [
  (0x22, 0x22), (0x27, 0x27), (0xab, 0xab), (0xbb, 0xbb), (0x2018, 0x2019), (0x201b, 0x201d), (0x201f, 0x201f),
  (0x2039, 0x203a), (0x275b, 0x2760), (0x2e00, 0x2e0d), (0x2e1c, 0x2e1d), (0x2e20, 0x2e21), (0x1f676, 0x1f678)]

def stops : List (Nat × Nat) := [(0x2e, 0x2e), (0x2024, 0x2024), (0xfe52, 0xfe52), (0xff0e, 0xff0e)]

def separatorSet : CodeSet := .ofRanges [(0x85, 0x85), (0x2028, 0x2029)]

def extendSet (e : Edition) : CodeSet := (attached e).union joiner

/-- Small letters, without those of a script that begins no sentence with a capital. -/
def lowerSet (e : Edition) : CodeSet :=
  ((Property.lowercase.setIn e).diff (Property.graphemeExtend.setIn e)).diff
    (.ofRanges [(0x10d0, 0x10fa), (0x10fd, 0x10ff)])

/-- Capital letters, without those of the same script. -/
def upperSet (e : Edition) : CodeSet :=
  ((Property.uppercase.setIn e).union (Category.setIn e [.lt])).diff (.ofRanges [(0x1c90, 0x1cba), (0x1cbd, 0x1cbf)])

def setIn (e : Edition) : SentenceBreak → CodeSet
  | aTerm => e.known stops
  | close => (Category.setIn e [.ps, .pe]).union (e.known quotation)
  | cr => carriageReturn
  | extend => extendSet e
  | format => ((Category.setIn e [.cf]).diff (extendSet e)).diff (numberSigns e)
  | lf => lineFeed
  | lower => lowerSet e
  | numeric => (digits e).union (e.known [(0x66c, 0x66c)])
  | oLetter =>
    [lowerSet e, upperSet e, extendSet e].foldl CodeSet.diff
      ((Property.alphabetic.setIn e).union (e.known [(0x5f3, 0x5f3)]))
  | sContinue => e.known [
    (0x2c, 0x2d), (0x3a, 0x3b), (0x37e, 0x37e), (0x55d, 0x55d), (0x60c, 0x60d), (0x7f8, 0x7f8), (0x1802, 0x1802),
    (0x1808, 0x1808), (0x2013, 0x2014), (0x3001, 0x3001), (0xfe10, 0xfe11), (0xfe13, 0xfe14), (0xfe31, 0xfe32),
    (0xfe50, 0xfe51), (0xfe54, 0xfe55), (0xfe58, 0xfe58), (0xfe63, 0xfe63), (0xff0c, 0xff0d), (0xff1a, 0xff1b),
    (0xff64, 0xff64)]
  | sTerm => (Property.sentenceTerminal.setIn e).diff (e.known stops)
  | sep => separatorSet
  | sp => [separatorSet, carriageReturn, lineFeed].foldl CodeSet.diff (Property.whiteSpace.setIn e)
  | upper => upperSet e

end SentenceBreak

end ScriptCoverage.Unicode
