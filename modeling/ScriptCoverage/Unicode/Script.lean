import ScriptCoverage.Unicode.CodeSet

/-!
The scripts: for each its names without blanks and capitals, the characters that belong to it alone, and the
characters that it uses beside them. Common and inherited characters that some script claims as its own use
belong to no other set of extensions than those of these scripts. The table is that of edition 16.
-/

namespace ScriptCoverage.Unicode

/-- A script. The sets are packed as for `CodeSet.unpack`. -/
structure Script where
  names : List String
  packed : List String
  packedExtension : List String

namespace Script

def all : List Script := [
  ⟨["adlam", "adlm"],
    ["N1e900Y4cN4YaN4Y2"],
    ["N61fYN20YN1a0eYNdf1Y"]⟩,
  ⟨["caucasianalbanian", "aghb"],
    ["N10530Y34NbY"],
    ["N304YN2cYN2cY"]⟩,
  ⟨["ahom"],
    ["N11700Y1bN2YfN4Y17"],
    []⟩,
  ⟨["arabic", "arab"],
    ["N600Y5NY6NYeNY3NY20NYaNbY1aNY6cNY22N50Y30Nf0Y1fNY2N5Y4bNY1dNf250Y73N10Y16bN2Y50N2Y36N7YN20",
     "Y10N70Y5NY87Nf63Y1fN43Y3N37Y4Ndf00Y4NY1bNY2NYN2YNYaNY4NYNYN6YN4YNYNYNY3NY2NYN2YNYNYNYNYNY2",
     "NYN2Y4NY7NY4NY4NYNYaNY11N5Y3NY5NY11N34Y2"],
    ["N60cYNeYN3YN20YNaYbN1aYN19deYNdf1YNcefcY2N5a0Y1c"]⟩,
  ⟨["imperialaramaic", "armi"],
    ["N10840Y16NY9"],
    []⟩,
  ⟨["armenian", "armn"],
    ["N531Y26N2Y32N2Y3Nf583Y5"],
    ["N308Y"]⟩,
  ⟨["avestan", "avst"],
    ["N10b00Y36N3Y7"],
    ["Nb7YN2d78Y2"]⟩,
  ⟨["balinese", "bali"],
    ["N1b00Y4dNY32"],
    []⟩,
  ⟨["bamum", "bamu"],
    ["Na6a0Y58Nc108Y239"],
    []⟩,
  ⟨["bassavah", "bass"],
    ["N16ad0Y1eN2Y6"],
    []⟩,
  ⟨["batak", "batk"],
    ["N1bc0Y34N8Y4"],
    []⟩,
  ⟨["bengali", "beng"],
    ["N980Y4NY8N2Y2N2Y16NY7NYN3Y4N2Y9N2Y2N2Y4N8YN4Y2NY5N2Y19"],
    ["N2bcYN694Y2N11Y2N136aYNYN2Y2NYN8YN8YN2YN4YN2Y3N8bf9Y"]⟩,
  ⟨["bhaiksuki", "bhks"],
    ["N11c00Y9NY2dNYeNaY1d"],
    []⟩,
  ⟨["bopomofo", "bopo"],
    ["N2eaY2N2e19Y2bN70Y20"],
    ["N2c7YNY3NdYN2d27Y3N4YaNYdNaY4N2YN6YNc3YNcd49Y2N11aY5"]⟩,
  ⟨["brahmi", "brah"],
    ["N11000Y4eN4Y24N9Y"],
    []⟩,
  ⟨["braille", "brai"],
    ["N2800Y100"],
    []⟩,
  ⟨["buginese", "bugi"],
    ["N1a00Y1cN2Y2"],
    ["Na9cfY"]⟩,
  ⟨["buhid", "buhd"],
    ["N1740Y14"],
    ["N1735Y2"]⟩,
  ⟨["chakma", "cakm"],
    ["N11100Y35NY12"],
    ["N9e6YaN650Ya"]⟩,
  ⟨["canadianaboriginal", "cans"],
    ["N1400Y280N230Y46N101baY10"],
    []⟩,
  ⟨["carian", "cari"],
    ["N102a0Y31"],
    ["Nb7YN1fa2YN2YNdd3Y"]⟩,
  ⟨["cham"],
    ["Naa00Y37N9YeN2YaN2Y4"],
    []⟩,
  ⟨["cherokee", "cher"],
    ["N13a0Y56N2Y6N9772Y50"],
    ["N300Y3NYN6Y2N16Y2NbY2"]⟩,
  ⟨["chorasmian", "chrs"],
    ["N10fb0Y1c"],
    []⟩,
  ⟨["coptic", "copt", "qaac"],
    ["N3e2YeN2890Y74N5Y7"],
    ["Nb7YN248YN3Y2NYN6cY2N2aa1YNd4c8Y1c"]⟩,
  ⟨["cyprominoan", "cpmn"],
    ["N12f90Y63"],
    ["N10100Y2"]⟩,
  ⟨["cypriot", "cprt"],
    ["N10800Y6N2YNY2cNY2N3YN2Y"],
    ["N10100Y3N4Y2dN3Y9"]⟩,
  ⟨["cyrillic", "cyrl"],
    ["N400Y85N2Ya9N1750YbNa0YN4cYN1067Y20N7840Y60N578eY2Ne200Y3eN21Y"],
    ["N2bcYN43Y3NYNYNYN2YN5YN173Y2N1971YN104aY"]⟩,
  ⟨["devanagari", "deva"],
    ["N900Y51N4YfN2Y1aN9f60Y20N7200Ya"],
    ["N2bcYN694Y2N11Y2N136aY27NY2N3f6YN873fYa"]⟩,
  ⟨["divesakuru", "diak"],
    ["N11900Y7N2YN2Y8NY2NY1eNY2N2YcN9Ya"],
    []⟩,
  ⟨["dogra", "dogr"],
    ["N11800Y3c"],
    ["N964YcN9ec0Ya"]⟩,
  ⟨["deseret", "dsrt"],
    ["N10400Y50"],
    []⟩,
  ⟨["duployan", "dupl"],
    ["N1bc00Y6bN5YdN3Y9N7YaN2Y4"],
    ["Nb7YN24fY2NYN18Y2N2b17YN18e63Y4"]⟩,
  ⟨["egyptianhieroglyphs", "egyp"],
    ["N13000Y456NaYf9b"],
    []⟩,
  ⟨["elbasan", "elba"],
    ["N10500Y28"],
    ["Nb7YN24dY"]⟩,
  ⟨["elymaic", "elym"],
    ["N10fe0Y17"],
    []⟩,
  ⟨["ethiopic", "ethi"],
    ["N1200Y49NY4N2Y7NYNY4N2Y29NY4N2Y21NY4N2Y7NYNY4N2YfNY39NY4N2Y43N2Y20N3Y1aN19e6Y17N9Y7NY7NY7N",
     "Y7NY7NY7NY7NY7N7d22Y6N2Y6N2Y6N9Y7NY7N13cb1Y7NY4NY2NYf"],
    ["N30eY"]⟩,
  ⟨["georgian", "geor"],
    ["N10a0Y26NYN5YN2Y2bNY4Nb90Y2bN2Y3N1040Y26NYN5Y"],
    ["Nb7YN4d1YNb71YNf5eYNdd6Y"]⟩,
  ⟨["glagolitic", "glag"],
    ["N2c00Y60N1b3a0Y7NY11N2Y7NY2NY5"],
    ["Nb7YN24bYNYN17eYN2YN101YNb71YNf5eYNde8YN782bY"]⟩,
  ⟨["gunjalagondi", "gong"],
    ["N11d60Y6NY2NY25NY2NY6N7Ya"],
    ["Nb7YN8acY2"]⟩,
  ⟨["masaramgondi", "gonm"],
    ["N11d00Y7NY2NY2cN3YNY2NY9N8Ya"],
    ["N964Y2"]⟩,
  ⟨["gothic", "goth"],
    ["N10330Y1b"],
    ["Nb7YN24cY2N2YN28Y"]⟩,
  ⟨["grantha", "gran"],
    ["N11300Y4NY8N2Y2N2Y16NY7NY2NY5N2Y9N2Y2N2Y3N2YN6YN5Y7N2Y7N3Y5"],
    ["N951Y2N11Y2N280YeN10dcYNY2N1eY3N3Y2N3f6YNf24aYNc94Y2NY"]⟩,
  ⟨["greek", "grek"],
    ["N370Y4NY3N2Y4NYN4YNYNY3NYNY14NY3fNeY10N1926Y5N32Y5N4Y5N54YN140Y16N2Y6N2Y26N2Y6N2Y8NYNYNYNY",
     "1fN2Y35NYfNYeN2Y6NY13N2Y3NY9N127YN8a3eYN55daY4fN11YNd05fY46"],
    ["Nb7YN248Y2N2YNYNYNaYN2eYN2YN2eYN1a4bY2N29bY"]⟩,
  ⟨["gujarati", "gujr"],
    ["Na81Y3NY9NY3NY16NY7NY2NY5N2YaNY3NY3N2YNfY4N2YcN7Y7"],
    ["N951Y2N11Y2N9ecaYa"]⟩,
  ⟨["gurmukhi", "guru"],
    ["Na01Y3NY6N4Y2N2Y16NY7NY2NY2NY2N2YNY5N4Y2N2Y3N3YN7Y4NYN7Y11"],
    ["N951Y2N11Y2N9ecaYa"]⟩,
  ⟨["hangul", "hang"],
    ["N1100Y100N1e2eY2N101Y5eN71Y1fN41Y1fN76e1Y1dN283Y2ba4NcY17N4Y31N27a4Y1fN3Y6N2Y6N2Y6N2Y3"],
    ["N3001Y3N4YaNYdN10YN6YNc3YNcd49Y2N11aY5"]⟩,
  ⟨["hani", "han"],
    ["N2e80Y1aNY59NcYd6N2fYNYN19Y9NeY4N3c4Y19c0N40Y5200N5900Y16eN2Y6aN7508Y2NcY2N900eYa6e0N20Y10",
     "3aN6YdeN2Y1682NeY1d31NfY26eN9a2Y21eN5e2Y134bN5Y1060"],
    ["Nb7YN2f38Y10NY3N2YNYaNYdNaY4N2YN6YN4Y4NbbYN94Y10N20Y26N9YN30Y28N38Y31NfYcN33YN58Y19NaY5N60",
     "Y1fN7301Y8N573dY2N11aY5Nd3faY12N1edeY2"]⟩,
  ⟨["hanunoo", "hano"],
    ["N1720Y15"],
    ["N1735Y2"]⟩,
  ⟨["hatran", "hatr"],
    ["N108e0Y13NY2N5Y5"],
    []⟩,
  ⟨["hebrew", "hebr"],
    ["N591Y37N8Y1bN4Y6Nf528Y1aNY5NYNY2NY2NYa"],
    ["N307Y2"]⟩,
  ⟨["hiragana", "hira"],
    ["N3041Y56N6Y3N17f61Y11fN12YN1dY3N40adY"],
    ["N3001Y3N4YaNYdN10Y6NYN4Y2N5bY4N3YN5aY2Ncd48Y2N11aY5NaYN2dY2"]⟩,
  ⟨["anatolianhieroglyphs", "hluw"],
    ["N14400Y247"],
    []⟩,
  ⟨["pahawhhmong", "hmng"],
    ["N16b00Y46NaYaNY7NY15N5Y13"],
    []⟩,
  ⟨["nyiakengpuachuehmong", "hmnp"],
    ["N1e100Y2dN3YeN2YaN4Y2"],
    []⟩,
  ⟨["oldhungarian", "hung"],
    ["N10c80Y33NdY33N7Y6"],
    ["N205aYN2YNdd3YNfY"]⟩,
  ⟨["olditalic", "ital"],
    ["N10300Y24N9Y3"],
    []⟩,
  ⟨["javanese", "java"],
    ["Na980Y4eN2YaN4Y2"],
    ["Na9cfY"]⟩,
  ⟨["kayahli", "kali"],
    ["Na900Y2eNY"],
    ["Na92eY"]⟩,
  ⟨["katakana", "kana"],
    ["N30a1Y5aN2Y3Nf0Y10Nd0Y2fNY58Ncc0eYaNY2dNb052Y4NY7NY2NYN11fY3N32YNeY4"],
    ["N305YN1dYN2cddY3N4YaNYdN10Y6NYN4Y2N5bY4N3YN5aY2Ncd48Y2N11aY5NaYN2dY2"]⟩,
  ⟨["kawi"],
    ["N11f00Y11NY29N3Y1d"],
    []⟩,
  ⟨["kharoshthi", "khar"],
    ["N10a00Y4NY2N5Y8NY3NY1dN2Y3N4YaN7Y9"],
    []⟩,
  ⟨["khmer", "khmr"],
    ["N1780Y5eN2YaN6YaN1e6Y20"],
    []⟩,
  ⟨["khojki", "khoj"],
    ["N11200Y12NY2f"],
    ["Nae6YaN9d40Ya"]⟩,
  ⟨["khitansmallscript", "kits"],
    ["N16fe4YN1b1bY1d6N29Y"],
    []⟩,
  ⟨["kannada", "knda"],
    ["Nc80YdNY3NY17NYaNY5N2Y9NY3NY4N7Y2N6Y2NY4N2YaNY3"],
    ["N951Y2N11Y2N136aYNY2N6YN17YNYN8b3bY6"]⟩,
  ⟨["kaithi", "kthi"],
    ["N11080Y43NaY"],
    ["N966YaN24c1YN79feYa"]⟩,
  ⟨["taitham", "lana"],
    ["N1a20Y3fNY1dN2YbN6YaN6Ye"],
    []⟩,
  ⟨["laoo", "lao"],
    ["Ne81Y2NYNY5NY18NYNY17N2Y5NYNY7NYaN2Y4"],
    []⟩,
  ⟨["latin", "latn"],
    ["N41Y1aN6Y1aN2fYNfYN5Y17NY1fNY1c1N27Y5N1a1bY26N6Y31N5Y4N5YdNY46N41Y100N171YNdYN10YdN8dY2N6Y",
     "N1bYN11Y29Nad7Y20N7aa2Y66N3Y43N2Y2NYNY8N15YeN330Y2bNY9NY4N4f96Y7N41aY1aN6Y1aN825Y6NY2aNY9N",
     "d745Y1fN6Y6"],
    ["Nb7YN204YNaYNY3NYN9YNYN26YfNY2NYNfY3N7Y2NY2N26YN5YN4YdN115Y2N4caY2N7a8YNcfcYN236YNc0YNd26Y",
     "N78e8Y8N226Y"]⟩,
  ⟨["lepcha", "lepc"],
    ["N1c00Y38N3YfN3Y3"],
    []⟩,
  ⟨["limbu", "limb"],
    ["N1900Y1fNYcN4YcN4YN3Yc"],
    ["N965Y"]⟩,
  ⟨["lineara", "lina"],
    ["N10600Y137N9Y16NaY8"],
    ["N10107Y2d"]⟩,
  ⟨["linearb", "linb"],
    ["N10000YcNY1aNY13NY2NYfN2YeN22Y7b"],
    ["N10100Y3N4Y2dN3Y9"]⟩,
  ⟨["lisu"],
    ["Na4d0Y30N7ab0Y"],
    ["N2bcYN10YN2d3cY2"]⟩,
  ⟨["lycian", "lyci"],
    ["N10280Y1d"],
    ["N205aY"]⟩,
  ⟨["lydian", "lydi"],
    ["N10920Y1aN5Y"],
    ["Nb7YN2d79Y"]⟩,
  ⟨["mahajani", "mahj"],
    ["N11150Y27"],
    ["Nb7YN8acYcN9ec0Ya"]⟩,
  ⟨["makasar", "maka"],
    ["N11ee0Y19"],
    []⟩,
  ⟨["mandaic", "mand"],
    ["N840Y1cN2Y"],
    ["N640Y"]⟩,
  ⟨["manichaean", "mani"],
    ["N10ac0Y27N4Yc"],
    ["N640Y"]⟩,
  ⟨["marchen", "marc"],
    ["N11c70Y20N2Y16NYe"],
    []⟩,
  ⟨["medefaidrin", "medf"],
    ["N16e40Y5b"],
    []⟩,
  ⟨["mendekikakui", "mend"],
    ["N1e800Yc5N2Y10"],
    []⟩,
  ⟨["meroiticcursive", "merc"],
    ["N109a0Y18N4Y14N2Y2e"],
    []⟩,
  ⟨["meroitichieroglyphs", "mero"],
    ["N10980Y20"],
    ["N205dY"]⟩,
  ⟨["malayalam", "mlym"],
    ["Nd00YdNY3NY33NY3NY6N4Y10N2Y1a"],
    ["N951Y2N11Y2N1374YN17YN8b3dY3"]⟩,
  ⟨["modi"],
    ["N11600Y45NbYa"],
    ["Na830Ya"]⟩,
  ⟨["mongolian", "mong"],
    ["N1800Y2N2YNY14N6Y59N7Y2bNfdb5Yd"],
    ["N1802Y2NYN829YNfd1Y2N5Y4"]⟩,
  ⟨["mroo", "mro"],
    ["N16a40Y1fNYaN4Y2"],
    []⟩,
  ⟨["meeteimayek", "mtei"],
    ["Naae0Y17Nc9Y2eN2Ya"],
    []⟩,
  ⟨["multani", "mult"],
    ["N11280Y7NYNY4NYfNYb"],
    ["Na66Ya"]⟩,
  ⟨["myanmar", "mymr"],
    ["N1000Ya0N9940Y1fN61Y20N6c50Y14"],
    ["Na92eY"]⟩,
  ⟨["nagmundari", "nagm"],
    ["N1e4d0Y2a"],
    []⟩,
  ⟨["nandinagari", "nand"],
    ["N119a0Y8N2Y2eN2Yb"],
    ["N951YN12Y2N380YaNff9YN8YN7YN8b35Y6"]⟩,
  ⟨["oldnortharabian", "narb"],
    ["N10a80Y20"],
    []⟩,
  ⟨["nabataean", "nbat"],
    ["N10880Y1fN8Y9"],
    []⟩,
  ⟨["newa"],
    ["N11400Y5cNY5"],
    ["N951Y2N1382YNY2N9YN6YNYNY"]⟩,
  ⟨["nkoo", "nko"],
    ["N7c0Y3bN2Y3"],
    ["N60cYNeYN3YNf71eY2"]⟩,
  ⟨["nushu", "nshu"],
    ["N16fe1YN418eY18c"],
    []⟩,
  ⟨["ogham", "ogam"],
    ["N1680Y1d"],
    []⟩,
  ⟨["olchiki", "olck"],
    ["N1c50Y30"],
    []⟩,
  ⟨["oldturkic", "orkh"],
    ["N10c00Y49"],
    ["N205aYNdd5Y"]⟩,
  ⟨["oriya", "orya"],
    ["Nb01Y3NY8N2Y2N2Y16NY7NY2NY5N2Y9N2Y2N2Y3N7Y3N4Y2NY5N2Y12"],
    ["N951Y2N11Y2N1374YN17Y"]⟩,
  ⟨["osage", "osge"],
    ["N104b0Y24N4Y24"],
    ["N301YN2YN6YN4cY"]⟩,
  ⟨["osmanya", "osma"],
    ["N10480Y1eN2Ya"],
    []⟩,
  ⟨["olduyghur", "ougr"],
    ["N10f70Y1a"],
    ["N640YN104b1Y"]⟩,
  ⟨["palmyrene", "palm"],
    ["N10860Y20"],
    []⟩,
  ⟨["paucinhau", "pauc"],
    ["N11ac0Y39"],
    []⟩,
  ⟨["oldpermic", "perm"],
    ["N10350Y2b"],
    ["Nb7YN248YN5Y3NaYN16fY"]⟩,
  ⟨["phagspa", "phag"],
    ["Na840Y38"],
    ["N1802Y2NYN829YNfd2Y"]⟩,
  ⟨["inscriptionalpahlavi", "phli"],
    ["N10b60Y13N5Y8"],
    []⟩,
  ⟨["psalterpahlavi", "phlp"],
    ["N10b80Y12N7Y4NcY7"],
    ["N640Y"]⟩,
  ⟨["phoenician", "phnx"],
    ["N10900Y1cN3Y"],
    []⟩,
  ⟨["miao", "plrd"],
    ["N16f00Y4bN4Y39N7Y11"],
    []⟩,
  ⟨["inscriptionalparthian", "prti"],
    ["N10b40Y16N2Y8"],
    []⟩,
  ⟨["rejang", "rjng"],
    ["Na930Y24NbY"],
    []⟩,
  ⟨["hanifirohingya", "rohg"],
    ["N10d00Y28N8Ya"],
    ["N60cYNeYN3YN20YN93Y"]⟩,
  ⟨["runic", "runr"],
    ["N16a0Y4bN3Yb"],
    ["N16ebY3"]⟩,
  ⟨["samaritan", "samr"],
    ["N800Y2eN2Yf"],
    ["N2e31Y"]⟩,
  ⟨["oldsoutharabian", "sarb"],
    ["N10a60Y20"],
    []⟩,
  ⟨["saurashtra", "saur"],
    ["Na880Y46N8Yc"],
    []⟩,
  ⟨["signwriting", "sgnw"],
    ["N1d800Y28cNfY5NYf"],
    []⟩,
  ⟨["shavian", "shaw"],
    ["N10450Y30"],
    ["Nb7Y"]⟩,
  ⟨["sharada", "shrd"],
    ["N11180Y60"],
    ["N951YN1385YNYN2Y2N2YN9YN2YN8b42Y6N2Y"]⟩,
  ⟨["siddham", "sidd"],
    ["N11580Y36N2Y26"],
    []⟩,
  ⟨["khudawadi", "sind"],
    ["N112b0Y3bN5Ya"],
    ["N964Y2N9ecaYa"]⟩,
  ⟨["sinhala", "sinh"],
    ["Nd81Y3NY12N3Y18NY9NYN2Y7N3YN4Y6NYNY8N6YaN2Y3N103ecY14"],
    ["N964Y2N138cY"]⟩,
  ⟨["sogdian", "sogd"],
    ["N10f30Y2a"],
    ["N640Y"]⟩,
  ⟨["oldsogdian", "sogo"],
    ["N10f00Y28"],
    []⟩,
  ⟨["sorasompeng", "sora"],
    ["N110d0Y19N7Ya"],
    []⟩,
  ⟨["soyombo", "soyo"],
    ["N11a50Y53"],
    []⟩,
  ⟨["sundanese", "sund"],
    ["N1b80Y40N100Y8"],
    []⟩,
  ⟨["sylotinagri", "sylo"],
    ["Na800Y2d"],
    ["N964Y2N80Ya"]⟩,
  ⟨["syriac", "syrc"],
    ["N700YeNY3cN2Y3N110Yb"],
    ["N303Y2N2Y2NYN18Y3N7Y2NY2N2daYNeY2N2YN20YNaYbN1aYN1787YNY"]⟩,
  ⟨["tagbanwa", "tagb"],
    ["N1760YdNY3NY2"],
    ["N1735Y2"]⟩,
  ⟨["takri", "takr"],
    ["N11680Y3aN6Ya"],
    ["N964Y2N9ecaYa"]⟩,
  ⟨["taile", "tale"],
    ["N1950Y1eN2Y5"],
    ["N300Y2N5Y2N3YNd33Ya"]⟩,
  ⟨["newtailue", "talu"],
    ["N1980Y2cN4Y1aN6YbN3Y2"],
    []⟩,
  ⟨["tamil", "taml"],
    ["Nb82Y2NY6N3Y3NY4N3Y2NYNY2N3Y2N3Y3N3YcN4Y5N3Y3NY4N2YN6YNeY15N113c5Y32NdY"],
    ["N951Y2N11Y2N1374YN8c18YN6a0dYNYN37Y2"]⟩,
  ⟨["tangut", "tang"],
    ["N16fe0YN1fY17f8N8Y300N200Y9"],
    ["N2ff0Y10N1efY"]⟩,
  ⟨["taiviet", "tavt"],
    ["Naa80Y43N18Y5"],
    []⟩,
  ⟨["telugu", "telu"],
    ["Nc00YdNY3NY17NY10N2Y9NY3NY4N7Y2NY3N2YN2Y4N2YaN7Y9"],
    ["N951Y2N11Y2N136fY2NYNYN17Y"]⟩,
  ⟨["tifinagh", "tfng"],
    ["N2d30Y38N7Y2NeY"],
    ["N302YNYNY4N19Y"]⟩,
  ⟨["tagalog", "tglg"],
    ["N1700Y16N9Y"],
    ["N1735Y2"]⟩,
  ⟨["thaana", "thaa"],
    ["N780Y32"],
    ["N60cYNeY2N2YN40YaNf788YNaY"]⟩,
  ⟨["thai"],
    ["Ne01Y3aN5Y1c"],
    ["N2bcYN1aYN2bYN2dY"]⟩,
  ⟨["tibetan", "tibt"],
    ["Nf00Y48NY24N4Y27NY24NYfNY7N4Y2"],
    ["N3008Y4"]⟩,
  ⟨["tirhuta", "tirh"],
    ["N11480Y48N8Ya"],
    ["N951Y2N11Y2N136fYNcYNfYN8b3dYa"]⟩,
  ⟨["tangsa", "tnsa"],
    ["N16a70Y4fNYa"],
    []⟩,
  ⟨["toto"],
    ["N1e290Y1f"],
    ["N2bcY"]⟩,
  ⟨["ugaritic", "ugar"],
    ["N10380Y1eNY"],
    []⟩,
  ⟨["vaii", "vai"],
    ["Na500Y12c"],
    []⟩,
  ⟨["vithkuqi", "vith"],
    ["N10570YbNYfNY7NY2NYbNYfNY7NY2"],
    []⟩,
  ⟨["warangciti", "wara"],
    ["N118a0Y53NcY"],
    []⟩,
  ⟨["wancho", "wcho"],
    ["N1e2c0Y3aN5Y"],
    []⟩,
  ⟨["oldpersian", "xpeo"],
    ["N103a0Y24N4Ye"],
    []⟩,
  ⟨["cuneiform", "xsux"],
    ["N12000Y39aN66Y6fNY5NbYc4"],
    []⟩,
  ⟨["yezidi", "yezi"],
    ["N10e80Y2aNY3N2Y2"],
    ["N60cYNeYN3YN40Ya"]⟩,
  ⟨["yiii", "yi"],
    ["Na000Y48dN3Y37"],
    ["N3001Y2N5YaN2Y8NdfYNce65Y5"]⟩,
  ⟨["zanabazarsquare", "zanb"],
    ["N11a00Y48"],
    []⟩,
  ⟨["inherited", "qaai", "zinh"],
    ["N300Y70N115Y2N1c4YbN1aYN2e0Y4N115bY1fN201Y3NYdNY7N4YN6YN3Y2Nc6Y40N20cY2Nc2Y21Nf39Y4N6bY2Nc",
     "d65Y10N10YeN3cfYNe2YN105aYNbbc4Y2eN2Y17N220Y3N11Y8N2Y7N1eY4Nc2f52Yf0"],
    []⟩,
  ⟨["common", "zyyy"],
    ["Y41N1aY6N1aY2fNYfNY5N17YN1fYN1c1Y27N5Y5N2Y14N74YN9YN6YNYN27dYN6YNeYN3YN20YN9cYN204YN81Y2N4",
     "d9YN195Y4N122YN5efY3N47Y2NcbY2NYN4cdYNdYN7Y4NY6NY3N2YN305YcN2Y57NYbN3YbNYfN11Y21N3fY26NY3N",
     "2Y6NY1bNY11N29Y3N4Y29aN16YbN15Y3a0N100Y274N2Y20NY69N200Y5eN192Y15NYNY19NfY8N4Y4N5bY2N3YN5a",
     "Y2N93Y10N20Y26N9YN30Y40N1fY51N2fYN58Ya8N19c0Y40N5900Y22N66Y3Na5YaNf4YNa0YN18bYNeY2N51d2Y2N",
     "d0YaN16Y23NY13NY4N93YNY20N1aY6N1aYbNaYN2dY2N40Y7NY7NaY5N102Y3N4Y2dN3Y9N50YdN33Y2dNe4Y1bNb9",
     "a4Y4Nf5cYfaN6Y1b4N9cY74N3cYf6NaY27N2Y3eN3Y11N8Y2N7Y1eN4Y3dNd5Y14NcY14NcY57N9Y19N87Y55NY47N",
     "Y2N2YN2Y2N2Y4NYcNYNY7NY41NY4N2Y8NY7NY1cNY4NY5NYN3Y7NY154N2Y124N2Y32N1471Y44N4cY3dN2c2Y2cN4",
     "Y64NcYfN2YfNYfNY25NaYaeN38Y1aNY2NdY2cN4Y9N7Y2NeY6N9aY3d8N4Y11N3YdN3Y77N4Y5fN6YcN4YNfYcN4Y3",
     "8N8YaN6Y28N8Y1eN2YcN4Y2N3eY154NcYeN2YdN3YaN5Y38N7YfN2YbN6Y9N7Y93NY66Nc0407YN1eY60"],
    []⟩,
  ⟨["garay", "gara"],
    ["N10d40Y26N3Y1dN8Y2"],
    ["N60cYNeYN3Y"]⟩,
  ⟨["gurungkhema", "gukh"],
    ["N16100Y3a"],
    ["N965Y"]⟩,
  ⟨["kiratrai", "krai"],
    ["N16d40Y3a"],
    []⟩,
  ⟨["olonal", "onao"],
    ["N1e5d0Y2bN4Y"],
    ["N964Y2"]⟩,
  ⟨["sunuwar", "sunu"],
    ["N11bc0Y22NeYa"],
    ["N300Y2NYN9YN2YN1cYN3Y"]⟩,
  ⟨["todhri", "todr"],
    ["N105c0Y34"],
    ["N301YN2YN2YN9YNYN4aY"]⟩,
  ⟨["tulutigalari", "tutg"],
    ["N11380YaNYN2YNY26NYaNYN2YNY4NYaNY2N8Y2"],
    ["Nce6YaN1002YNYN8b3bY6NbbY"]⟩]

/-- The script with a name. -/
def named? (name : String) : Option Script := all.find? fun s => s.names.contains name

/-- The characters whose script this is. -/
def set (s : Script) : CodeSet := CodeSet.unpack s.packed

/-- The characters beside those of `set` that the script uses. -/
def extension (s : Script) : CodeSet := CodeSet.unpack s.packedExtension

/-- Whether a script is the one of characters that no script or every script owns. -/
def isShared (s : Script) : Bool := s.names.contains "common" || s.names.contains "inherited"

/-- The characters that a script uses, its own or not. A shared script keeps those that no other one uses. -/
def extended (s : Script) : CodeSet :=
  if s.isShared then s.set.diff (CodeSet.ofRanges (all.flatMap fun t => t.extension.toList))
  else s.set.union s.extension

end Script

end ScriptCoverage.Unicode
