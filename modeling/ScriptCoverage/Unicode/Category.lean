import ScriptCoverage.Unicode.CodeSet

/-!
The general category of every code point, as edition 17 of the standard assigns it. `Category.ofChar` looks
up a character and `Category.setOf` gives all characters of some categories.
-/

namespace ScriptCoverage.Unicode

/-- The thirty general categories, named by their standard abbreviations. -/
inductive Category
  | lu | ll | lt | lm | lo
  | mn | mc | me
  | nd | nl | no
  | pc | pd | ps | pe | pi | pf | po
  | sm | sc | sk | so
  | zs | zl | zp
  | cc | cf | cs | co | cn
  deriving DecidableEq, Inhabited, Repr

namespace Category

def all : List Category :=
  [.lu, .ll, .lt, .lm, .lo, .mn, .mc, .me, .nd, .nl, .no, .pc, .pd, .ps, .pe, .pi, .pf, .po,
    .sm, .sc, .sk, .so, .zs, .zl, .zp, .cc, .cf, .cs, .co, .cn]

/-- The letter that stands for a category in the table: `A` to `Z`, then `g` to `j`, in the order of `all`. -/
def ofCode? (c : Char) : Option Category :=
  if c.isUpper then all[c.toNat - 65]? else if 'g' ≤ c ∧ c ≤ 'j' then all[c.toNat - 103 + 26]? else none

/-! ### The table -/

/-- Runs of equal categories, packed as for `Runs.unpack`. -/
def packed : List String := [
  "Z20WR3TR3NORSRMR2IaR2S3R2A1aNROULUB1aNSOSZ21WRT4VRUVEPSgVUVSK2UBR2UKEQK3RA17SA7B18SB8ABABABABABAB",
  "ABABABABABABABABABABABABABABABABABABABABABAB2ABABABABABABABAB2ABABABABABABABABABABABABABABABABABA",
  "BABABABABABA2BABAB3A2BABA2BA3B2A4BA2BA3B3A2BA2BABABA2BAB2ABA2BA3BABA2B2EAB3E4ACBACBACBABABABABABA",
  "BABAB2ABABABABABABABABAB2ACBABA3BABABABABABABABABABABABABABABABABABABABABABABABABABABABABAB7A2BA2",
  "B2ABA4BABABABAB45E2B1aD12U4DcUeD5U7DUDU11F70ABABDUABj2DB3RAj4U2ARA3jAjA2BA11jA9B23AB2A3B3ABABABAB",
  "ABABABABABABABAB5ABSABA2B2A33B30ABABABABABABABABABABABABABABABABABVF5H2ABABABABABABABABABABABABAB",
  "ABABABABABABABABABABABABABABA2BABABABABABAB2ABABABABABABABABABABABABABABABABABABABABABABABABABABA",
  "BABABABABABABABABABABABABABABABABABABABABABjA26j2DR6B29RMj2V2TjF2dMFRF2RF2RFj8E1bj4E4R2jbg6S3R2TR",
  "2V2FbRgR3E20DEaF15IaR4E2FE63REF7gVF6D2F2VF4E2IaE3V2ERejgEFE1eF1bj2E59FbEjeIaE21F9D2VR3Dj2FT2E16F4",
  "DF9DF3DF5j2RfjE19F3j2RjEbj5E18UE7g2j5F9E29DF18gF20GE36FGFEG3F8G4FG2EF7EaF2R2IaRDEfFG2jE8j2E2j2E16",
  "jE7jEj3E4j2FEG3F4j2G2j2G2FEj8Gj4E2jE3F2j2IaE2T2K6VTERFj2F2GjE6j4E2j2E16jE7jE2jE2jE2j2FjG3F2j4F2j2",
  "F3j3Fj7E4jEj7IaF2E3FRjaF2GjE9jE3jE16jE7jE2jE5j2FEG3F5jF2GjG2Fj2EjfE2F2j2IaRTj7EF6jFG2jE8j2E2j2E16",
  "jE7jE2jE5j2FEGFGF4j2G2j2G2Fj7F2Gj4E2jE3F2j2IaVEK6jaFEjE6j3E3jE4j3E2jEjE2j3E2j3E3j3Ecj4G2FG2j3G3jG",
  "3Fj2Ej6GjeIaK3V6TVj5FG3FE8jE3jE17jE10j2FEF3G4jF3jF4j7F2jE3jE2j2E2F2j2Iaj7RK7VEFG2RE8jE3jE17jEajE5",
  "j2FEGFG5jFG2jG2F2j7G2j5E3jE2F2j2IajE2GjcF2G2E9jE3jE29F2EG3F4jG3jG3FEVj4E3GK7E3F2j2IaK9VE6jFG2jE12",
  "j3E18jE9jEj2E7j3Fj4G3F3jFjG8j6Iaj2G2RjcE30FE2F7j4TE6DF8RIaR2j25E2jEjE5jE18jEjEaFE2F9Ej2E5jDjF7jIa",
  "j2E4j20EV3RfVRV3F2V6IaKaVFVFVFNONOG2E8jE24j4FeGF5RF2E5FbjF24jV8FV6jV2R5V4R2j25E2bG2F4GF6GF2G2F2EI",
  "aR6E6G2F2E4F3EG3E2G7E3F4EdFG2F2G6FEGIaG3FV2A26jAj5Aj2B2bRDB3E149jE4j2E7jEjE4j2E29jE4j2E21jE4j2E7j",
  "EjE4j2EfjE39jE4j2E43j2F3R9K14j3E10Vaj6A56j2B6j2ME26cVRE11WE1aNOj3E4bR3J3E8j7E12F3Gj9E13F2GR2j9E12",
  "F2jcEdjE3jF2jcE34F2GF7G8FG2FbR3DR3TEFj2Iaj6Kaj6R6MR4F3gFIaj6E23DE35j7E5F2E22FEj5E46jaE1fjF3G4F2G3",
  "j4G2FG6F3j4Vj3R2IaE1ej2E5jbE2cj4E1aj6IaKj3V22E17F2G2Fj2R2E35GFGF7jFGFG2F8G6Faj2FIaj6Iaj6R7DR6j2Fe",
  "HF1fj2Fcj14F4GE2fFGF5GFG5FG2E8jR2IaR7VaF9V9R3F2GE1eGF4G2F2GF3E2IaE2cFGF2G3FGF3G2j8R4E24G8F8G2F2j3",
  "R5Iaj3E3IaE1eD6R2B9ABj5A2bj2A3R8j8F3RFdGF7E4FE6FE2GF2Ej5B2cD3fBdDB22D25F40ABABABABABABABABABABABA",
  "BABABABABABABABABABABABABABABABABABABABABABABABABABABABABABABABABABABABABABABABABABABABABABABABAB",
  "ABABABABABABABABABABABABABABAB9ABABABABABABABABABABABABABABABABABABABABABABABABABABABABABABABABAB",
  "ABABABABABABABABABABABABABABABAB9A8B6j2A6j2B8A8B8A8B6j2A6j2B8jAjAjAjAB8A8Bej2B8C8B8C8B8C8B5jB2A4C",
  "UBU3B3jB2A4CU3B4j2B2A4jU3B8A5U3j2B3jB2A4CU2jWbg5M6R2PQNP2QNPR8XYg5WR9PQR4L2R3SNORbSRLRaWg5jgaKDj2",
  "K6S3NODKaS3NOjDdj3T22jeFdH4FH3FcjfV2AV4AV2BA3B2A3BVAV2SA5V6AVAVAVA4VBA4BE4BV2B2A2S5AB4VSV2BVK10J2",
  "3ABJ4KV2j4S5V5S2V4SV2SV2SV7SV1fS2V2SVSV1fS10cV8NONOV14S2V7NOV51SV1eS19V28S6V48j16Vbj15K3cV4eK16Vb",
  "7SV9SV36S8V6fSVf8NONONONONONONOK1eV2cS5NOS1fNONONONONOS10V100S83NONONONONONONONONONONOS3fNONOS20N",
  "OS102V30S15V2S6V27j2V8aA30B30ABA3B2ABABABA4BAB2AB6D2A3BABABABABABABABABABABABABABABABABABABABABAB",
  "ABABABABABABABABABABABABABABABABABABABABABABABABABABABAB2V6ABABF3ABj5R4KR2B26jBj5Bj2E38j7DRjeFE17",
  "j9E7jE7jE7jE7jE7jE7jE7jE7jF20R2PQPQR3PQRPQR9MR2MRPQR2PQNONONONOR5DRaM2R4MRNRdV2R3NONONONOMj22V1aj",
  "V59jcVd6j1aV10WR3VDEJNONONONONOV2NONONONOMNO2VJ9F4G2MD5V2J3DERV2jE56j2F2U2D2EME5aRD3Ej5E2bjE5ejV2",
  "K4VaE20V26j9VE10V1fjKaV1eK8VKfV20KaV27KfV140E19c0V40E5215DE477j3V37j9E28D6R2E10cDR3E10IaE2j14ABAB",
  "ABABABABABABABABABABABABABABABABABABABABABEFH3RFaRDABABABABABABABABABABABABABABD2F2E46JaF2R6j8U17",
  "D9U2ABABABABABABAB3ABABABABABABABABABABABABABABABABABABABABABABABABABABABABABABABDB8ABABA2BABABAB",
  "ABDU2ABABEABAB3ABABABABABABABABABABA5BA5BABABABABABABABA4BABA2BABABABABABABABAj14D4ABED2BE7FE3FE4",
  "FE17G2F2GV4Fj3K6V2TVj6E34R4j8G2E32G10F2j8R2Iaj6F12E6R3ERE2FIaE1cF8R2E17FbG2jbRE1dj3F3GE2fFG2F4G2F",
  "2G3RdjDIaj4R2E5FDE9IaE5jE29F6G2F2G2F2j9E3FE8FGj2Iaj2R4E10DE6V3EGFGE32FEF3E2F2E5F2EFEj18E2DR2EbGF2",
  "G2R2ED2GFjaE6j2E6j2E6j9E7jE7jB2bUD4B9DU2j4B50E23G2FG2FG2RGFj2Iaj6E2ba4jcE17j4E31j4h800i1900E16ej2",
  "E6aj26B7jcB5j5EFEaSEdjE5jEjE2jE2jE6cU11V10E16bONV10E40V2E36V8j20EcTV3F10R7NORj6F10RM2L2NONONONONO",
  "NONONOR2NOR4L3R3jR4MNONONOR3SMS3jRTR2j4E5jE87j2gjR3TR3NORSRMR2IaR2S3R2A1aNROULUB1aNSOSNORNOR2EaDE",
  "2dD2E1fj3E6j2E6j2E6j2E3j3T2SUVT2jVS4V2jag3V2j2EcjE1ajE13jE2jEfj2Eej22E7bj5R3j4K2dj3V9J35K4V11K2V3",
  "jVdj3Vj2fV2dFj82E1dj3E31jfFK1bj4E20K4j9E14JE8Jj5E26F5j5E1ejRE24j4E8RJ5j2aA28B28E4ej2Iaj6A24j4B24j",
  "4E28j8E34jbRAbjAfjA7jA2jBbjBfjB7jB2j3E34jcE137j9E16jaE8j18D6jD2ajD9j45E6j2EjE2cjE2j3Ej2E17jRK8E17",
  "V2K7E1fj8K9j30E13jE2j5K5E16K6j3RE1aj5RE1aj26E38j4K2E2K10j2K2eEF3jF2j5F4E4jE3jE1dj2F3j4FK9j7R9j7E1",
  "dK2RE1dK3j20E8VE1cF2j4K5R7j9E36j3R7E16j2K8E13j5K8E12j7R4jcK7j50E49j37A33jdB33j7K6E24F4j8Iaj6IaE4D",
  "EA16j3F5MDB16j8S2jd0K1fjE2ajF2Mj2E2j10E3DE2j8RV8j21F6E1dKaEj8E16FbK4R5j16E12F4R4j26E15K7j14E17j9G",
  "FGE35FfR7j4K14IaFE2F2Ej9F3GE2dG3F4G2F2R2gR4Fjagj2E19j7Iaj6F3E24F5GF8jIaR4EG2Ej8E23FR2Ej9F2GE30G3F",
  "9G2E4R4F4RGFIaERER3jK14jbE12jE19G3F3G2FGF2R6FE2Fj3eE7jEjE4jEfjEaRj6E2fFG3F8j5Iaj6F2G2jE8j2E2j2E16",
  "jE7jE2jE5jF2EG2FG4j2G2j2G3j2Ej6Gj5E5G2j2F7j3F5jbEajEj2EjE26jEG3F6jGj2GjG4jG2FGFEFER2jR2j8F2j1dE35",
  "G3F8G2F3GFE4R5IaR2jRFE3j1eE30G3F6GFG4F2GF2E2REj8Iaja6E2fG3F4j2G4F2GF2R17E4F2j22E30G3F8G2FGF2R3Ejb",
  "Iaj6Rdj13E2bFGFG2F6GFERj6Iaj6I14j1cE1bj2FGFG2F4GF5j4IaK2R3VE7jb9E2cG3F9GF2Rj64A20B20IaK9jcE8j2Ej2",
  "E8jE2jE18G6jG2j2F2GFEGEGFR3j9Iaj46E8j2E27G3F4j2F2G4FEREGj1bEFaE28F6GEF4R8Fj8EF6G2F3E2eFdGF2R3ER5j",
  "dE49j7Raj56FGF3GFGj58E21RjeIaj6E9jE25GF7jF6GFER5jaIaK13j3R2E1ej2F16jGF7GF2GF2j49E7jE2jE26F6j3FjF2",
  "jF7EFj8Iaj6E6jE2jE20G5jF2jG2FGFEj7Iaj6E29DE2j4Iajf6E13F2G2R2j7F2EGEdjE22G2F5j3G2FGFRdIaFj55EjfK15",
  "V8T4V11jdRE39aj66J6fjR5jbEc4ja4cE61R2jdE430g10FE6FfjaEf9bj5E247j1ab9E1eFcG3F3Iaj6c6E239j7E1fjIaj4",
  "R2E4fjIaj6E1ej2F5RjaE30F7R5V4D4RVjaIajK7jE15j5E13j1b0D3E28D2R3Iajc6A20B20K17R4j5A19j2B19j2cE4bj4F",
  "EG37j7F4Ddj40D2RDFjbG2D2J3j9E1cd6j29E20j61E73j21fdD4jD7jD2jE123jfEj1dE3j2EjeE4j8E18cj904E6bj5Edj3",
  "E9j7Eaj2VF2Rg4jf5cVf0IaV3j3V1b4j6V17jfV10SjfF2ej2F17j9V74j3cVf6jaV27j2V3cG2F3V3G6g8F8V2F7V1eF4V3d",
  "j15V42F3Vj7aK14jcK14jcV57j9K19j87A1aB1aA1aB7jB12A1aB1aAjA2j2Aj2A2j2A4jA8B4jBjB7jBbA1aB1aA2jA4j2A8",
  "jA7jB1aA2jA4jA5jAj3A7jB1aA1aB1aA1aB1aA1aB1aA1aB1aA1aB1aA1aB1cj2A19SB19SB6A19SB19SB6A19SB19SB6A19S",
  "B19SB6A19SB19SB6ABj2I32V200F37V4F32V8FVeFV2R5jfF5jFfj450BaEB14j6B6jd5F7jF11j2F7jF2jF5j5D3ej21Fj70",
  "E2dj3F7D7j2Iaj4EVj140E1eFj11E2cF4Iaj5Tj1d0E1bDF4Iajd6E1eF2EIaj4Rjc0E1fjE3FE2FE7F2E5Fj8EDje0E7jE4j",
  "E2jEfjEc5j2K9F7j29A22B22F7Dj4Iaj4R2j311K3bVK3TK4j4cK2dVKfjc2E4jE1bjE2jEj2EjEajE4jEjEj6Ej4EjEjEjE3",
  "jE2jEj2EjEjEjEjEjE2jEj2E4jE7jE4jE4jEjEajE11j5E3jE5jE11j34S2j10eV2cj4V64jcVfj2VfjVfjV25jaKdVa1j38V",
  "1djdV2cj4V9j7V2jeV6j9aVfbU5V2d9j3V11j3Vdj3Vdaj6Vcj4VjfVcj4V38j8Vaj6V28j8V1ej2Vcj4V2jeS9j27V158j8V",
  "ej2Vdj3Vbj3V39jVj4V10j2Vcj4Vaj7V93jV5cIaVj405Ea6e0j20E111ej2E168ej2E1d31jfE26ej9a2E21ej5e2E134bj5",
  "E212ajacb87gj1eg60j80Ff0jfe10ifffej2ifffej2"]

/-- The category of every code point. -/
def runs : Runs Category := Runs.unpack ofCode? packed

def ofCode (c : Nat) : Category := (runs.get? c).getD .cn

def ofChar (c : Char) : Category := ofCode c.toNat

/-- All code points whose categories have a property. -/
def setOf (p : Category → Bool) : CodeSet := CodeSet.ofRanges (runs.ranges p)

def isLetter : Category → Bool
  | .lu | .ll | .lt | .lm | .lo => true
  | _ => false

def isMark : Category → Bool
  | .mn | .mc | .me => true
  | _ => false

end Category

end ScriptCoverage.Unicode
