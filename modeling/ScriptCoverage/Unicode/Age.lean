import ScriptCoverage.Unicode.CodeSet

/-!
The edition of the standard that assigned each code point, noncharacters and private ones included.
`assignedBy` is the set of all code points that an edition knows.
-/

namespace ScriptCoverage.Unicode

/-- An edition of the standard, by its two leading numbers. -/
structure Edition where
  major : Nat
  minor : Nat
  deriving DecidableEq, Inhabited, Repr

namespace Edition

/-- The editions that assigned code points, in their order. -/
def all : List Edition := [
  ⟨1, 1⟩, ⟨2, 0⟩, ⟨2, 1⟩, ⟨3, 0⟩, ⟨3, 1⟩, ⟨3, 2⟩, ⟨4, 0⟩, ⟨4, 1⟩, ⟨5, 0⟩, ⟨5, 1⟩,
  ⟨5, 2⟩, ⟨6, 0⟩, ⟨6, 1⟩, ⟨6, 2⟩, ⟨6, 3⟩, ⟨7, 0⟩, ⟨8, 0⟩, ⟨9, 0⟩, ⟨10, 0⟩, ⟨11, 0⟩,
  ⟨12, 0⟩, ⟨12, 1⟩, ⟨13, 0⟩, ⟨14, 0⟩, ⟨15, 0⟩, ⟨15, 1⟩, ⟨16, 0⟩, ⟨17, 0⟩]

def le (a b : Edition) : Bool := a.major < b.major || (a.major == b.major && a.minor ≤ b.minor)

/-- The letter that stands for an edition in the table: `A` to `Y`, then `g` to `i`, in the order of `all`.
`Z` stands for code points without a meaning. -/
def ofCode? (c : Char) : Option (Option Edition) :=
  if c == 'Z' then some none
  else if c.isUpper then some all[c.toNat - 65]?
  else if 'g' ≤ c ∧ c ≤ 'i' then some all[c.toNat - 103 + 25]?
  else none

/-- Runs of code points that one edition assigned. -/
def packed : List String := [
  "A1f6D4A1eD8FGD12G3HbIeA59D5G2A2fDAaD5G11A46D9FG8H5G3A2DFdJ4A2J2Z2AI3APZ4A7ZAZA14ZA2cJA7DF2ADADADA",
  "DA12E2FG5H4DAcDA42DAcDA29JD2F2D4A35F2A2F2A2F2IA1cD2A8H2A2I6F10I4J10K2L2P8ZA26Z2A7TA27TADZ2P2MZB11",
  "HBdAaIA9BH3Z8A1bZ4TA5ZbG4MPJ5HAG9J5AOXHALA1aJ5A13D3G3H6LAeF2A48D2A5DAfDA1eG2AaD5GDeZD1eG3D1bZ2G3H",
  "1eJ12D31FZeI3bZ2T3K2eZ2KfZL1cZ2LZSbZ5X1fiX2Z5hX8MPMbP6Q2XR8WaXbTRfQM1bPKA3GA35L2A12KLA5KL2A19J2L5",
  "PK2I2HI2PA3ZA8Z2A2Z2A16ZA7ZAZ3A4Z2AGA7Z2A2Z2A3HZ8AZ4A2ZA5Z2A15KS2TZ2GAGZA6Z4A2Z2A16ZA7ZA2ZA2ZA2Z2",
  "AZA5Z4A2Z2A3Z3JZ7A4ZAZ7AfJTZaA3ZA7GAZA3ZA16ZA7ZA2ZA5Z2AaZA3ZA3Z2AZfAG3Z2AaMGZ7QS6ZA3ZA8Z2A2Z2A16Z",
  "A7ZA2ZGA4Z2A8JZ2A2Z2A3Z7WA2Z4A2ZA3J2Z2AbGL6ZaA2ZA6Z3A3ZA4Z3A2ZAZA2Z3A2Z3A3Z3A8HA3Z4A5Z3A3ZA4Z2JZ6",
  "AZeHAcG8Z5PA3TA8ZA3ZA17ZAaPA5Z2XJA7ZA3ZA4Z7A2ZJ2QZiXZ2A2J2Z2AaZ7UJ8RPA2TA8ZA3ZA17ZAaZA5Z2G2A7ZA3Z",
  "A4Z7A2Z5iXAZA2I2Z2AaZI2YZcSPA2WA8ZA3ZA17LA10LS2JA6JZA3ZA4LRZ4R3AR7QA2J2Z2AaJ6R3J7ZWD2ZD12Z3D18ZD9",
  "ZDZ2D7Z3DZ4D6ZDZD8Z6PaZ2D3ZcA3aZ4A1dZ25A2ZAZUA2UAZUAU6A4UA7UA3ZAZAU2A2UAdUA3Z2A5ZAZA6YZAaZ2A2M2Z2",
  "0B48ZB21DJ2Z4B1bL4B6DBZB15D3B7DBD3ZDfZJDH2J3K4L2Z25D22JD5JD2JD7J3D4J6D1aJ40K4J2A26ZMZ5MZ2A27F2H2A",
  "HM3A5aK5A44K5A52K6D7HD3fHDZD4Z2D7ZDZD4Z2D27HDZD4Z2D1fHDZD4Z2D7ZDZD4Z2D7HD7ZD17HD1fHDZD4Z2D7HD27HD",
  "13Z2L2H2D1cZ3H1aZ6D55QZ2Q6Z2KD276K9D1dZ3D51P8Z7FdXF7XZ9XF17Z9F14ZcFdZF3ZF2ZcD5dGZ2DaZ6GaZ6DfXDaZ6",
  "D58TZ7D2aJZ5K46ZaG1dP2ZGcZ4GcZ4GZ3G2aZ2G5ZbH2aK2Z4H1aZ6HaKZ3H2G20H1cZ2H2K3fZK1dZ2KbZ6KaZ6KeZ2PfW2",
  "XeifZ2icZ14I4cXZh2I2dX2hJ2bM3JcM6L34Z8L4J38Z3JfZ3J33R9h2Z5T2bZ2T3M8Z8K23M4SP2UZ5G6cH58I7J1cPfS4XR",
  "LKI2A9bBJ4A5aJ6A16Z2A6Z2A26Z2A6Z2A8ZAZAZAZA1fZ2A35ZAfZAeZ2A6ZA13Z2A3ZA9ZA2fDA17FD6F5G2H2FH7F5JZO4",
  "A7FZ2A1bZH5L8Z3AbBCD3F2H4K3LNP3QSXiZeA12D2F7HI4JZfA39D2GHFfHI2JK3A30DIJ4KQ2Z4A5bD9FcAf2FeADA79DFD",
  "1eF34G2HbIcKLbP7R4SA25D2h3Z16AbZ15A8bF14GA96FaA50D8F8A14G2F2HDA56D2FcH2FaG8HbJK2G2H10IJaK3J4KaLK1",
  "3LKL4K18PA4LA4L2A1cLA23LALA4L3AKA7L2A7FeA1fL3A18LAeLH7I4MJML2F1cJ4F10D100F200GeH6I7J5I4J29P3J5K5P",
  "1aZ2P20iWP22T3PcUP8ST19Q4TfUH2fXH2fXIdJ3KJ3I4J6K2H6bK7M2Z5H2dZMZ5MZ2H36M2Z7HLZeLH17Z9H7ZH7ZH7ZH7Z",
  "H7ZH7ZH7ZH7ZJ20H18J4H2J13KMaP7R2S5T5UW3XbZ22D1aZD59ZcDd6Z1aDcg4A38D3F3DAZA54F2Z2A6F2A5eFZ5A28JSTZ",
  "A5eZA10D18L3W5H10J14h2Z9gF10A1dG2ZA24KcGFfA1cG2HA32FfAcG4A2fVA77G4A63G2A1fGD19b6WaG40A51a6H16J8K8",
  "MQ9S15T5WdX3D48dZ3D12F2D10FDcFD3FDZ9K30J12cZ14J20L2J12M8J1cP6QMK58Z8H17I4J5I2J6bL2QL2M2PcLaMP3RTP",
  "2Q6T2U6X2U5W4h3i2X2iXiX5h3Z14iX3W2PM2LJ5H2cWZ3KaZ6I38Z8J45RZ8JcZ6K1cQ2T2J54ZbJK1dZ3K4eZKbZ4K2P1fZ",
  "J37Z9JeZ2JaZ2J4K1cP4K43Z18K5M17ZaL6Z2L6Z2L6Z9L7ZL7ZP30Q4P2U2W4Z4Q50K2eZ2KaZ6B2ba4ZcK17Z4K31Z4B800",
  "A1a2eM2F3bK3Z2H6aZ26A7ZcA5Z5DA19ZA5ZAZA2ZA2ZA6cL10Xi10A16dX10A40i2A36i7XE20AcFGX2F10HaZ6A4J3P7Q2A",
  "15F2G2AaZA13ZA4Z4A3FAZA87Z2AZA5eF2A5eZ3A6Z2A6Z2A6Z2A3Z3A7ZA7ZaD3CA3GcZG1aZG13ZG2ZGfZ2GeZ22G7bZ5G3",
  "Z4G2dZ3G9H4bP2R2ZJcWZ3PZ2fJ2eZ82J1dZ3J31ZfP1cZ4E1fPE4Z9S3E1bZ5P2bZ5G1eZGH24Z4HeZ2aE26G2E26G50Z2Ga",
  "Z6R24Z4R24Z4P28Z8P34ZbPXbZXfZX7ZX2ZXbZXfZX7ZX2Z3h34ZcP137Z9P16ZaP8Z18X6ZX2aZX9Z45G6Z2GZG2cZG2Z3GZ",
  "2GK16ZK9P3fZ8P9Z30Q13ZQ2Z5Q5I1aK2Z3IJ1aZ5Ji1aZ26M38Z4Q2M2Q10Z2Q2eH4ZH2Z5H8ZH3ZH1bT2Z2H3Z4H9TZ7H9Z",
  "7K20P20Z20P27Z4PcZ9K36Z3K1dZ2K1bZ5K8P12Z7P4ZcP7Z50K49Z37Q33ZdQ33Z7Q6T28Z8TaZ6h26Z3h1dZ8h2Zd0K1fZW",
  "2aZW3Z2W2Z10h3i3Z8i9Z21i2hY3T28Z8T2aZ16X1aZ26W1cZ14U17Z9L4eZ4L1eX6Z9PK42XZaTZ2M19Z7MaZ6M35ZMeT3WZ",
  "8P27Z9M49Q4PW2MaPQ5ZP14ZbP12ZP2bRY3Z3eQ7ZQZQ4ZQfZQbZ6P3bZ5PaZ6QP3ZP8Z2P2Z2P16ZP7ZP2ZP5ZTP9Z2P2Z2P",
  "3Z2QZ6PZ5P7Z2P7Z3P5ZbhaZhZ2hZh26ZhaZhZ2hZh4ZhaZh2Z8h2Z1dR5aWRZRTUW2Z1eP48Z8PaZa6P36Z2P12Q14Z22P45",
  "ZbPaZ6RdZ13M38UXZ6MaZ6h14Z1cQ1aTZ2QfZ4Q10X7Zb9T3cZ64P53ZcPW7Z2WZ2W8ZW2ZW1eZW2Z2WcZ9WaZ46U8Z2U2eZ2",
  "UbZ1bS48Z8S34U2S17TS5ZdX10P39Z7YaZ56i8Z58h22ZehaZ6R9ZR2dZReZaR1dZ3R20Z2R16ZReZ49S7ZS2ZS2cZ3SZS2ZS",
  "9Z8SaZ6T6ZT2ZT25ZT2ZT6Z7TaZ6i2cZ4iaZf6T19Z7Y11ZY29Z3Y1chZ55WZfU32ZdUI36fP2aQZ66I63PcZI4PZbQc4Za4c",
  "X63ZdK42fYU9Y1dZahf9bZ5Q247Z1ab9h3aZ6c6L239Z7P1fZPaZ4P2X4fZXaZ6P1eZ2P6ZaP46ZaPaZP7ZP15Z5P13Z1b0h3",
  "aZc6T5bZ5i19Z2i19Z2cM45U6Z4UM2fU9Z7M11Z40RSU2WZbW2i5Z9R17edT5U6i8R2f3W1e3Z29hW9i16Z61i73Z21fdX4ZX",
  "7ZX2ZL2S11dX4ZfYZ1dU3Z2YZeU4Z8S18cZ904P6bZ5PdZ3P9Z7PaZ2P8Zf5chfai3Z3h1b4Z6i17Zfi11ZfX2eZ2X17Z9X74",
  "Z3cEf6ZaE27Z2JEb4QbX2Z15H46Z7aY14ZcT14ZcG57Z9I12T7Z87E55ZE47ZE2Z2EZ2E2Z2E4ZEcZEZE4GE2ZE41ZE4Z2E8Z",
  "E7ZE1cZE4ZE5ZEZ3E7ZE152H2Z2E122I2Z2E32Q28cZfQ5ZQfZ450X1fZ6Y6Zd5R7ZR11Z2R7ZR2ZR5Z5Y3eZ21YZ70U2dZ3U",
  "eZ2UaZ4U2Z140X1fZ11U3aZ5UZ1d0Y2aZd6h2bZ4hZc0i1fZi16Z8i2Ze0X7ZX4ZX2ZXfZPc5Z2P10Z29R4bUZ4RaZ4R2Z311",
  "T44Z4cU3dZc2M4ZM1bZM2ZMZ2MZMaZM4ZMZMZ6MZ4MZMZMZM3ZM2ZMZ2MZMZMZMZMZM2ZMZ2M4ZM7ZM4ZM4ZMZMaZM11Z5M3Z",
  "M5ZM11Z34M2Z10eJ2cZ4J64ZcLfZ2LePZLfZLfP16ZaKbP2W3K1fTLKLbKLKL2KL3KL3K5L8KL7KLaM2UW3L9KLK2L2KLaK4L",
  "2KLaR12WZ38L1aKL2ZdK22L9RZ4K9Z7L2ZeS6Z9aL21PcQ3L6PL46PQ2L14PcL25PL5P4Q5PcL11P7Q8L3fPLPLb6PL4P2QL3",
  "eP2M4P7Q5L18P12RP29RP56L5ML10ML3MLMLMLML3ML6M2L4MLM2L4MLcP2Q2LbP30L46PaQR2S2UW2iZ3YX3PdZ3P4R3S2TU",
  "W2Z3L74Y3i4Y5P55T4YZ6UcZ4XZfPcZ4P38Z8PaZ6P28Z8P1eZ2W2haZ4h2Zei9Z27ScWU3Q9R6SR8S8RS2RcURcST3RfSdT5",
  "UWT4W2XTUT4Q5RdS6TbW2U6W3U2TaU6QT2U8WXU3S17T19U54i4Z8TeZ2U4WY3U3X2Z3U3W4Y2hiZ3ihU6W13X4Y3W7X4Y3hY",
  "W3X3hZiZ4iY2W7X3Y2hZ2hX8YhiZ4iX7Y2Z7W93ZW37h25WaiZ403B2Ea6d7W7X2Z20K1035X4Yi6LdeZ2Q1682icZ2S1d31Z",
  "fg26eZ9a2E21eZ5e0B2W134bZ5Y1060i10caZcb84B2ZfffeB2ZfffeB2ZfffeB2ZfffeB2ZfffeB2ZfffeB2ZfffeB2Zfffe",
  "B2ZfffeB2ZfffeB2ZEZ1eE60Z80Gf0Zfe0eB20002"]

/-- The edition of every code point. -/
def runs : Runs (Option Edition) := Runs.unpack ofCode? packed

/-- All code points that have a meaning in an edition. -/
def assignedBy (e : Edition) : CodeSet := CodeSet.ofRanges (runs.ranges fun a => a.any (·.le e))

/-- All code points that got their meaning after an edition. -/
def addedAfter (e : Edition) : CodeSet := CodeSet.ofRanges (runs.ranges fun a => a.any (!·.le e))

end Edition

end ScriptCoverage.Unicode
