import LayerLint.Text.Ranges

/-!
# `Text.LineClass` — the role of a character in line breaking

Data only. Each character has one role, and the roles of two neighbours decide whether a line may
break between them.

## Contents
- **Classes.** `LineClass`.
- **Tables.** The characters of each class, in ascending order; letters are those in no table.
- **Lookup.** `lineClass`.
-/

namespace LayerLint.Text

/-! ## Classes -/

/-- The roles of characters in line breaking. -/
inductive LineClass where
  /-- Form feeds and separators, which end a line. -/
  | mandatory
  | carriageReturn
  | lineFeed
  | nextLine
  | space
  /-- The space of no width. -/
  | zeroSpace
  /-- Characters that only forbid a break. -/
  | wordJoiner
  /-- Blanks and hyphens that do not break. -/
  | glue
  /-- The character that joins its neighbours. -/
  | joiner
  /-- Marks, which belong to the character before them. -/
  | mark
  /-- Dashes, which may stand at the end and at the start of a line. -/
  | dash
  | breakAfter
  | breakBefore
  /-- The hyphen-minus. -/
  | hyphen
  /-- The stand-in for an object. -/
  | object
  | closing
  /-- Closing parentheses and square brackets. -/
  | closingParen
  /-- Exclamation and question marks. -/
  | exclamation
  /-- Dots of an ellipsis. -/
  | leader
  | nonStarter
  | opening
  /-- Opening brackets that take two columns. -/
  | wideOpening
  | quotation
  /-- Quotation marks that open. -/
  | openingQuote
  /-- Quotation marks that close. -/
  | closingQuote
  /-- Commas, points and colons. -/
  | separator
  | numeric
  /-- Signs after a number, such as percent. -/
  | unitAfter
  /-- Signs before a number, such as those of currencies. -/
  | unitBefore
  | slash
  | emojiBase
  | emojiModifier
  | leadJamo
  | vowelJamo
  | tailJamo
  | hebrew
  /-- Letters that stand before a Brahmic syllable. -/
  | syllablePrelude
  /-- Consonants that begin or continue a Brahmic syllable. -/
  | syllableLetter
  /-- Letters that only begin a Brahmic syllable. -/
  | syllableStart
  /-- The circle that stands for a missing consonant. -/
  | dottedCircle
  /-- Signs that join two consonants. -/
  | virama
  /-- Signs that end a syllable. -/
  | finalVirama
  | ideograph
  | regional
  /-- Hangul syllables without a final consonant. -/
  | openSyllable
  /-- Hangul syllables with one. -/
  | closedSyllable
  /-- Letters and everything else. -/
  | letter
  deriving Repr, DecidableEq

/-! ## Tables -/

/-- Marks that combine with the character before them, and control characters. -/
def markRanges : List (Nat × Nat) :=
  [(0x0000, 0x0008), (0x000E, 0x001F), (0x007F, 0x0084), (0x0086, 0x009F), (0x0300, 0x034E),
   (0x0350, 0x035B), (0x0363, 0x036F), (0x0483, 0x0489), (0x0591, 0x05BD), (0x05BF, 0x05BF),
   (0x05C1, 0x05C2), (0x05C4, 0x05C5), (0x05C7, 0x05C7), (0x0610, 0x061A), (0x061C, 0x061C),
   (0x064B, 0x065F), (0x0670, 0x0670), (0x06D6, 0x06DC), (0x06DF, 0x06E4), (0x06E7, 0x06E8),
   (0x06EA, 0x06ED), (0x0711, 0x0711), (0x0730, 0x074A), (0x07A6, 0x07B0), (0x07EB, 0x07F3),
   (0x07FD, 0x07FD), (0x0816, 0x0819), (0x081B, 0x0823), (0x0825, 0x0827), (0x0829, 0x082D),
   (0x0859, 0x085B), (0x0898, 0x089F), (0x08CA, 0x08E1), (0x08E3, 0x0903), (0x093A, 0x093C),
   (0x093E, 0x094F), (0x0951, 0x0957), (0x0962, 0x0963), (0x0981, 0x0983), (0x09BC, 0x09BC),
   (0x09BE, 0x09C4), (0x09C7, 0x09C8), (0x09CB, 0x09CD), (0x09D7, 0x09D7), (0x09E2, 0x09E3),
   (0x09FE, 0x09FE), (0x0A01, 0x0A03), (0x0A3C, 0x0A3C), (0x0A3E, 0x0A42), (0x0A47, 0x0A48),
   (0x0A4B, 0x0A4D), (0x0A51, 0x0A51), (0x0A70, 0x0A71), (0x0A75, 0x0A75), (0x0A81, 0x0A83),
   (0x0ABC, 0x0ABC), (0x0ABE, 0x0AC5), (0x0AC7, 0x0AC9), (0x0ACB, 0x0ACD), (0x0AE2, 0x0AE3),
   (0x0AFA, 0x0AFF), (0x0B01, 0x0B03), (0x0B3C, 0x0B3C), (0x0B3E, 0x0B44), (0x0B47, 0x0B48),
   (0x0B4B, 0x0B4D), (0x0B55, 0x0B57), (0x0B62, 0x0B63), (0x0B82, 0x0B82), (0x0BBE, 0x0BC2),
   (0x0BC6, 0x0BC8), (0x0BCA, 0x0BCD), (0x0BD7, 0x0BD7), (0x0C00, 0x0C04), (0x0C3C, 0x0C3C),
   (0x0C3E, 0x0C44), (0x0C46, 0x0C48), (0x0C4A, 0x0C4D), (0x0C55, 0x0C56), (0x0C62, 0x0C63),
   (0x0C81, 0x0C83), (0x0CBC, 0x0CBC), (0x0CBE, 0x0CC4), (0x0CC6, 0x0CC8), (0x0CCA, 0x0CCD),
   (0x0CD5, 0x0CD6), (0x0CE2, 0x0CE3), (0x0CF3, 0x0CF3), (0x0D00, 0x0D03), (0x0D3B, 0x0D3C),
   (0x0D3E, 0x0D44), (0x0D46, 0x0D48), (0x0D4A, 0x0D4D), (0x0D57, 0x0D57), (0x0D62, 0x0D63),
   (0x0D81, 0x0D83), (0x0DCA, 0x0DCA), (0x0DCF, 0x0DD4), (0x0DD6, 0x0DD6), (0x0DD8, 0x0DDF),
   (0x0DF2, 0x0DF3), (0x0F18, 0x0F19), (0x0F35, 0x0F35), (0x0F37, 0x0F37), (0x0F39, 0x0F39),
   (0x0F3E, 0x0F3F), (0x0F71, 0x0F7E), (0x0F80, 0x0F84), (0x0F86, 0x0F87), (0x0F8D, 0x0F97),
   (0x0F99, 0x0FBC), (0x0FC6, 0x0FC6), (0x135D, 0x135F), (0x1712, 0x1715), (0x1732, 0x1734),
   (0x1752, 0x1753), (0x1772, 0x1773), (0x180B, 0x180D), (0x180F, 0x180F), (0x1885, 0x1886),
   (0x18A9, 0x18A9), (0x1920, 0x192B), (0x1930, 0x193B), (0x1A17, 0x1A1B), (0x1A7F, 0x1A7F),
   (0x1AB0, 0x1ACE), (0x1B00, 0x1B04), (0x1B34, 0x1B43), (0x1B6B, 0x1B73), (0x1B80, 0x1B82),
   (0x1BA1, 0x1BAD), (0x1BE6, 0x1BF1), (0x1C24, 0x1C37), (0x1CD0, 0x1CD2), (0x1CD4, 0x1CE8),
   (0x1CED, 0x1CED), (0x1CF4, 0x1CF4), (0x1CF7, 0x1CF9), (0x1DC0, 0x1DCC), (0x1DCE, 0x1DFB),
   (0x1DFD, 0x1DFF), (0x200C, 0x200C), (0x200E, 0x200F), (0x202A, 0x202E), (0x2066, 0x206F),
   (0x20D0, 0x20F0), (0x2CEF, 0x2CF1), (0x2D7F, 0x2D7F), (0x2DE0, 0x2DFF), (0x302A, 0x302F),
   (0x3035, 0x3035), (0x3099, 0x309A), (0xA66F, 0xA672), (0xA674, 0xA67D), (0xA69E, 0xA69F),
   (0xA6F0, 0xA6F1), (0xA802, 0xA802), (0xA806, 0xA806), (0xA80B, 0xA80B), (0xA823, 0xA827),
   (0xA82C, 0xA82C), (0xA880, 0xA881), (0xA8B4, 0xA8C5), (0xA8E0, 0xA8F1), (0xA8FF, 0xA8FF),
   (0xA926, 0xA92D), (0xA947, 0xA953), (0xA980, 0xA983), (0xA9B3, 0xA9BF), (0xAA29, 0xAA36),
   (0xAA43, 0xAA43), (0xAA4C, 0xAA4D), (0xAAEB, 0xAAEF), (0xAAF5, 0xAAF6), (0xABE3, 0xABEA),
   (0xABEC, 0xABED), (0xFB1E, 0xFB1E), (0xFE00, 0xFE0F), (0xFE20, 0xFE2F), (0xFFF9, 0xFFFB),
   (0x101FD, 0x101FD), (0x102E0, 0x102E0), (0x10376, 0x1037A), (0x10A01, 0x10A03),
   (0x10A05, 0x10A06), (0x10A0C, 0x10A0F), (0x10A38, 0x10A3A), (0x10A3F, 0x10A3F),
   (0x10AE5, 0x10AE6), (0x10D24, 0x10D27), (0x10EAB, 0x10EAC), (0x10EFD, 0x10EFF),
   (0x10F46, 0x10F50), (0x10F82, 0x10F85), (0x11000, 0x11002), (0x11038, 0x11045),
   (0x11070, 0x11070), (0x11073, 0x11074), (0x11080, 0x11082), (0x110B0, 0x110BA),
   (0x110C2, 0x110C2), (0x11100, 0x11102), (0x11127, 0x11134), (0x11145, 0x11146),
   (0x11173, 0x11173), (0x11180, 0x11182), (0x111B3, 0x111C0), (0x111C9, 0x111CC),
   (0x111CE, 0x111CF), (0x1122C, 0x11237), (0x1123E, 0x1123E), (0x11241, 0x11241),
   (0x112DF, 0x112EA), (0x11300, 0x11303), (0x1133B, 0x1133C), (0x1133E, 0x11344),
   (0x11347, 0x11348), (0x1134B, 0x1134C), (0x11357, 0x11357), (0x11362, 0x11363),
   (0x11366, 0x1136C), (0x11370, 0x11374), (0x11435, 0x11446), (0x1145E, 0x1145E),
   (0x114B0, 0x114C3), (0x115AF, 0x115B5), (0x115B8, 0x115C0), (0x115DC, 0x115DD),
   (0x11630, 0x11640), (0x116AB, 0x116B7), (0x1182C, 0x1183A), (0x11930, 0x11935),
   (0x11937, 0x11938), (0x1193B, 0x1193D), (0x11940, 0x11940), (0x11942, 0x11943),
   (0x119D1, 0x119D7), (0x119DA, 0x119E0), (0x119E4, 0x119E4), (0x11A01, 0x11A0A),
   (0x11A33, 0x11A39), (0x11A3B, 0x11A3E), (0x11A47, 0x11A47), (0x11A51, 0x11A5B),
   (0x11A8A, 0x11A99), (0x11C2F, 0x11C36), (0x11C38, 0x11C3F), (0x11C92, 0x11CA7),
   (0x11CA9, 0x11CB6), (0x11D31, 0x11D36), (0x11D3A, 0x11D3A), (0x11D3C, 0x11D3D),
   (0x11D3F, 0x11D45), (0x11D47, 0x11D47), (0x11D8A, 0x11D8E), (0x11D90, 0x11D91),
   (0x11D93, 0x11D97), (0x11EF3, 0x11EF6), (0x11F00, 0x11F01), (0x11F03, 0x11F03),
   (0x11F34, 0x11F3A), (0x11F3E, 0x11F41), (0x13440, 0x13440), (0x13447, 0x13455),
   (0x16AF0, 0x16AF4), (0x16B30, 0x16B36), (0x16F4F, 0x16F4F), (0x16F51, 0x16F87),
   (0x16F8F, 0x16F92), (0x16FF0, 0x16FF1), (0x1BC9D, 0x1BC9E), (0x1BCA0, 0x1BCA3),
   (0x1CF00, 0x1CF2D), (0x1CF30, 0x1CF46), (0x1D165, 0x1D169), (0x1D16D, 0x1D182),
   (0x1D185, 0x1D18B), (0x1D1AA, 0x1D1AD), (0x1D242, 0x1D244), (0x1DA00, 0x1DA36),
   (0x1DA3B, 0x1DA6C), (0x1DA75, 0x1DA75), (0x1DA84, 0x1DA84), (0x1DA9B, 0x1DA9F),
   (0x1DAA1, 0x1DAAF), (0x1E000, 0x1E006), (0x1E008, 0x1E018), (0x1E01B, 0x1E021),
   (0x1E023, 0x1E024), (0x1E026, 0x1E02A), (0x1E08F, 0x1E08F), (0x1E130, 0x1E136),
   (0x1E2AE, 0x1E2AE), (0x1E2EC, 0x1E2EF), (0x1E4EC, 0x1E4EF), (0x1E8D0, 0x1E8D6),
   (0x1E944, 0x1E94A), (0xE0001, 0xE0001), (0xE0020, 0xE007F), (0xE0100, 0xE01EF)]

/-- Ideographs, kana and other characters around which a line may break. -/
def ideographRanges : List (Nat × Nat) :=
  [(0x1B50, 0x1B59), (0x1B5C, 0x1B5C), (0x1B61, 0x1B6A), (0x1B74, 0x1B7C), (0x231A, 0x231B),
   (0x23F0, 0x23F3), (0x2600, 0x2603), (0x2614, 0x2615), (0x2618, 0x2618), (0x261A, 0x261C),
   (0x261E, 0x261F), (0x2639, 0x263B), (0x2668, 0x2668), (0x267F, 0x267F), (0x26BD, 0x26C8),
   (0x26CD, 0x26CD), (0x26CF, 0x26D1), (0x26D3, 0x26D4), (0x26D8, 0x26D9), (0x26DC, 0x26DC),
   (0x26DF, 0x26E1), (0x26EA, 0x26EA), (0x26F1, 0x26F5), (0x26F7, 0x26F8), (0x26FA, 0x26FA),
   (0x26FD, 0x2704), (0x2708, 0x2709), (0x2764, 0x2764), (0x2E80, 0x2E99), (0x2E9B, 0x2EF3),
   (0x2F00, 0x2FD5), (0x2FF0, 0x2FFF), (0x3003, 0x3004), (0x3006, 0x3007), (0x3012, 0x3013),
   (0x3020, 0x3029), (0x3030, 0x3034), (0x3036, 0x303A), (0x303D, 0x303F), (0x3042, 0x3042),
   (0x3044, 0x3044), (0x3046, 0x3046), (0x3048, 0x3048), (0x304A, 0x3062), (0x3064, 0x3082),
   (0x3084, 0x3084), (0x3086, 0x3086), (0x3088, 0x308D), (0x308F, 0x3094), (0x309F, 0x309F),
   (0x30A2, 0x30A2), (0x30A4, 0x30A4), (0x30A6, 0x30A6), (0x30A8, 0x30A8), (0x30AA, 0x30C2),
   (0x30C4, 0x30E2), (0x30E4, 0x30E4), (0x30E6, 0x30E6), (0x30E8, 0x30ED), (0x30EF, 0x30F4),
   (0x30F7, 0x30FA), (0x30FF, 0x30FF), (0x3105, 0x312F), (0x3131, 0x318E), (0x3190, 0x31E3),
   (0x31EF, 0x31EF), (0x3200, 0x321E), (0x3220, 0x3247), (0x3250, 0x4DBF), (0x4E00, 0xA014),
   (0xA016, 0xA48C), (0xA490, 0xA4C6), (0xA9C1, 0xA9C6), (0xA9CA, 0xA9CD), (0xA9D0, 0xA9D9),
   (0xA9DE, 0xA9DF), (0xAA50, 0xAA59), (0xAA5C, 0xAA5C), (0xF900, 0xFAFF), (0xFE30, 0xFE34),
   (0xFE45, 0xFE46), (0xFE49, 0xFE4F), (0xFE51, 0xFE51), (0xFE58, 0xFE58), (0xFE5F, 0xFE66),
   (0xFE68, 0xFE68), (0xFE6B, 0xFE6B), (0xFF02, 0xFF03), (0xFF06, 0xFF07), (0xFF0A, 0xFF0B),
   (0xFF0D, 0xFF0D), (0xFF0F, 0xFF19), (0xFF1C, 0xFF1E), (0xFF20, 0xFF3A), (0xFF3C, 0xFF3C),
   (0xFF3E, 0xFF5A), (0xFF5C, 0xFF5C), (0xFF5E, 0xFF5E), (0xFF66, 0xFF66), (0xFF71, 0xFF9D),
   (0xFFA0, 0xFFBE), (0xFFC2, 0xFFC7), (0xFFCA, 0xFFCF), (0xFFD2, 0xFFD7), (0xFFDA, 0xFFDC),
   (0xFFE2, 0xFFE4), (0x11049, 0x1104D), (0x11052, 0x11065), (0x11950, 0x11959),
   (0x11F45, 0x11F4F), (0x17000, 0x187F7), (0x18800, 0x18AFF), (0x18D00, 0x18D08),
   (0x1B000, 0x1B122), (0x1B170, 0x1B2FB), (0x1F000, 0x1F02B), (0x1F030, 0x1F093),
   (0x1F0A0, 0x1F0AE), (0x1F0B1, 0x1F0BF), (0x1F0C1, 0x1F0CF), (0x1F0D1, 0x1F0F5),
   (0x1F10D, 0x1F10F), (0x1F16D, 0x1F16F), (0x1F1AD, 0x1F1AD), (0x1F200, 0x1F202),
   (0x1F210, 0x1F23B), (0x1F240, 0x1F248), (0x1F250, 0x1F251), (0x1F260, 0x1F265),
   (0x1F300, 0x1F384), (0x1F386, 0x1F39B), (0x1F39E, 0x1F3B4), (0x1F3B7, 0x1F3BB),
   (0x1F3BD, 0x1F3C1), (0x1F3C5, 0x1F3C6), (0x1F3C8, 0x1F3C9), (0x1F3CD, 0x1F3FA),
   (0x1F400, 0x1F441), (0x1F444, 0x1F445), (0x1F451, 0x1F465), (0x1F479, 0x1F47B),
   (0x1F47D, 0x1F480), (0x1F484, 0x1F484), (0x1F488, 0x1F48E), (0x1F490, 0x1F490),
   (0x1F492, 0x1F49F), (0x1F4A1, 0x1F4A1), (0x1F4A3, 0x1F4A3), (0x1F4A5, 0x1F4A9),
   (0x1F4AB, 0x1F4AE), (0x1F4B0, 0x1F4B0), (0x1F4B3, 0x1F4FF), (0x1F507, 0x1F516),
   (0x1F525, 0x1F531), (0x1F54A, 0x1F573), (0x1F576, 0x1F579), (0x1F57B, 0x1F58F),
   (0x1F591, 0x1F594), (0x1F597, 0x1F5D3), (0x1F5DC, 0x1F5F3), (0x1F5FA, 0x1F644),
   (0x1F648, 0x1F64A), (0x1F680, 0x1F6A2), (0x1F6A4, 0x1F6B3), (0x1F6B7, 0x1F6BF),
   (0x1F6C1, 0x1F6CB), (0x1F6CD, 0x1F6D7), (0x1F6DC, 0x1F6EC), (0x1F6F0, 0x1F6FC),
   (0x1F774, 0x1F776), (0x1F77B, 0x1F77F), (0x1F7D5, 0x1F7D9), (0x1F7E0, 0x1F7EB),
   (0x1F7F0, 0x1F7F0), (0x1F8B0, 0x1F8B1), (0x1F90D, 0x1F90E), (0x1F910, 0x1F917),
   (0x1F920, 0x1F925), (0x1F927, 0x1F92F), (0x1F93A, 0x1F93B), (0x1F93F, 0x1F976),
   (0x1F978, 0x1F9B4), (0x1F9B7, 0x1F9B7), (0x1F9BA, 0x1F9BA), (0x1F9BC, 0x1F9CC),
   (0x1F9D0, 0x1F9D0), (0x1F9DE, 0x1F9FF), (0x1FA60, 0x1FA6D), (0x1FA70, 0x1FA7C),
   (0x1FA80, 0x1FA88), (0x1FA90, 0x1FABD), (0x1FABF, 0x1FAC2), (0x1FACE, 0x1FADB),
   (0x1FAE0, 0x1FAE8), (0x20000, 0x2FFFD), (0x30000, 0x3FFFD)]

/-- Characters after which a line may break, such as tabs and dashes. -/
def breakAfterRanges : List (Nat × Nat) :=
  [(0x0009, 0x0009), (0x007C, 0x007C), (0x00AD, 0x00AD), (0x058A, 0x058A), (0x05BE, 0x05BE),
   (0x0964, 0x0965), (0x0E5A, 0x0E5B), (0x0F0B, 0x0F0B), (0x0F34, 0x0F34), (0x0F7F, 0x0F7F),
   (0x0F85, 0x0F85), (0x0FBE, 0x0FBF), (0x0FD2, 0x0FD2), (0x104A, 0x104B), (0x1361, 0x1361),
   (0x1400, 0x1400), (0x1680, 0x1680), (0x16EB, 0x16ED), (0x1735, 0x1736), (0x17D4, 0x17D5),
   (0x17D8, 0x17D8), (0x17DA, 0x17DA), (0x1804, 0x1805), (0x1B5A, 0x1B5B), (0x1B5D, 0x1B60),
   (0x1B7D, 0x1B7E), (0x1C3B, 0x1C3F), (0x1C7E, 0x1C7F), (0x2000, 0x2006), (0x2008, 0x200A),
   (0x2010, 0x2010), (0x2012, 0x2013), (0x2027, 0x2027), (0x2056, 0x2056), (0x2058, 0x205B),
   (0x205D, 0x205F), (0x2CFA, 0x2CFC), (0x2CFF, 0x2CFF), (0x2D70, 0x2D70), (0x2E0E, 0x2E15),
   (0x2E17, 0x2E17), (0x2E19, 0x2E19), (0x2E2A, 0x2E2D), (0x2E30, 0x2E31), (0x2E33, 0x2E34),
   (0x2E3C, 0x2E3E), (0x2E40, 0x2E41), (0x2E43, 0x2E4A), (0x2E4C, 0x2E4C), (0x2E4E, 0x2E4F),
   (0x2E5D, 0x2E5D), (0x3000, 0x3000), (0xA4FE, 0xA4FF), (0xA60D, 0xA60D), (0xA60F, 0xA60F),
   (0xA6F3, 0xA6F7), (0xA8CE, 0xA8CF), (0xA92E, 0xA92F), (0xA9C7, 0xA9C9), (0xA9CF, 0xA9CF),
   (0xAA40, 0xAA42), (0xAA44, 0xAA4B), (0xAA5D, 0xAA5F), (0xAAF0, 0xAAF1), (0xABEB, 0xABEB),
   (0x10100, 0x10102), (0x1039F, 0x1039F), (0x103D0, 0x103D0), (0x10857, 0x10857),
   (0x1091F, 0x1091F), (0x10A50, 0x10A57), (0x10AF0, 0x10AF5), (0x10B39, 0x10B3F),
   (0x10EAD, 0x10EAD), (0x11047, 0x11048), (0x110BE, 0x110C1), (0x11140, 0x11143),
   (0x111C5, 0x111C6), (0x111C8, 0x111C8), (0x111DD, 0x111DF), (0x11238, 0x11239),
   (0x1123B, 0x1123C), (0x112A9, 0x112A9), (0x1133D, 0x1133D), (0x1135D, 0x1135D),
   (0x1144B, 0x1144E), (0x1145A, 0x1145B), (0x115C2, 0x115C3), (0x115C9, 0x115D7),
   (0x11641, 0x11642), (0x1173C, 0x1173E), (0x11944, 0x11946), (0x11A41, 0x11A44),
   (0x11A9A, 0x11A9C), (0x11AA1, 0x11AA2), (0x11C41, 0x11C45), (0x11EF2, 0x11EF2),
   (0x11EF7, 0x11EF8), (0x11F43, 0x11F44), (0x11FFF, 0x11FFF), (0x12470, 0x12474),
   (0x16A6E, 0x16A6F), (0x16AF5, 0x16AF5), (0x16B37, 0x16B39), (0x16B44, 0x16B44),
   (0x16E97, 0x16E98), (0x1BC9F, 0x1BC9F), (0x1DA87, 0x1DA8A)]

/-- Opening brackets. -/
def openingRanges : List (Nat × Nat) :=
  [(0x0028, 0x0028), (0x005B, 0x005B), (0x007B, 0x007B), (0x00A1, 0x00A1), (0x00BF, 0x00BF),
   (0x0F3A, 0x0F3A), (0x0F3C, 0x0F3C), (0x169B, 0x169B), (0x201A, 0x201A), (0x201E, 0x201E),
   (0x2045, 0x2045), (0x207D, 0x207D), (0x208D, 0x208D), (0x2308, 0x2308), (0x230A, 0x230A),
   (0x2768, 0x2768), (0x276A, 0x276A), (0x276C, 0x276C), (0x276E, 0x276E), (0x2770, 0x2770),
   (0x2772, 0x2772), (0x2774, 0x2774), (0x27C5, 0x27C5), (0x27E6, 0x27E6), (0x27E8, 0x27E8),
   (0x27EA, 0x27EA), (0x27EC, 0x27EC), (0x27EE, 0x27EE), (0x2983, 0x2983), (0x2985, 0x2985),
   (0x2987, 0x2987), (0x2989, 0x2989), (0x298B, 0x298B), (0x298D, 0x298D), (0x298F, 0x298F),
   (0x2991, 0x2991), (0x2993, 0x2993), (0x2995, 0x2995), (0x2997, 0x2997), (0x29D8, 0x29D8),
   (0x29DA, 0x29DA), (0x29FC, 0x29FC), (0x2E18, 0x2E18), (0x2E22, 0x2E22), (0x2E24, 0x2E24),
   (0x2E26, 0x2E26), (0x2E28, 0x2E28), (0x2E42, 0x2E42), (0x2E55, 0x2E55), (0x2E57, 0x2E57),
   (0x2E59, 0x2E59), (0x2E5B, 0x2E5B), (0xFD3F, 0xFD3F), (0x13258, 0x1325A), (0x13286, 0x13286),
   (0x13288, 0x13288), (0x13379, 0x13379), (0x1342F, 0x1342F), (0x13437, 0x13437),
   (0x1343C, 0x1343C), (0x1343E, 0x1343E), (0x145CE, 0x145CE), (0x1E95E, 0x1E95F)]

/-- Closing brackets and full stops of East Asian scripts. -/
def closingRanges : List (Nat × Nat) :=
  [(0x007D, 0x007D), (0x0F3B, 0x0F3B), (0x0F3D, 0x0F3D), (0x169C, 0x169C), (0x2046, 0x2046),
   (0x207E, 0x207E), (0x208E, 0x208E), (0x2309, 0x2309), (0x230B, 0x230B), (0x232A, 0x232A),
   (0x2769, 0x2769), (0x276B, 0x276B), (0x276D, 0x276D), (0x276F, 0x276F), (0x2771, 0x2771),
   (0x2773, 0x2773), (0x2775, 0x2775), (0x27C6, 0x27C6), (0x27E7, 0x27E7), (0x27E9, 0x27E9),
   (0x27EB, 0x27EB), (0x27ED, 0x27ED), (0x27EF, 0x27EF), (0x2984, 0x2984), (0x2986, 0x2986),
   (0x2988, 0x2988), (0x298A, 0x298A), (0x298C, 0x298C), (0x298E, 0x298E), (0x2990, 0x2990),
   (0x2992, 0x2992), (0x2994, 0x2994), (0x2996, 0x2996), (0x2998, 0x2998), (0x29D9, 0x29D9),
   (0x29DB, 0x29DB), (0x29FD, 0x29FD), (0x2E23, 0x2E23), (0x2E25, 0x2E25), (0x2E27, 0x2E27),
   (0x2E29, 0x2E29), (0x2E56, 0x2E56), (0x2E58, 0x2E58), (0x2E5A, 0x2E5A), (0x2E5C, 0x2E5C),
   (0x3001, 0x3002), (0x3009, 0x3009), (0x300B, 0x300B), (0x300D, 0x300D), (0x300F, 0x300F),
   (0x3011, 0x3011), (0x3015, 0x3015), (0x3017, 0x3017), (0x3019, 0x3019), (0x301B, 0x301B),
   (0x301E, 0x301F), (0xFD3E, 0xFD3E), (0xFE11, 0xFE12), (0xFE18, 0xFE18), (0xFE36, 0xFE36),
   (0xFE38, 0xFE38), (0xFE3A, 0xFE3A), (0xFE3C, 0xFE3C), (0xFE3E, 0xFE3E), (0xFE40, 0xFE40),
   (0xFE42, 0xFE42), (0xFE44, 0xFE44), (0xFE48, 0xFE48), (0xFE50, 0xFE50), (0xFE52, 0xFE52),
   (0xFE5A, 0xFE5A), (0xFE5C, 0xFE5C), (0xFE5E, 0xFE5E), (0xFF09, 0xFF09), (0xFF0C, 0xFF0C),
   (0xFF0E, 0xFF0E), (0xFF3D, 0xFF3D), (0xFF5D, 0xFF5D), (0xFF60, 0xFF61), (0xFF63, 0xFF64),
   (0x1325B, 0x1325D), (0x13282, 0x13282), (0x13287, 0x13287), (0x13289, 0x13289),
   (0x1337A, 0x1337B), (0x13438, 0x13438), (0x1343D, 0x1343D), (0x1343F, 0x1343F),
   (0x145CF, 0x145CF)]

/-- Digits. -/
def numericRanges : List (Nat × Nat) :=
  [(0x0030, 0x0039), (0x0600, 0x0605), (0x0660, 0x0669), (0x066B, 0x066C), (0x06DD, 0x06DD),
   (0x06F0, 0x06F9), (0x07C0, 0x07C9), (0x0890, 0x0891), (0x08E2, 0x08E2), (0x0966, 0x096F),
   (0x09E6, 0x09EF), (0x0A66, 0x0A6F), (0x0AE6, 0x0AEF), (0x0B66, 0x0B6F), (0x0BE6, 0x0BEF),
   (0x0C66, 0x0C6F), (0x0CE6, 0x0CEF), (0x0D66, 0x0D6F), (0x0DE6, 0x0DEF), (0x0E50, 0x0E59),
   (0x0ED0, 0x0ED9), (0x0F20, 0x0F29), (0x1040, 0x1049), (0x1090, 0x1099), (0x17E0, 0x17E9),
   (0x1810, 0x1819), (0x1946, 0x194F), (0x19D0, 0x19D9), (0x1A80, 0x1A89), (0x1A90, 0x1A99),
   (0x1BB0, 0x1BB9), (0x1C40, 0x1C49), (0x1C50, 0x1C59), (0xA620, 0xA629), (0xA8D0, 0xA8D9),
   (0xA900, 0xA909), (0xA9F0, 0xA9F9), (0xABF0, 0xABF9), (0x104A0, 0x104A9), (0x10D30, 0x10D39),
   (0x110BD, 0x110BD), (0x110CD, 0x110CD), (0x110F0, 0x110F9), (0x11136, 0x1113F),
   (0x111D0, 0x111D9), (0x112F0, 0x112F9), (0x11450, 0x11459), (0x114D0, 0x114D9),
   (0x11650, 0x11659), (0x116C0, 0x116C9), (0x11730, 0x11739), (0x118E0, 0x118E9),
   (0x11C50, 0x11C59), (0x11D50, 0x11D59), (0x11DA0, 0x11DA9), (0x16A60, 0x16A69),
   (0x16AC0, 0x16AC9), (0x16B50, 0x16B59), (0x1D7CE, 0x1D7FF), (0x1E140, 0x1E149),
   (0x1E2F0, 0x1E2F9), (0x1E4F0, 0x1E4F9), (0x1E950, 0x1E959), (0x1FBF0, 0x1FBF9)]

/-- Small kana and marks that do not start a line. -/
def nonStarterRanges : List (Nat × Nat) :=
  [(0x17D6, 0x17D6), (0x203C, 0x203D), (0x2047, 0x2049), (0x3005, 0x3005), (0x301C, 0x301C),
   (0x303B, 0x303C), (0x3041, 0x3041), (0x3043, 0x3043), (0x3045, 0x3045), (0x3047, 0x3047),
   (0x3049, 0x3049), (0x3063, 0x3063), (0x3083, 0x3083), (0x3085, 0x3085), (0x3087, 0x3087),
   (0x308E, 0x308E), (0x3095, 0x3096), (0x309B, 0x309E), (0x30A0, 0x30A1), (0x30A3, 0x30A3),
   (0x30A5, 0x30A5), (0x30A7, 0x30A7), (0x30A9, 0x30A9), (0x30C3, 0x30C3), (0x30E3, 0x30E3),
   (0x30E5, 0x30E5), (0x30E7, 0x30E7), (0x30EE, 0x30EE), (0x30F5, 0x30F6), (0x30FB, 0x30FE),
   (0x31F0, 0x31FF), (0xA015, 0xA015), (0xFE54, 0xFE55), (0xFF1A, 0xFF1B), (0xFF65, 0xFF65),
   (0xFF67, 0xFF70), (0xFF9E, 0xFF9F), (0x16FE0, 0x16FE3), (0x1B132, 0x1B132), (0x1B150, 0x1B152),
   (0x1B155, 0x1B155), (0x1B164, 0x1B167), (0x1F679, 0x1F67B)]

/-- Pictographs that take a modifier. -/
def emojiBaseRanges : List (Nat × Nat) :=
  [(0x261D, 0x261D), (0x26F9, 0x26F9), (0x270A, 0x270D), (0x1F02C, 0x1F02F), (0x1F094, 0x1F09F),
   (0x1F0AF, 0x1F0B0), (0x1F0C0, 0x1F0C0), (0x1F0D0, 0x1F0D0), (0x1F0F6, 0x1F0FF),
   (0x1F1AE, 0x1F1E5), (0x1F203, 0x1F20F), (0x1F23C, 0x1F23F), (0x1F249, 0x1F24F),
   (0x1F252, 0x1F25F), (0x1F266, 0x1F2FF), (0x1F385, 0x1F385), (0x1F3C2, 0x1F3C4),
   (0x1F3C7, 0x1F3C7), (0x1F3CA, 0x1F3CC), (0x1F442, 0x1F443), (0x1F446, 0x1F450),
   (0x1F466, 0x1F478), (0x1F47C, 0x1F47C), (0x1F481, 0x1F483), (0x1F485, 0x1F487),
   (0x1F48F, 0x1F48F), (0x1F491, 0x1F491), (0x1F4AA, 0x1F4AA), (0x1F574, 0x1F575),
   (0x1F57A, 0x1F57A), (0x1F590, 0x1F590), (0x1F595, 0x1F596), (0x1F645, 0x1F647),
   (0x1F64B, 0x1F64F), (0x1F6A3, 0x1F6A3), (0x1F6B4, 0x1F6B6), (0x1F6C0, 0x1F6C0),
   (0x1F6CC, 0x1F6CC), (0x1F6D8, 0x1F6DB), (0x1F6ED, 0x1F6EF), (0x1F6FD, 0x1F6FF),
   (0x1F777, 0x1F77A), (0x1F7DA, 0x1F7DF), (0x1F7EC, 0x1F7EF), (0x1F7F1, 0x1F7FF),
   (0x1F80C, 0x1F80F), (0x1F848, 0x1F84F), (0x1F85A, 0x1F85F), (0x1F888, 0x1F88F),
   (0x1F8AE, 0x1F8AF), (0x1F8B2, 0x1F8FF), (0x1F90C, 0x1F90C), (0x1F90F, 0x1F90F),
   (0x1F918, 0x1F91F), (0x1F926, 0x1F926), (0x1F930, 0x1F939), (0x1F93C, 0x1F93E),
   (0x1F977, 0x1F977), (0x1F9B5, 0x1F9B6), (0x1F9B8, 0x1F9B9), (0x1F9BB, 0x1F9BB),
   (0x1F9CD, 0x1F9CF), (0x1F9D1, 0x1F9DD), (0x1FA54, 0x1FA5F), (0x1FA6E, 0x1FA6F),
   (0x1FA7D, 0x1FA7F), (0x1FA89, 0x1FA8F), (0x1FABE, 0x1FABE), (0x1FAC3, 0x1FACD),
   (0x1FADC, 0x1FADF), (0x1FAE9, 0x1FAFF), (0x1FC00, 0x1FFFD)]

/-- Opening brackets that take two columns. -/
def wideOpeningRanges : List (Nat × Nat) :=
  [(0x2329, 0x2329), (0x3008, 0x3008), (0x300A, 0x300A), (0x300C, 0x300C), (0x300E, 0x300E),
   (0x3010, 0x3010), (0x3014, 0x3014), (0x3016, 0x3016), (0x3018, 0x3018), (0x301A, 0x301A),
   (0x301D, 0x301D), (0xFE17, 0xFE17), (0xFE35, 0xFE35), (0xFE37, 0xFE37), (0xFE39, 0xFE39),
   (0xFE3B, 0xFE3B), (0xFE3D, 0xFE3D), (0xFE3F, 0xFE3F), (0xFE41, 0xFE41), (0xFE43, 0xFE43),
   (0xFE47, 0xFE47), (0xFE59, 0xFE59), (0xFE5B, 0xFE5B), (0xFE5D, 0xFE5D), (0xFF08, 0xFF08),
   (0xFF3B, 0xFF3B), (0xFF5B, 0xFF5B), (0xFF5F, 0xFF5F), (0xFF62, 0xFF62)]

/-- Consonants that begin or continue a syllable of a Brahmic script. -/
def syllableLetterRanges : List (Nat × Nat) :=
  [(0x1B05, 0x1B33), (0x1B45, 0x1B4C), (0xA984, 0xA9B2), (0x11005, 0x11037), (0x11071, 0x11072),
   (0x11075, 0x11075), (0x11305, 0x1130C), (0x1130F, 0x11310), (0x11313, 0x11328),
   (0x1132A, 0x11330), (0x11332, 0x11333), (0x11335, 0x11339), (0x11360, 0x11361),
   (0x11900, 0x11906), (0x11909, 0x11909), (0x1190C, 0x11913), (0x11915, 0x11916),
   (0x11918, 0x1192F), (0x11F04, 0x11F10), (0x11F12, 0x11F33)]

/-- The characters of each class that has a table. -/
def lineClassRanges : List (LineClass × List (Nat × Nat)) :=
  [(.mandatory, [(0x000B, 0x000C), (0x2028, 0x2029)]),
   (.carriageReturn, [(0x000D, 0x000D)]),
   (.lineFeed, [(0x000A, 0x000A)]),
   (.nextLine, [(0x0085, 0x0085)]),
   (.space, [(0x0020, 0x0020)]),
   (.zeroSpace, [(0x200B, 0x200B)]),
   (.wordJoiner, [(0x2060, 0x2060), (0xFEFF, 0xFEFF)]),
   (.glue,
     [(0x00A0, 0x00A0), (0x034F, 0x034F), (0x035C, 0x0362), (0x0F08, 0x0F08), (0x0F0C, 0x0F0C),
      (0x0F12, 0x0F12), (0x0FD9, 0x0FDA), (0x180E, 0x180E), (0x1DCD, 0x1DCD), (0x1DFC, 0x1DFC),
      (0x2007, 0x2007), (0x2011, 0x2011), (0x202F, 0x202F), (0x1107F, 0x1107F),
      (0x13430, 0x13436), (0x13439, 0x1343B), (0x16FE4, 0x16FE4)]),
   (.joiner, [(0x200D, 0x200D)]),
   (.mark, markRanges),
   (.dash, [(0x2014, 0x2014), (0x2E3A, 0x2E3B)]),
   (.breakAfter, breakAfterRanges),
   (.breakBefore,
     [(0x00B4, 0x00B4), (0x02C8, 0x02C8), (0x02CC, 0x02CC), (0x02DF, 0x02DF), (0x0C77, 0x0C77),
      (0x0C84, 0x0C84), (0x0F01, 0x0F04), (0x0F06, 0x0F07), (0x0F09, 0x0F0A), (0x0FD0, 0x0FD1),
      (0x0FD3, 0x0FD3), (0x1806, 0x1806), (0x1FFD, 0x1FFD), (0xA874, 0xA875), (0xA8FC, 0xA8FC),
      (0x11175, 0x11175), (0x111DB, 0x111DB), (0x115C1, 0x115C1), (0x11660, 0x1166C),
      (0x119E2, 0x119E2), (0x11A3F, 0x11A3F), (0x11A45, 0x11A45), (0x11A9E, 0x11AA0),
      (0x11B00, 0x11B09), (0x11C70, 0x11C70)]),
   (.hyphen, [(0x002D, 0x002D)]),
   (.object, [(0xFFFC, 0xFFFC)]),
   (.closing, closingRanges),
   (.closingParen, [(0x0029, 0x0029), (0x005D, 0x005D)]),
   (.exclamation,
     [(0x0021, 0x0021), (0x003F, 0x003F), (0x05C6, 0x05C6), (0x061B, 0x061B), (0x061D, 0x061F),
      (0x06D4, 0x06D4), (0x07F9, 0x07F9), (0x0F0D, 0x0F11), (0x0F14, 0x0F14), (0x1802, 0x1803),
      (0x1808, 0x1809), (0x1944, 0x1945), (0x2762, 0x2763), (0x2CF9, 0x2CF9), (0x2CFE, 0x2CFE),
      (0x2E2E, 0x2E2E), (0x2E53, 0x2E54), (0xA60E, 0xA60E), (0xA876, 0xA877), (0xFE15, 0xFE16),
      (0xFE56, 0xFE57), (0xFF01, 0xFF01), (0xFF1F, 0xFF1F), (0x115C4, 0x115C5), (0x11C71, 0x11C71)]),
   (.leader, [(0x2024, 0x2026), (0x22EF, 0x22EF), (0xFE19, 0xFE19), (0x10AF6, 0x10AF6)]),
   (.nonStarter, nonStarterRanges),
   (.opening, openingRanges),
   (.wideOpening, wideOpeningRanges),
   (.quotation,
     [(0x0022, 0x0022), (0x0027, 0x0027), (0x275B, 0x2760), (0x2E00, 0x2E01), (0x2E06, 0x2E08),
      (0x2E0B, 0x2E0B), (0x1F676, 0x1F678)]),
   (.openingQuote,
     [(0x00AB, 0x00AB), (0x2018, 0x2018), (0x201B, 0x201C), (0x201F, 0x201F), (0x2039, 0x2039),
      (0x2E02, 0x2E02), (0x2E04, 0x2E04), (0x2E09, 0x2E09), (0x2E0C, 0x2E0C), (0x2E1C, 0x2E1C),
      (0x2E20, 0x2E20)]),
   (.closingQuote,
     [(0x00BB, 0x00BB), (0x2019, 0x2019), (0x201D, 0x201D), (0x203A, 0x203A), (0x2E03, 0x2E03),
      (0x2E05, 0x2E05), (0x2E0A, 0x2E0A), (0x2E0D, 0x2E0D), (0x2E1D, 0x2E1D), (0x2E21, 0x2E21)]),
   (.separator,
     [(0x002C, 0x002C), (0x002E, 0x002E), (0x003A, 0x003B), (0x037E, 0x037E), (0x0589, 0x0589),
      (0x060C, 0x060D), (0x07F8, 0x07F8), (0x2044, 0x2044), (0xFE10, 0xFE10), (0xFE13, 0xFE14)]),
   (.numeric, numericRanges),
   (.unitAfter,
     [(0x0025, 0x0025), (0x00A2, 0x00A2), (0x00B0, 0x00B0), (0x0609, 0x060B), (0x066A, 0x066A),
      (0x09F2, 0x09F3), (0x09F9, 0x09F9), (0x0D79, 0x0D79), (0x2030, 0x2037), (0x2057, 0x2057),
      (0x20A7, 0x20A7), (0x20B6, 0x20B6), (0x20BB, 0x20BB), (0x20BE, 0x20BE), (0x20C0, 0x20C0),
      (0x2103, 0x2103), (0x2109, 0x2109), (0xA838, 0xA838), (0xFDFC, 0xFDFC), (0xFE6A, 0xFE6A),
      (0xFF05, 0xFF05), (0xFFE0, 0xFFE0), (0x11FDD, 0x11FE0), (0x1ECAC, 0x1ECAC),
      (0x1ECB0, 0x1ECB0)]),
   (.unitBefore,
     [(0x0024, 0x0024), (0x002B, 0x002B), (0x005C, 0x005C), (0x00A3, 0x00A5), (0x00B1, 0x00B1),
      (0x058F, 0x058F), (0x07FE, 0x07FF), (0x09FB, 0x09FB), (0x0AF1, 0x0AF1), (0x0BF9, 0x0BF9),
      (0x0E3F, 0x0E3F), (0x17DB, 0x17DB), (0x20A0, 0x20A6), (0x20A8, 0x20B5), (0x20B7, 0x20BA),
      (0x20BC, 0x20BD), (0x20BF, 0x20BF), (0x20C1, 0x20CF), (0x2116, 0x2116), (0x2212, 0x2213),
      (0xFE69, 0xFE69), (0xFF04, 0xFF04), (0xFFE1, 0xFFE1), (0xFFE5, 0xFFE6), (0x1E2FF, 0x1E2FF)]),
   (.slash, [(0x002F, 0x002F)]),
   (.emojiBase, emojiBaseRanges),
   (.emojiModifier, [(0x1F3FB, 0x1F3FF)]),
   (.leadJamo, [(0x1100, 0x115F), (0xA960, 0xA97C)]),
   (.vowelJamo, [(0x1160, 0x11A7), (0xD7B0, 0xD7C6)]),
   (.tailJamo, [(0x11A8, 0x11FF), (0xD7CB, 0xD7FB)]),
   (.hebrew,
     [(0x05D0, 0x05EA), (0x05EF, 0x05F2), (0xFB1D, 0xFB1D), (0xFB1F, 0xFB28), (0xFB2A, 0xFB36),
      (0xFB38, 0xFB3C), (0xFB3E, 0xFB3E), (0xFB40, 0xFB41), (0xFB43, 0xFB44), (0xFB46, 0xFB4F)]),
   (.syllablePrelude,
     [(0x11003, 0x11004), (0x1193F, 0x1193F), (0x11941, 0x11941), (0x11F02, 0x11F02)]),
   (.syllableLetter, syllableLetterRanges),
   (.syllableStart,
     [(0x1BC0, 0x1BE5), (0xAA00, 0xAA28), (0x11066, 0x1106F), (0x11350, 0x11350),
      (0x1135E, 0x1135F), (0x11EE0, 0x11EF1), (0x11F50, 0x11F59)]),
   (.dottedCircle, [(0x25CC, 0x25CC)]),
   (.virama,
     [(0x1B44, 0x1B44), (0xA9C0, 0xA9C0), (0x11046, 0x11046), (0x1134D, 0x1134D),
      (0x1193E, 0x1193E), (0x11F42, 0x11F42)]),
   (.finalVirama, [(0x1BF2, 0x1BF3)]),
   (.ideograph, ideographRanges),
   (.regional, [(0x1F1E6, 0x1F1FF)])]

/-! ## Lookup -/

/-- The class of a Hangul syllable; every 28th has no final consonant. -/
def syllableClass (n : Nat) : LineClass :=
  if (n - 0xAC00) % 28 = 0 then .openSyllable else .closedSyllable

/-- The class of a character. -/
def lineClass (c : Char) : LineClass :=
  let n := c.toNat
  if c.isAlpha then .letter
  else if 0xAC00 ≤ n && n ≤ 0xD7A3 then syllableClass n
  else
    match lineClassRanges.find? fun (_, ranges) => inRanges ranges n with
    | some (k, _) => k
    | none => .letter

end LayerLint.Text
