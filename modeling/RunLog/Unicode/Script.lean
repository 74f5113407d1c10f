import RunLog.Unicode.StepMap

namespace RunLog.Unicode.Script

/-- The names of the scripts in lower case and without separators, in the order in which the tables
number them. -/
def names : List String := [
  "adlm adlam", "ahom", "hluw anatolianhieroglyphs", "arab arabic", "armn armenian",
  "avst avestan", "bali balinese", "bamu bamum", "bass bassavah", "batk batak", "beng bengali",
  "bhks bhaiksuki", "bopo bopomofo", "brah brahmi", "brai braille", "bugi buginese",
  "buhd buhid", "cans canadianaboriginal", "cari carian", "aghb caucasianalbanian",
  "cakm chakma", "cham", "cher cherokee", "chrs chorasmian", "zyyy common", "copt coptic qaac",
  "xsux cuneiform", "cprt cypriot", "cpmn cyprominoan", "cyrl cyrillic", "dsrt deseret",
  "deva devanagari", "diak divesakuru", "dogr dogra", "dupl duployan",
  "egyp egyptianhieroglyphs", "elba elbasan", "elym elymaic", "ethi ethiopic", "geor georgian",
  "glag glagolitic", "goth gothic", "gran grantha", "grek greek", "gujr gujarati",
  "gong gunjalagondi", "guru gurmukhi", "hani han", "hang hangul", "rohg hanifirohingya",
  "hano hanunoo", "hatr hatran", "hebr hebrew", "hira hiragana", "armi imperialaramaic",
  "zinh inherited qaai", "phli inscriptionalpahlavi", "prti inscriptionalparthian",
  "java javanese", "kthi kaithi", "knda kannada", "kana katakana", "kawi", "kali kayahli",
  "khar kharoshthi", "kits khitansmallscript", "khmr khmer", "khoj khojki", "sind khudawadi",
  "laoo lao", "latn latin", "lepc lepcha", "limb limbu", "lina lineara", "linb linearb", "lisu",
  "lyci lycian", "lydi lydian", "mahj mahajani", "maka makasar", "mlym malayalam",
  "mand mandaic", "mani manichaean", "marc marchen", "gonm masaramgondi", "medf medefaidrin",
  "mtei meeteimayek", "mend mendekikakui", "merc meroiticcursive", "mero meroitichieroglyphs",
  "plrd miao", "modi", "mong mongolian", "mroo mro", "mult multani", "mymr myanmar",
  "nbat nabataean", "nagm nagmundari", "nand nandinagari", "talu newtailue", "newa", "nkoo nko",
  "nshu nushu", "hmnp nyiakengpuachuehmong", "ogam ogham", "olck olchiki", "hung oldhungarian",
  "ital olditalic", "narb oldnortharabian", "perm oldpermic", "xpeo oldpersian",
  "sogo oldsogdian", "sarb oldsoutharabian", "orkh oldturkic", "ougr olduyghur", "orya oriya",
  "osge osage", "osma osmanya", "hmng pahawhhmong", "palm palmyrene", "pauc paucinhau",
  "phag phagspa", "phnx phoenician", "phlp psalterpahlavi", "rjng rejang", "runr runic",
  "samr samaritan", "saur saurashtra", "shrd sharada", "shaw shavian", "sidd siddham",
  "sgnw signwriting", "sinh sinhala", "sogd sogdian", "sora sorasompeng", "soyo soyombo",
  "sund sundanese", "sylo sylotinagri", "syrc syriac", "tglg tagalog", "tagb tagbanwa",
  "tale taile", "lana taitham", "tavt taiviet", "takr takri", "taml tamil", "tnsa tangsa",
  "tang tangut", "telu telugu", "thaa thaana", "thai", "tibt tibetan", "tfng tifinagh",
  "tirh tirhuta", "toto", "ugar ugaritic", "zzzz unknown", "vaii vai", "vith vithkuqi",
  "wcho wancho", "wara warangciti", "yezi yezidi", "yiii yi", "zanb zanabazarsquare"]

def packed : List String := [
  "2NY1A2SGY1A2S1VYB2SPYB2SFYX2SBY1F2SBYhH2S1NYF2SFYCMUY4I2DE1RBYD1RC6AE1RBYB1RE6AB1RBYB1RBYD1R",
  "B6AB1RB6AU1RB6A2L1ROZQ1R5D1DC2D6N1DB6A1MEC6A1YEC6ADEB6A2D2AI6A1B2AE6AG2AL6AFDBYGDBYODBYDDBY1",
  "GDBYKDL2D1ADB2D4EDBY1IDO5IB6A2I5IC6AD5I1WD1Y5TO6A2H3XC6AD3X1U4WC6AP4WB6A1C3DC6AB3DB6AL5IF6A1",
  "FDB6ACDG6A2WDBY1DD3D1FE2DP1FCY1A1FEKB6AIKC6ACKC6AWKB6AHKB6ABKD6AEKC6AJKC6ACKC6AEKI6ABKE6ACKB",
  "6AFKC6AZKC6AD1UB6AG1UE6AC1UC6AW1UB6AH1UB6AC1UB6AC1UB6AC1UC6AB1UB6AF1UE6AC1UC6AD1UD6AB1UH6AE1",
  "UB6AB1UH6AR1UK6AD1SB6AJ1SB6AD1SB6AW1SB6AH1SB6AC1SB6AF1SC6AK1SB6AD1SB6AD1SC6AB1SP6AE1SC6AM1SH",
  "6AH1SB6AD4LB6AI4LC6AC4LC6AW4LB6AH4LB6AC4LB6AF4LC6AJ4LC6AC4LC6AD4LH6AD4LE6AC4LB6AF4LC6AS4LK6A",
  "C5PB6AG5PD6AD5PB6AE5PD6AC5PB6AB5PB6AC5PD6AC5PD6AD5PD6AM5PE6AF5PD6AD5PB6AE5PC6AB5PG6AB5PO6AV5",
  "PF6AN5SB6AD5SB6AX5SB6AQ5SC6AJ5SB6AD5SB6AE5SH6AC5SB6AD5SC6AB5SC6AE5SC6AK5SH6AJ5SN2IB6AD2IB6AX",
  "2IB6AK2IB6AF2IC6AJ2IB6AD2IB6AE2IH6AC2IG6AC2IB6AE2IC6AK2IB6AD2IM6AN3CB6AD3CB6A1Z3CB6AD3CB6AG3",
  "CE6AQ3CC6A1A3CB6AD5CB6AS5CD6AY5CB6AJ5CB6AB5CC6AH5CD6AB5CE6AG5CB6AB5CB6AI5CG6AK5CC6AD5CM6A2G5",
  "UE6ABY1C5U1L6AC2RB6AB2RB6AF2RB6AY2RB6AB2RB6AX2RC6AF2RB6AB2RB6AH2RB6AK2RC6AE2R1G6A2U5VB6A1K5V",
  "E6A1N5VB6A1K5VB6AP5VB6AH5VEYC5V1L6A6E3R1M1NB6AB1NF6AB1NC6A1R1NBYE1N9W1W2V1MB6AE1MC6AH1MB6AB1",
  "MB6AE1MC6A1P1MB6AE1MC6A1H1MB6AE1MC6AH1MB6AB1MB6AE1MC6AP1MB6A2F1MB6AE1MC6A2P1MC6A1G1MD6A1A1MG",
  "6A3IWC6AGWC6AoQR1D4AD6A2X4VDYL4VH6AW5JJ6AB5JV1YCYJ6AUQM6AN5KB6AD5KB6AC5KM6A3Q2OC6AK2OG6AK2OG",
  "6AC3OCYB3OBYU3OG6A3L3OH6A1R3OF6A2SRK6A1F2UB6AM2UE6AM2UE6AB2UD6AM2U1E5LC6AF5LL6A1S3VE6A1A3VG6",
  "AL3VD6AC3V1G2O1CPC6ACP2L5MB6A1D5MC6AL5MG6AK5MG6AO5MC6A1F2D1X6A2ZGD6A1VGB6A2M5G2AJI6AEJ2E2TD6",
  "AP2TD6AD2T1W4BJ1DH6A1R1NC6AD1NI5GI6AD2DBYN2DBYH2DEYB2DGYB2DDYC2DBYF6A1M2SF1RB1D1X2SF1RE2SF1R",
  "N2SB1D2S2SB1R2M2D9W2SW1RC6AG1RC6A1M1RC6AG1RC6AI1RB6AB1RB6AB1RB6AB1RB6A1F1RC6A2B1RB6AP1RB6AO1",
  "RC6AG1RB6AT1RC6AD1RB6AJ1RB6AMYC2D3JYB6ALYB2SC6ALYB2SPYB6AN2SD6A1HYP6A1H2DP6A1MYB1RDYC2SGYB2S",
  "1BYB2SRY1P2SDYE6ApNYZ6ALYV6AzSY9WOoEYC6A1GYB6A4BY3S1O1G2S4MZF6AHZ1M1NB6AB1NF6AB1NC6A2E5WH6AC",
  "5WO6AB5WX1MJ6AH1MB6AH1MB6AH1MB6AH1MB6AH1MB6AH1MB6AH1MB6AH1MB6A1G1D3QY1I6A1A1VB6A3L1VM6A8G1V1",
  "A6AMYE6AFYB1VBYB1VZYJ1VE2DC1WIYE1VEYB6A3I2BC6AC2DCYD2BBY3M2JCYD2JF6A1RMB6A3Q1WB6AQY1GM1KYM6A",
  "Q2J1F1WB6A2MY1F1W3DY1V2JBY3K2J6MY71O1V2MYmfK1V18V6GD6A2D6GJ6A1W2XbO6BU6A3S1D3KHI6A1IY3Y2SDY2",
  "M2SF6AC2SB6AB2SB6AF2SY6AO2S1T5HD6AKYG6A2E4RI6A2S4XI6AM4XG6A1G1F1U2LBYB2L1K4UL6AB4U1D1WD6A3A2",
  "GB6ABYK2GE6AC2G1F3RB6A2DVJ6AOVC6AKVC6AEV1G3R2P5NY6AF5NX3IK6AG1MC6AG1MC6AG1MJ6AH1MB6AH1MB6A1R",
  "2SBYJ2SB1RE2SCYE6A3CW1U3IC6AK3IG6AbxS1WM6AX1WE6A1X1W91C6AeC1VC6A4C1V1M6AH2SM6AFEF6A1A2AB6AF2",
  "AB6AB2AB6AC2AB6AC2AB6AK2A4LDQ6AdZDCY3CDC6A2CDH6ABD1G6AQDQ2DKYG6AO2DC1D1JYB6ATYB6AEYE6AFDB6A5",
  "FDC6ABYB6A1GY1A2SGY1A2SLYK2JBY1T2JCY1F1WD6AG1WC6AG1WC6AG1WC6AD1WD6AHYB6AHYK6AFYC6AM2WB6A1A2W",
  "B6AT2WB6AC2WB6AP2WC6AO2W1I6A4T2WF6ADYE6A1TYD6AJY3B1RB6ANYD6AB1R1V6A1TYB2D5A6A1D2YD6A1XSP6AB2",
  "D1BYE6A1K4DJ6AD4D1B1PF6A1R4FF6A1E5ZB6AB5Z1K4GE6AO4G1Q6A3C1E1W4Z1E4NC6AK4NG6A1K4ME6A1K4ME6A1O",
  "1KI6A2ATL6ABTL6CB6AP6CB6AH6CB6AC6CB6AL6CB6AP6CB6AH6CB6AC6C2P6AbZ2VJ6AW2VK6AI2VY6AG2SB6A1Q2SB",
  "6AJ2S2R6AG1BC6AB1BB6A1S1BB6AC1BD6AB1BC6AB1BW2CB6AJ2C1G4P1F3SI6AJ3S1W6AT1ZB6AC1ZF6AF1Z1C4SD6A",
  "B4S1A2ZF6AB2Z2M6A1G3LY3KE6AU3KC6A1U3KE2MB6AC2MF6AI2MB6AD2MB6A1D2MC6AD2ME6AK2MH6AJ2MH6A1G4I1G",
  "4E1G6A1N3EE6AM3EJ6A2CFD6AHFW2FC6AI2FT2EF6AI2ES4TH6AE4TM6AH4T3C6A2V4J2D6A1Z4CN6A1Z4CH6AG4C1O1",
  "XI6AK1XbI6A1FDB6A1Q6FB6AD6FC6AC6F2X6ADD1O4HI6A1Q5DW6A1A4K1M6A1CXU6AX1LJ6A3ANE6A1KNJ6ABN2P2HK",
  "6AB2HC6AZ5EH6AK5EG6A2BUB6ASUI6A1N3AJ6A3S4YB6AU5CL6AS2PB6A1V2P2K6AH3QB6AB3QB6AE3QB6AP3QB6AL3Q",
  "G6A2H2QF6AK2QG6AE1QB6AI1QC6AC1QC6AW1QB6AH1QB6AC1QB6AF1QB6AB2DJ1QC6AC1QC6AD1QC6AB1QG6AB1QF6AH",
  "1QC6AH1QD6AF1Q5J6A3O3WB6AF3W1E6A2U5XI6AK5X6K6A2C5AC6A1M5A1I6A2R3NL6AK3NG6AN3OT6A2G5OG6AK5O2C",
  "6A1BBC6APBE6AXB7D6A2I1H3W6A3F6EM6AB6EH1GC6AB1GC6AI1GB6AC1GB6A1E1GB6AC1GC6AM1GJ6AK1G2S6AI3UC6",
  "A1U3UC6AL3U1B6A2U6HI6A3F5FN6AQR2F4QH6AK1F9M6AJLB6A1TLB6AOLK6A1DLD6A1G3FC6AW3FB6AO3F2V6AH3GB6",
  "AC3GB6A1S3GD6AB3GB6AC3GB6AJ3GI6AK3GG6AG1TB6AC1TB6A1L1TB6AC1TB6AG1TH6AK1TbY6AZ3BH6AR2KB6A1P2K",
  "D6A1C2K3I6AB2XP6A1Y5PN6AB5PzM1A3Y6A4H1AB6AF1AL6A7O1A2tK6A3V1CN6A16S1J4aG6AmLC98B6AlXHH6A1F3P",
  "B6AK3PE6AC3P3B5QB6AK5QG6A1EIC6AGIK6A2S4OK6AK4OB6AH4OB6AV4OF6AT4OqM6A3N3H3X6A2X3ME6A2F3MH6AR3",
  "M2M6AB5RB3YC1VB2NL6AC1VO6A6kA5RI6AtO5RiC2N1Q6AJ5R9jR6AE2JB6AH2JB6AC2JB6AB2JbB2BD2JP6AB2B1D6A",
  "D2BC6AB2JO6AE2JI6AfG3Y2gU6A4D1IF6AN1ID6AJ1IH6AK1IC6AE1IEY50U6A1U2DC6AX2DJ6A4MY2I6A9MYK6A1NYC",
  "6A2KYD2DRYI2DCYH2D1EYE2D2JYV6A2S1R4S6AUYM6AUYM6A3JYJ6AZY5F6A3HYB6A2TYB6ACYC6ABYC6ACYC6AEYB6A",
  "MYB6ABYB6AHYB6A2NYB6AEYC6AIYB6AHYB6A1CYB6AEYB6AFYB6ABYD6AHYB6AdCYC6AbGYC6A1YYpC5BP6AF5BB6AP5",
  "B16M6A1F2SG6AG2S8F6AH1OB6AR1OC6AH1OB6AC1OB6AF1OF6A2K1D1H6AB1D4I6A1T3ZD6AO3ZC6AK3ZE6AC3ZcI6A1",
  "F5YR6A2G6DF6AB6DhW6A1Q3TsO6AH1MB6AE1MB6AC1MB6AP1MB6A7P3JC6AQ3J1P6A2YAE6AKAE6ACAuF6A2QY2Y6A2J",
  "Y7M6AEDB6A1BDB6ACDB6ABDC6ABDB6AKDB6AEDB6ABDB6ABDG6ABDE6ABDB6ABDB6ABDB6ADDB6ACDB6ABDC6ABDB6AB",
  "DB6ABDB6ABDB6ABDB6ACDB6ABDC6AEDB6AHDB6AEDB6AEDB6ABDB6AKDB6ARDF6ADDB6AFDB6ARD2A6ACDaK6A1SYE6A",
  "3WYM6APYC6APYB6APYB6A1LYK6A6SY2E6A1AYB2BCYN6A1SYE6AJYH6ACYO6AGY5Y6A11WYE6ARYD6ANYD6A4PYE6A3R",
  "YG6AMYE6ABYP6AMYE6A2EYI6AKYG6A1OYI6A1EYC6ACY3A6AdCYM6AOYC6ANYD6AJYH6A1UYB6AHYI6AOYE6AJYH6AJY",
  "H6A5RYB6A2DY1L6AKY13Q6A19nC1V1G6A4fU1VG6A8O1VC6A65Q1VO6A7zL1V3bJ6AkW1V1lY6A59Z1VF6A4hG1Vl4fL",
  "6ABY1E6A3SY4Y6A9G2D5tiU6A"]

def table : StepMap Nat := numberMap packed

/-- The runs of code points that several scripts use, or another one than their own: the length of
the gap before the run, its length, how many scripts there are, and their numbers. -/
def packedShared : List String := [
  "wCBB1RCBB1R1DNB2SaPBC1D4FABC1D1OACC1D2SABC1D1OeYBGD3X1X5I5T6FOBGD3X1X5I5T6FABDD5I5TCBHAD3X1X",
  "5I5T6F1GBJAD3D3E4K4T1X5D5IKLCD5IKKDD5T6FGBCD5I3VBCD1XoMBNK1F1Q1S1U2I2S3C4L4Y5P5S5XABMK1F1Q1S",
  "1U2I2S3C4L5P5S5XRBUK1F1H1T3G1Q1S1U2I3A3C3U4L2Q5C5H5O5P5S5XABVK1F1H1T3G1Q1S1U2I2U3A3C3U4L2Q5C",
  "5H5O5P5S5XAKE1F1H2H3A4OKDKU5H4OKC1U3Q4OKC1S2P9MOC1Q5P9IKC2I3UwQKDU3R5L6VBC1N2S1pHCEQ1Y5K5J7V",
  "CC3O4RBBC3O4R1bEBEK1F1Q2IABB1FABEK1F1Q2IABC1F1QABB1FACCK1FABC1F4YABCK1FABC1F4YABG1F2I3C4L5P5",
  "SABB1FACC1F4YACB1FABC1F4YABCK1FAHB1FABC1F3UABCK1FACB1FABCK1FAEB1FABIK1F1Q2I3U4L5S5XABC1F1QAB",
  "D1F1Q2IACCK1FABBKACC1F1QABB3U7PCB1R2CBC1D5IBBB5IlSBC2S3O7KBD1F1Q2S3nEBC1D1OhDCGM1W1V2B2J6GAB",
  "FM1W1V2B2JCBB1VBKGM1W1V2B2J6GBBFM1W1V2B2JAIGM1W1V2B2J6GAEFM1W1V2B2JKECM1VCBFM1W1V2B2JAFC2B2J",
  "BBFM1W1V2B2JECD1V2B2JACB1V3LCC2B2JACC2B2JDBC2B2J3MBGM1W1V2B2J6GABC2B2J5RQB1V1G1KB1V2I1OB1V2E",
  "1XB1VPMB1V1ZBB1V3KZB1VKFB1V3S1FB1VvaUBC1D1O5OIC1V2SbKDO1F1H1S1U2P2I2H3A3C3N3U2Q5O5XADN1F1H1S",
  "1U2P2I2H3A3N3U2Q5O5XAEL1F1H1S1U2P2H3A3N2Q5O5X7BBCK1FBBC1F5P2GBD2L2S3R6EBCP2GmtMCCD3X6WBCD5TK",
  "BCD5T2TCFM1W1V2B2JaWFGM1W1V2B2J6GKBC2B2J1TCC2B2JdOCD1C1B2WABC1B2WE1TD1B2V2WDJC1B2WgABCDZA1BC",
  "DZ26KBC3E4K27IBC1Q5PBBC1Q5P2DBC1Q5PABC1Q5P3fVCC1Q5PBBC1Q5P16vWEB1I67WSB1V8fYCB1V"]

/-- Runs between gaps, each with as many numbers as its third one tells. -/
def sharedRuns : Nat → List Nat → List (Nat × List Nat)
  | fuel + 1, gap :: length :: count :: rest =>
    (gap, []) :: (length, rest.take count) :: sharedRuns fuel (rest.drop count)
  | _, _ => []

/-- The scripts that use each code point beside its own or instead of it; mostly there are none. -/
def sharedTable : StepMap (List Nat) :=
  let numbers := unpack packedShared
  .ofRuns (sharedRuns numbers.length numbers ++ [(0, [])])

/-- The number of the script with the given name in lower case and without separators. -/
def named? (name : String) : Option Nat :=
  names.findIdx? fun entry => (entry.splitOn " ").contains name

def isIn (script n : Nat) : Bool := table.get? n = some script

def isUsedIn (script n : Nat) : Bool :=
  match sharedTable.get? n with
  | some [] | none => isIn script n
  | some scripts => scripts.contains script

end RunLog.Unicode.Script
