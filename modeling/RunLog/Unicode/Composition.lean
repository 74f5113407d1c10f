import RunLog.Unicode.StepMap

namespace RunLog.Unicode.Composition

def packedClasses : List String := [
  "tOAV8WB8YE8MB8YB8IF8MC7UE8MC7UL8MFBE8MI8WB9GB8WD8MD8WC8MBAD8WE8MB8WB8YC8MB8WB8ZC9AB8ZC9AB8ZN",
  "8WaPAF8WaFAB8ME8WB8MD8WB8OB8MG8WG8MC8WB8MC8WB8OB8UB8WBKBLBMBNBOBPBQBRBSCTBUBVBWBABXBABYBZBAB",
  "8WB8MBABS2UAI8WB1EB1FB1G1WAB1BB1CB1DB1EB1FB1GB1HB1IC8WC8MF8WB8MC8WB8MQAB1J3XAH8WCAE8WB8MB8WC",
  "AC8WBAB8MC8WB8M1JAB1K1EAB8WB8MC8WB8MC8WD8MB8WC8MB8WB8MD8WB8MB8WB8MB8WB8MB8WB8MC8W6EAH8WB8MB8",
  "WJAB8MYAE8WBAJ8WBAD8WBAF8W1RAD8M2IAB8WD8ME8W1QAF8WF8MO8WBAB8MC8WB8MC8WB8MD8WD8MB1BB1CB1DD8WB",
  "8MC8WC8MF8W2IABHQABJDAB8WB8MC8W3ZABHQABJ1WAB8W2JABHQABJ4GABHQABJ4GABHQABJ4XABJ4GABHQABJHAB3G",
  "B3N3XABHQABJ4FACJQABJ4UABJ4FAC3ZBJNAE4D4EAC4OBJNAE4S2YAC8M1BAB8MBAB8MBAB8I2DAB4ZB5ABAB5CFAE5",
  "ACAB5ABAC8WBJBAC8W2KAB8M4IABHBACJ3EAB8MrRAD8W10MACJ1EABJ6BABJKAB8W7VAB8U5NAB8OB8WB8M8LAB8WB8",
  "M2TABJUAI8WCAB8M1WAF8WG8MC8WB8MBAC8MC8WC8MF8WB8ME8W3XABHPABJ1MAB8WB8MH8W2CACJ2GABHLACJ2PABH5",
  "WAD8WBABBF8MC8WE8MB8WBAHBEAB8MGAB8WDAC8W7QAC8WB8MH8WB8MC8WB9AB8GB8MB7U1L8WB8YC8UB8MB8KB8WB8Z",
  "B8MB8WB8MrSAC8WCBE8WDBC8WEAB8WDACBB8WB8MB8WCBE8MB8W3aCAD8W5LABJ3SA1G8WlIAB8KB8UB8YB8OC8Q4BAC",
  "Iw8EAB8WEAK8W1GAC8W3CAC8WaQABJ1LABJ5VABJ1BAS8W2FAD8M1LABJ3RABHMABJ9FAB8WBAC8WB8MCAC8WFAC8WBA",
  "B8W2AABJ9MABJlnSAB1AtPAH8WH8MC8W11LAB8M8SAB8M5TAF8W1sSAB8MBAB8W1OAB8WBBB8MEABJ6JAB8WB8MmBAE8",
  "WeXAC8W3CAD8M2SAC8MD8WB8MB8WE8M1XAB8WB8MB8WB8M7KABJ1PABJOABJ2FABJBH2RAD8W1WACJ2KABH2YABJJABH",
  "4CABJBH6WABHBJ3CACHQABJYAH8WDAF8W7XABJDABHXAB8W3VABJBH9RABJBH4WABJ4OABJBH4LABJaJABJBH9YACJEA",
  "BH6AABJ3FABJSABJ3DABJgFABJ9YABHBACJ3DABJgJACJkpDAFB2HAH8W1aNACGkyYABB5oOAC8IDBDAB8SF8IIAI8MC",
  "AF8WC8M1EAE8W5SAD8W3rFAH8WBAR8WCAH8WBAC8WBAF8W3WAB8W6EAH8WeLAB8W2JAE8WjOAC8YB8MB8W12EAH8M4FA",
  "G8WBHtcgVA"]

/-- The combining class of each code point: zero for one that starts a sequence. -/
def classTable : StepMap Nat := numberMap packedClasses

def combiningClass (n : Nat) : Nat := (classTable.get? n).getD 0

/-- The second characters of all pairs, by their distances. -/
def packedSeconds : List String := [
  "tOBBBBCBBBBBBDCCBHIBBBBBFBCBHKDnZDBBDDCB5PBBsP4YCZ3X9WCYB3ZZ4X4ETB4AZ4LFQfNCM2BC4P30P5uQB1pa",
  "U4FkPZdHKD9IyN1edTJBBBB"]

/-- The characters that stand for pairs: the distance from the one before, the distance of the first
character of the pair, and twice the place of the second one, plus one where the pair is never
composed. -/
def packedPairs : List String := [
  "7K9TAB9VCB9XEB9ZGBaBOBaDSCaD1QBaBABaDCBaFEBaHOBaBABaDCBaFEBaHOCaBGBaBABaDCBaFEBaHGBaJODaDABa",
  "FCBaHEBaJOBaDCD9TAB9VCB9XEB9ZGBaBOBaDSCaD1QBaBABaDCBaFEBaHOBaBABaDCBaFEBaHOCaBGBaBABaDCBaFEB",
  "aHGBaJODaDABaFCBaHEBaJOBaDCCaHOBeRIBcHIBeVKBcLKBeZ1SBcP1SBeZCBcPCBfDEBcTEBfHMBcXMBfLWBdBWBfN",
  "WBdDWDfTIBdJIBfXKBdNKBgBMBdRMBgF1SBdV1SBgJWBdZWBgJEBdZEBgNKBeDKBgRMBeHMBgV1QBeL1QBgXEBeNEDhD",
  "GBeTGBhHIBeXIBhLKBfBKBhP1SBfF1SBhTMEhZEBfPEBiB1QBfR1QCiFCBfVCBiJ1QBfZ1QBiNWBgDWFiVCBgLCBiZ1Q",
  "BgP1QBjDWBgTWEjLIBhBIBjPKBhFKBjTUBhJUDjVCBhLCBjZ1QBhP1QBkDWBhTWBkFCBhVCBkJEBhZEBkN1QBiD1QBkR",
  "WBiHWBkT1QBiJ1QBkXWBiNWDlDGBiTGBlHIBiXIBlLKBjBKBlPSBjFSBlTUBjJUBlX1SBjN1SBlXEBjNEBlXEBjNEBmB",
  "OBmBCBjRCBmFMBjVMBmJWBjZW1IpX1GBnN1GOqP1GBoF1G1DuLWBsBWBtZWBrPWBtRWBrHWBtJWBqZWBjDIBgTIBjHCB",
  "gXCBjLWBhBWBjPABhFAClRIBjHIB5KIB5KIBlVIBjLIDvXWBtNWBvTWBtJWBvP1SBtF1SBDIBDIB4FWBcOWBtZWEwZCB",
  "uPCDwTABuJABnTCBlJCBnVCBlLCBmPCBkFCByJYBvZYByN1ABwD1AByJYBvZYByN1ABwD1AByJYBvZYByN1ABwD1AByF",
  "YBvVYByJ1ABvZ1AByHYBvXYByL1ABwB1AByJYBvZYByN1ABwD1AByV1OBwL1OByX1OBwN1OD10DWBxTWH11HMByXMB11",
  "D1QByT1QBqDIBnTIBqJIBnZIB10VMByLMBDIBDIB10JIBxZIaN4PD2N1kJCBWCC1ACB1CCB1ECC1MCC1UCB2ACB4MC1A",
  "1HOBLOBKCBQCBSCBUCB2CC1A1HOBLOBZCBPCBJCFBCBDO1S1QAB1OOC1GCEBOF1CCBWAB1QKLBK1GBKX2BAB2DOC2LCE",
  "BOF2PCB2VAB2BKYDYBDY2WdDKBaTKOeTKBcJKBeXOBcNODeVKBcLKDDOBDOBfFOBcVOBfHOBcXODfNIBdDIBfROBdHOB",
  "fJOBcZODDOBDOBeROBcHOBfPIBdFIBfTOBdJOBfXUBdNUBfTOBdJODfTOBdJObLK2YBI3AB2U3ABE3CB2U3A5Y1Q3ACB",
  "3ARB3AnAB3EIB3EDB3E1K5D3FB5D3FB5D3FB4V3FB4N3FB4N3FB3X3FB3R3F4EH3IBJ3KQ4N3HB4N3HC3R3H3GB3NDE3",
  "N1J5D3NB5D3NB4V3ND3X3N9AB3SDH3QBJ3UQ4N3PB4N3P2DD3Y2CH3WBH3WBL3Y4UD4A4QB4EHB4EBD4GCH4CBB4E4XH",
  "4IBH4IBL4K5MB4MCF4OBB4MBJ4QdTB5BKB5BFB5BFB5BFB5BN3D4ZKD4TCH4VB4Q4XC4O4XJ1F4XSB5BKB5BFB5BFB5B",
  "FB5BN3D4Z4FB5C2zCB5ECB5ECB5ECB5ECB5EEB5E1PB5ECB5EDD5EBD5ECB5EqZg9T1MBg7J1MBg9VMBg7LMBg9Z1IBg",
  "7P1IBgaD2ABg7T2ABg0BCBfxRCBgaHMBg7XMBgaL1IBg8B1IBgaP2ABg8F2ABgaT1QBg8J1QBgaX1UBg8N1UBfvFABfv",
  "FABfvJCBfvJCBgbH1UBg8X1UBgbL1YBg9B1YBfaLKBfaLKBgbRMBg9HMBgbTIBg9JIBgbVMBg9LMBgbZ1IBg9P1IBgcD",
  "OBg9TOBgcH1QBg9X1QBgcL1WBgaB1WBgcN1YBgaD1YBg2JCBfzZCBgcRCBgaHCBgcV1IBgaL1IBgcZ2ABgaP2ABgdB1I",
  "BgaR1IBDIBDIBgdJ2ABgaZ2ABgdN1UBgbD1UBgdPCBgbFCBgdTMBgbJMBgdX1IBgbN1IBgdZMBgbPMBgeD1IBgbT1IBg",
  "eH2ABgbX2ABgeL1UBgcB1UBg4FCBg1VCBg4JOBg1ZOBfvJABfvJABfvNCBfvNCBgfBCBgcRCBgfFMBgcVMBgfFMBgcVM",
  "BgfJ1IBgcZ1IBDIBDIBgfR2ABgdH2ABgfTMBgdJMBgfX1IBgdN1IBfvVMBfvVMBfvNMBfvNMBLMBLMBggLMBgeBMBggP",
  "1IBgeF1IBggT2ABgeJ2ABggX1UBgeN1UBggZ1KBgeP1KBghD1YBgeT1YBghH1UBgeX1UBfwHCBfwHCBfwHOBfwHOBghR",
  "GBgfHGBghV1IBgfL1IBghXABgfNABgiBCBgfRCBgiFOBgfVOBgiJMBgfZMBgiN1IBggD1IBgiPMBggFMBgiTOBggJOBg",
  "iVMBggLMBgiXEBggNEBgjB1IBggR1IBgjF2ABggV2ABgiH2ABghLOBghHSBghFSCfxFMFgmB1IBgjR1IBgmFQBgjVQBg",
  "cLCBgaBCBgcPABgaFABgcTQBgaJQBgcXGBgaNGBXEBXEBg8HCBg8HCBg8LABg8LABg8PQBg8PQBg8TGBg8TGB1RKB1RK",
  "BgnP1IBglF1IBgnTQBglJQBgnXGBglNGBgdVCBgbLCBgdZABgbPABgeDQBgbTQBgeHGBgbXGB1BEB1BEBgoNQBgmDQBg",
  "oR1IBgmH1IBgoJ1IBglZ1IBgoNQBgmDQBgeLCBgcBCBgePABgcFABgeTQBgcJQBgeXGBgcNGBXEBXEBfzNCBfzNCBfzR",
  "ABfzRABfzVQBfzVQBfzZGBfzZGBg0D1IBg0D1IBgpT1IBgnJ1IBgpXQBgnNQBfzLCBfzLCBfzPABfzPABfzTQBfzTQBf",
  "zXGBfzXGBg0B1IBg0B1IBgqNABgoDABgqR1IBgoH1IBgqVQBgoLQBgqZGBgoPGHexT1CBexV1EBDABDABHCBHCBL2EBL",
  "2EBf0V1CBf0X1EBDABDABHCBHCBL2EBL2EBeyR1CBeyT1EBDABDABHCBHCDf1T1CBf1V1EBDABDABHCBHCDezT1CBezV",
  "1EBDABDABHCBHCBL2EBL2EBf2V1CBf2X1EBDABDABHCBHCBL2EBL2EBf0V1CBf0X1EBDABDABHCBHCBL2EBL2EBf3X1C",
  "Bf3Z1EBDABDABHCBHCBL2EBL2EBf1P1CBf1R1EBDABDABHCBHCDf4R1CBf4T1EBDABDABHCBHCDf2J1CBf2L1EBDABDA",
  "BHCBHCBL2EBL2ECf5N1ECDACHCCL2EBf3H1CBf3J1EBDABDABHCBHCBL2EBL2EBf6J1CBf6L1EBDABDABHCBHCBL2EBL",
  "2EBf6JACf6FACf6FACf6FACf5XACf5PACf5LAE9V2GB9V2GB9V2GB9V2GB9V2GB9V2GB9V2GB9V2GB9V2GB9V2GB9V2G",
  "B9V2GB9V2GB9V2GB9V2GB9V2GB8P2GB8P2GB8P2GB8P2GB8P2GB8P2GB8P2GB8P2GB8P2GB8P2GB8P2GB8P2GB8P2GB8",
  "P2GB8P2GB8P2GB4X2GB4X2GB4X2GB4X2GB4X2GB4X2GB4X2GB4X2GB4X2GB4X2GB4X2GB4X2GB4X2GB4X2GB4X2GB4X2",
  "GBfbHKBfbJIB5B2GBfbN2GBfbZ2GCfbT2EBB2GBfeJKBfeLIBfeNACfeR2GFh0J2EB5Z2GBfcH2GBfdB2GCfcN2EBB2G",
  "BffHACffHACffL2GB1BAB1DCB1F2EBfdDKBfdFIBfbZAEfdP2EBfcJ2EBfgFKBfgHIBfgJAD2OAB2MCB2K2EBfdLKBfd",
  "NIBfdDACfeB1CBfeD1EBfdX2EBfdN2EBfgNKBfgPIBfgRACfhD1EBh3TAF9B2GBfeP2GBfeH2GCfeV2EBB2GBfiFACfh",
  "PACfhT2GfYT2CBR2CT1Z2C1FG2CBM2CBG2C2BB2CFB2CDB2CYB2CCB2C1BJ2CDB2CDD2CCB2CXioF2CCB2CL2L2CBipJ",
  "2CBipH2CBX2CBX2CDD2CBD2CDD2CBD2CHL2CBL2CDD2CBD2CDD2CBD2C1JT2CBJ2CBJ2CBH2C1X7R2CB7R2CB6F2CB6F",
  "2CH4H2CB4H2CB4H2CB4H2C26DC2D1hOB5GCB5GCB5GCB5GCB5GCB5GCB5GCB5GCB5GCB5GCB5GCB5GDB5GCB5GCB5GHB",
  "5GBD5ICB5GBD5ICB5GBD5ICB5GBD5ICB5GBD5IX5Z5GKB5GOB5GCB5GCB5GCB5GCB5GCB5GCB5GCB5GCB5GCB5GCB5GC",
  "B5GDB5GCB5GCB5GHB5GBD5ICB5GBD5ICB5GBD5ICB5GBD5ICB5GBD5IX5Z5GDP5GBP5GBP5GBP5GEB5G1jaD3q5V2JC3",
  "q4B2LL3q5P2VB3q5R2XB2G2VB2E2XB3q7V2LB3q7X2NB3q7Z2RB3q7Z2RB3q7Z2RB3q7Z2RB3q7Z2RB3q7Z2RB3q7Z2R",
  "C3q7Z2RB3q7Z2RB3q7Z2RB3q7Z2RB3q7Z2RC3q7Z2RC3q7Z2RB3q7Z2RC3q7Z2RB3q7Z2RC3q7Z2RB3q7Z2RB3q7Z2RB",
  "3q7Z2RB3q7Z2RB3q9R2PB3qaB2TB3q9J2TB3q8T2T5tSB5KCB5KPL5K5BG5MBG5MkUH5OBJ5QeDD5UBF5SCJ5W9SD5YB",
  "D5YyJF6A1edEN6DBN6DBB6FBD6HBF6JBH6LBJ6N3JD6DBD6DBD6FBD6FBH6HBH6H"]

def sums (sum : Nat) : List Nat → List Nat
  | [] => []
  | distance :: rest => (sum + distance) :: sums (sum + distance) rest

def seconds : Array Nat := (sums 0 (unpack packedSeconds)).toArray

/-- A character that stands for two. -/
structure Composite where
  code : Nat
  first : Nat
  second : Nat
  /-- Is the pair composed again? -/
  composed : Bool

/-- The integer that a natural number stands for: even ones for zero and above, odd ones below. -/
def signedDistance (n : Nat) : Int :=
  if n % 2 = 0 then (n / 2 : Nat) else -((n / 2 : Nat) : Int) - 1

/-- The characters that stand for pairs, from the given code point on. -/
def composites (start : Nat) : List Nat → List Composite
  | gap :: distance :: second :: rest =>
    let code := start + gap
    ⟨code, ((code : Int) + signedDistance distance).toNat, seconds[second / 2]?.getD 0,
      second % 2 = 0⟩ :: composites code rest
  | _ => []

/-- All characters that stand for pairs, in ascending order. -/
def all : List Composite := composites 0 (unpack packedPairs)

def pairTable : StepMap (Nat × Nat) :=
  ⟨(all.map fun c => (c.code, c.first, c.second)).toArray⟩

/-- The characters into which the pairs that begin with a given one compose. -/
def composeTable : StepMap (Nat × Nat) :=
  ⟨(((all.filter Composite.composed).map fun c => (c.first, c.second, c.code)).mergeSort
    fun a b => a.1 ≤ b.1).toArray⟩

/-- Where the syllables of Hangul begin, and their parts: leading consonants, vowels and trailing
consonants. -/
def syllableBase : Nat := 0xAC00

def syllableCount : Nat := 11172

def leadingBase : Nat := 0x1100

def vowelBase : Nat := 0x1161

def trailingBase : Nat := 0x11A7

def pair? (n : Nat) : Option (Nat × Nat) :=
  if syllableBase ≤ n && n < syllableBase + syllableCount then
    let i := n - syllableBase
    if i % 28 = 0 then some (leadingBase + i / 588, vowelBase + i % 588 / 28)
    else some (n - i % 28, trailingBase + i % 28)
  else match pairTable.stepAt? n with
    | some (code, pair) => if code = n then some pair else none
    | none => none

/-- No character stands for more than this many levels of pairs. -/
def maximalDepth : Nat := 8

def decompose : Nat → Nat → List Nat
  | 0, n => [n]
  | depth + 1, n => match pair? n with
    | some (first, second) => decompose depth first ++ [second]
    | none => [n]

/-- Puts a mark in its place: behind all that do not have a higher class. The list is reversed. -/
def insertMark (mark : Nat) : List Nat → List Nat
  | [] => [mark]
  | n :: rest =>
    if combiningClass mark < combiningClass n then n :: insertMark mark rest else mark :: n :: rest

/-- Adds a code point to a reversed sequence whose marks are in order. -/
def addOrdered (reversed : List Nat) (n : Nat) : List Nat :=
  if combiningClass n = 0 then n :: reversed else insertMark n reversed

/-- The decomposed form of a sequence, with its marks in order. -/
def decomposed (codes : List Nat) : List Nat :=
  ((codes.flatMap (decompose maximalDepth)).foldl addOrdered []).reverse

def compose? (first second : Nat) : Option Nat :=
  if leadingBase ≤ first && first < leadingBase + 19 &&
      vowelBase ≤ second && second < vowelBase + 21
  then some (syllableBase + ((first - leadingBase) * 21 + (second - vowelBase)) * 28)
  else if syllableBase ≤ first && first < syllableBase + syllableCount &&
      (first - syllableBase) % 28 = 0 && trailingBase < second && second < trailingBase + 28
  then some (first + (second - trailingBase))
  else
    let last := StepMap.countUpTo composeTable.steps first 0 composeTable.steps.size
    let begin := if first = 0 then 0
      else StepMap.countUpTo composeTable.steps (first - 1) 0 composeTable.steps.size
    ((composeTable.steps.extract begin last).find? fun step => step.2.1 = second).map (·.2.2)

/-- A composition under way: the code points before the last starter, the starter, the marks kept
behind it, and the class of the last of them. -/
structure State where
  before : List Nat := []
  starter : Option Nat := none
  marks : List Nat := []
  lastClass : Nat := 0

namespace State

/-- All code points so far, reversed. -/
def reversed (s : State) : List Nat := s.marks ++ s.starter.toList ++ s.before

/-- Takes the next code point: it composes with the starter unless a mark that was kept stands in
between. -/
def add (s : State) (n : Nat) : State :=
  let c := combiningClass n
  let blocked := !s.marks.isEmpty && c ≤ s.lastClass
  let composite := if blocked then none else s.starter.bind fun starter => compose? starter n
  match composite with
  | some composite => { s with starter := some composite }
  | none =>
    if c = 0 then { before := s.reversed, starter := some n }
    else { s with marks := n :: s.marks, lastClass := c }

end State

/-- The composed form of a sequence: the marks are put in order, and then what can be composed is.
Characters that merely stand for another one are left as they are. -/
def composed (codes : List Nat) : List Nat :=
  ((decomposed codes).foldl State.add {}).reversed.reverse

end RunLog.Unicode.Composition
