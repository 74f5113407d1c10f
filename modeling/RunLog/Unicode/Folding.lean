import RunLog.Unicode.StepMap

namespace RunLog.Unicode.Folding

/-- Runs of letters that fold by the same distance. Each run gives the distance of its first letter
from that of the run before it; twice the number of its letters, plus one where only every second
code point is meant; and twice the distance to the folded letter, or less one where that letter
comes first. -/
def packed : List String := [
  "2N2A2M4MC1nQL1U2MYO2M1O1XC1YHCHRCR1VC1UC9HBHCGCkPCCgEBFCECfWBCCCEfUCCCDC6CBCfOBCfQBCCCCfUBCf",
  "YCCgGBCgCBCCECgGBCgKCCgMBHCGCgUBCCCCgUDCCCCgUBCCCEgSCFCECgWBCCECCICEBCCCCEBCCCCEBTCTTCTCEBFC",
  "EC7LBC4HB1PC1OC9ZCTCYCn2KBCCCCcNBCn2EDCCCCeZBC5IBC5MBLC9VC8Y1RFCGCCJC8YHC2YCG2WEC4YCE4WD1I2M",
  "SS2M1FCCNCQBC2HBC1XEC1DBC1RCZCYC4DBC3RDC4PBC4XCCCCCNBCCDG9ZD1G6EQ2M2M3C1JC1Q2DC2CC1EBPCP3TC3",
  "T2Y3S34P2YfiU1NCfiUGCfiUvFMP2cACdaPBCdaNBCd9VBEd9RCCd9TBCd9FBCd7JBC23cWBCCH3I6fJ1TG6fJcL5VC5",
  "ZC4LDCg9TC3TC4AQPQMPQQPQQPQMPRJPPQP1GQPQQPQQPQEPCE5RCCRCCfbTKI6PECRHCfgNFEPCE7RJCffHFEPCE8PC",
  "CNME9VCE9RCCRbMCg2FEChwVBChnNHC2E1U1G1G1JCCvN2A2A1zU3S3S3SCCCCmyJBC85JBCmxDDHCGCn1FBCmyVBCn1",
  "LBCn1JCCCDCCJEn3XC3XC4DFCHCCx6K1VC2M1DC6GPCQ2LC2TFCEC23hVBLCNCCCC2icHDFCGVCUC2ieLBC2ifHBC2ie",
  "ZBC2ieFBC2ieLCC2iaPBC2icLBC2iaVBC1zKBRCQC3RBC2ieJBC23lVBFCEC2ihDBCCECCGHCGC2ixXZCCyH6E2b1Nlr",
  "PCC14M2A2M1bZ3C3C6U2U3C7KW3AM1E3AQO3AIE3A1wE3Y4Y8A1S2M33K2M2MnfC2M2MxkQ2Q2Q"]

/-- The integer that a natural number stands for: even ones for zero and above, odd ones below. -/
def signed (n : Nat) : Int := if n % 2 = 0 then (n / 2 : Nat) else -((n / 2 : Nat) : Int) - 1

def run (first size distance : Nat) : List (Nat × Nat) :=
  (List.range (size / 2)).map fun i =>
    let letter := first + i * (size % 2 + 1)
    (letter, ((letter : Int) + signed distance).toNat)

/-- The letters of all runs, from the given code point on. -/
def runs (start : Nat) : List Nat → List (Nat × Nat)
  | gap :: size :: distance :: rest => run (start + gap) size distance ++ runs (start + gap) rest
  | _ => []

/-- All letters that fold to another one, in ascending order. -/
def letters : List (Nat × Nat) := runs 0 (unpack packed)

def foldTable : StepMap Nat := ⟨letters.toArray⟩

/-- The letters that fold to each folded letter, which come one after the other. -/
def unfoldTable : StepMap Nat :=
  ⟨((letters.map fun letter => (letter.2, letter.1)).mergeSort fun a b => a.1 ≤ b.1).toArray⟩

def fold (n : Nat) : Nat :=
  match foldTable.stepAt? n with
  | some (letter, folded) => if letter = n then folded else n
  | none => n

/-- The letters that fold to a given one, itself left out. -/
def unfold (folded : Nat) : List Nat :=
  let last := StepMap.countUpTo unfoldTable.steps folded 0 unfoldTable.steps.size
  let first := if folded = 0 then 0
    else StepMap.countUpTo unfoldTable.steps (folded - 1) 0 unfoldTable.steps.size
  (unfoldTable.steps.extract first last).toList.map Prod.snd

/-- All code points that differ from the given one in case alone, itself included. -/
def variants (n : Nat) : List Nat :=
  let folded := fold n
  folded :: unfold folded

end RunLog.Unicode.Folding
