import RunLog.Unicode.StepMap

namespace RunLog.Unicode.Joining

/-- The short names of the joining types, in the order in which the table numbers them. -/
def names : List String := ["C", "D", "L", "R", "T", "U"]

def packed : List String := [
  "6RFBEmWF4IEaPFHEaDF1TEBFBEBFCEBFCEBFBE2UFLEBFBEDFBBBFEDBBBDBBBDFBEDNBBAHBBDCBVEOFCBBEDDBFDDQ",
  "BSD1MBBDCBJDBBBDBBBDCBCDBFBDHECFGECFCEBFEECDKFDBCFBBPFBEBDBEDBFDEBBDJBBDBBBDBBBDCBBD1BECFBDL",
  "BDDPBCDEBBDBBCDDBCDGB1MFLEZF1HBJEGFBACFBEYFEEBFJEBFDEBFFESFBDFBCDBBBDKBBDBBDDDEEFBBBFEBBFBDB",
  "BCDFFTDDABBCFFBBDJFIEKBDDBFBDCBCDGBBDPBBFYEBF1GE2DFBEBFBEEFIEEFBEDFHEKFCE1DFBE2GFBEEFEEIFBEU",
  "FCE1AFBECFCE2FFBEEFCEEFCECFDEDFBE1EFCEDFBELFCE2FFBEEFFEBFCEEFBEUFCEWFGEBFBE2GFBECFBEBFEEIFBE",
  "HFCELFCE1EFBE2JFBEMFBE1YFBEDFBE2DFBEBFDEFFDEBFEEHFCELFCE1DFBE2GFBECFBEGFBEFFCEUFCE1CFCE2FFCE",
  "EFEEIFBEUFCE1DFBE2UFBEHFDEBFBE3MFBECFHEMFIE3UFBECFJELFHE2VFCE1BFBEBFBEBFBE2DFOEBFFEBFCEFFLEB",
  "F1KEJFBE3YFEEBFGEBFCECFCEZFCEEFDEQFEENFBECFCEGFBEPFBErBFDE10KFDE1DFCE1EFCE1EFCE2MFCEBFHEIFBE",
  "CFLEJFBE1PFBBCFBADEBFBEQF3LBMFCE1IBBEBB4NFDEEFCEJFBEGFDE8LFCECFBE2GFBEBFHEBFBEBFBECFIEGFKECF",
  "BE1WF1FE1XFEE1WFBEBFFEBFBEFFBE1OFJEMFCE1GFEECFCEBFDE2EFBEBFCEDFBEBFDE2GFIECFCE5WFDEBFNEBFHEE",
  "FBEGFBEDFCE7QF2MEkDFBEBFBACE1AFFE1XFFEFFGE3SF1HE3aCFDE5LFBE3SF1GElIFEE4DFCEw8EFEEBFKE1GFCE3C",
  "FCEaMFBEDFBEEFBEZFCEFFBETF1YBBC3DFCE1AFSENFBE1MFIEZFLE1UFDE1WFBECFEECFCE1NFBE2PFGECFCECFCEMF",
  "BEIFBE1VFBE1ZFBEBFDECFCEFFCEBFBE1QFCEIFBE9EFBECFBEEFBElnSFBEsJFQEQFQE7ZFBE9PFDEjTFBE8SFBE5TF",
  "FE1sGFDEBFCEFFEE1OFDEEFBE4YFFBBDBFBDBFCDCFBCFDEBBCFBBDDBBDCFBDCEEFEBBD5OFBBBDBBDDDBBDCBBDBBC",
  "DBBBDXFEDCBcZFBC1HBBDBBEEeXFCE3CFDE1WFDBBDRBBFLEDBBD1BFEBCDMBEE1QFBBBFCBDDBFBBCDCBBDCBBFBBCD",
  "BBEFBDBBBC2BFBE2CFPE1PFBECFCEKFDE1XFEECFCEHFBE2JFDE1KFFEBFIE2KFBEMFCE2AFJEKFEECFBE3RFDECFBEB",
  "FCEGFBECFBE6BFBEDFIEVFCE2FFCEDFBE1LFHEDFFE7NFIECFDEBFBEXFBE3GFGEBFBEEFCEBFCE9EFEEGFCEBFCE1BF",
  "CE3HFIECFBEBFCE4CFBEBFBECFGEBFBE3XFDECFEEBFFE9ZFJEBFCE9WFCEBFBEEFBE5OFEECFCEEFBE1GFKE1OFGECF",
  "EEIFBEJFGECFDE1UFNEBFCEfQFHEBFGEBFBE3EFWECFHEBFCEBFCE4SFGEDFBEBFCEBFHEBFBE2UFCEDFBEBFBEdJFCE",
  "LFCE2AFFEFFBEBFBE5qBFREGFPEexQFFE2HFHE14IFBE2LFEE3DFBEkzKFCEBFEE50UF1UECFXEkYFDEJFQECFHE1EFE",
  "E5SFDE24DF2DEEF1YEIFBEOFBEWFFEBFPE1gIFHEBFRECFHEBFCEBFFE3WFBE6EFHEeLFBE2JFEEjOFEE12EFHE1PF2Q",
  "BIEnieZFBE1EF3SE4YF9GE5tiUF"]

def table : StepMap Nat := numberMap packed

/-- The joining type of a code point, by its short name. -/
def ofCode (n : Nat) : String := (((table.get? n).bind fun i => names[i]?).getD "")

end RunLog.Unicode.Joining
