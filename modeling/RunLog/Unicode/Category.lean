import RunLog.Unicode.StepMap

namespace RunLog.Unicode.Category

/-- The short names of the categories, in the order in which the table numbers them, each with its
other names. -/
def names : List (String × List String) :=
  [
    ("Cc", ["control", "cntrl"]),
    ("Cf", ["format"]),
    ("Cn", ["unassigned"]),
    ("Co", ["privateuse"]),
    ("Cs", ["surrogate"]),
    ("Ll", ["lowercaseletter"]),
    ("Lm", ["modifierletter"]),
    ("Lo", ["otherletter"]),
    ("Lt", ["titlecaseletter"]),
    ("Lu", ["uppercaseletter"]),
    ("Mc", ["spacingmark"]),
    ("Me", ["enclosingmark"]),
    ("Mn", ["nonspacingmark"]),
    ("Nd", ["decimalnumber", "digit"]),
    ("Nl", ["letternumber"]),
    ("No", ["othernumber"]),
    ("Pc", ["connectorpunctuation"]),
    ("Pd", ["dashpunctuation"]),
    ("Pe", ["closepunctuation"]),
    ("Pf", ["finalpunctuation"]),
    ("Pi", ["initialpunctuation"]),
    ("Po", ["otherpunctuation"]),
    ("Ps", ["openpunctuation"]),
    ("Sc", ["currencysymbol"]),
    ("Sk", ["modifiersymbol"]),
    ("Sm", ["mathsymbol"]),
    ("So", ["othersymbol"]),
    ("Zl", ["lineseparator"]),
    ("Zp", ["paragraphseparator"]),
    ("Zs", ["spaceseparator"])
  ]

def packed : List String := [
  "1GAB1DDVBXDVBWBSBVBZBVBRCVKNCVDZCV1AJBWBVBSBYBQBY1AFBWBZBSBZ1HAB1DBVEXB1ABVBYB1ABHBUBZBBB1AB",
  "YB1ABZCPBYBFCVBYBPBHBTDPBVXJBZHJYFBZIFBJBFBJBFBJBFBJBFBJBFBJBFBJBFBJBFBJBFBJBFBJBFBJBFBJBFBJ",
  "BFBJBFBJBFBJBFBJBFBJBFBJBFBJBFBJBFBJBFBJBFBJBFBJBFBJBFBJCFBJBFBJBFBJBFBJBFBJBFBJBFBJBFBJCFBJ",
  "BFBJBFBJBFBJBFBJBFBJBFBJBFBJBFBJBFBJBFBJBFBJBFBJBFBJBFBJBFBJBFBJBFBJBFBJBFBJBFBJBFBJBFBJBFCJ",
  "BFBJBFBJDFCJBFBJBFCJBFDJCFEJBFCJBFDJDFCJBFCJBFBJBFBJBFCJBFBJCFBJBFCJBFDJBFBJBFCJCFBHBJDFEHBJ",
  "BIBFBJBIBFBJBIBFBJBFBJBFBJBFBJBFBJBFBJBFBJBFBJCFBJBFBJBFBJBFBJBFBJBFBJBFBJBFBJBFBJCFBJBIBFBJ",
  "BFDJBFBJBFBJBFBJBFBJBFBJBFBJBFBJBFBJBFBJBFBJBFBJBFBJBFBJBFBJBFBJBFBJBFBJBFBJBFBJBFBJBFBJBFBJ",
  "BFBJBFBJBFBJBFBJBFBJBFBJBFBJHFCJBFCJCFBJBFEJBFBJBFBJBFBJBFBJ2RFBH1BFSGEYMGOYFGHYBGBYBGRY4IMB",
  "JBFBJBFBGBYBJBFCCBGDFBVBJECCYBJBVDJBCBJBCCJBFRJBCJJ1JFBJCFDJDFBJBFBJBFBJBFBJBFBJBFBJBFBJBFBJ",
  "BFBJBFBJBFBJBFBJFFBJBFBZBJBFCJCF1ZJ1WFBJBFBJBFBJBFBJBFBJBFBJBFBJBFBJBFBJBFBJBFBJBFBJBFBJBFBJ",
  "BFBJBFBJBFBJBFB1AFMCLBJBFBJBFBJBFBJBFBJBFBJBFBJBFBJBFBJBFBJBFBJBFBJBFBJBFBJBFBJBFBJBFBJBFBJB",
  "FBJBFBJBFBJBFBJBFBJBFBJBFBJBFBJBFBJBFCJBFBJBFBJBFBJBFBJBFBJBFBJCFBJBFBJBFBJBFBJBFBJBFBJBFBJB",
  "FBJBFBJBFBJBFBJBFBJBFBJBFBJBFBJBFBJBFBJBFBJBFBJBFBJBFBJBFBJBFBJBFBJBFBJBFBJBFBJBFBJBFBJBFBJB",
  "FBJBFBJBFBJBFBJBFBJBFBJBFBJBFBJBFBJBFBJBFBJBFBJBFBJBFBJBFBJBFBJBFBJBFBJBFBC1MJCCBGGV1PFBVBRC",
  "CC1ABXBC1TMBRBMBVCMBVCMBVBMIC1BHECEHCVLCGBDZCVBXCVC1ALMBVBBDV1GHBGKHVMKNEVCHBM3VHBVBHHMBBB1A",
  "GMCGCMB1AEMCHKNDHC1ABHOVBCBBBHBM1EH1BMCC3LHLMBHOCKN1HHJMCGB1ADVBGCCBMCXWHEMBGJMBGDMBGFMCCPVB",
  "CZHDMCCBVBCLHFCYHBYGHBCCBGCIM1PHBGYMBB1GMBK2CHBMBKBMBHDKIMEKBMCKBHHMKHCMCVKNBVBGPHBMCKBCIHCC",
  "CHCCWHBCHHBCBHDCEHCCBMBHDKEMCCCKCCCKBMBHICBKECCHBCDHCMCCKNCHCXGPB1ABXBHBVBMCCCMBKBCGHECCHCCW",
  "HBCHHBCCHBCCHBCCHCCBMBCDKCMECCMCCDMDCBMHCEHBCBHHCKNCMDHBMBVKCCMBKBCJHBCDHBCWHBCHHBCCHBCFHCCB",
  "MBHDKFMBCCMBKBCCKBMCCBHPCCHCMCCKNBVBXHCBHGMBCBMCKBCIHCCCHCCWHBCHHBCCHBCFHCCBMBHBKBMBKEMCCCKC",
  "CCKBMHCCMBKECCHBCDHCMCCKNB1ABHGPKCBMBHBCGHDCDHBCEHDCCHBCBHBCCHDCCHDCDHDCMHECCKBMCKDCDKBCDKBM",
  "CCBHGCBKOCKNDPG1ABXB1AFCBMDKBMIHBCDHBCXHBCQHCCBMBHDMEKBCDMBCEMHCCMBCDHCCBHCCCHCMCCKNHCBVHPB1",
  "ABHBMCKBVIHBCDHBCXHBCKHBCFHCCBMBHBKBMFKBCBMCKBCCKCMHCCKGCCHBCCHCMCCKNBCCHBKMCCMCKJHBCDHBC1PH",
  "CMBHDKEMBCDKBCDKBMBHB1AECDHBKHPDHCMCCKNJPB1AGHBCBMCKBCSHDCYHBCJHBCBHCCHHDCBMECDKDMBCBMBCIKGC",
  "KNCCCKBVMC1WHBMCHHMECBXGHBGIMBVKNCV1LCCHBCBHBCFHBCYHBCBHBCKHBMCHJMBHCCFHBCBGBCHMBCKNCCEH1GCB",
  "HD1APVB1ABVD1ACMG1AKNKPB1ABMB1ABMB1ABMBWBSBWBSCKIHBC1KHECOMBKFMBVCMFHLMBC1KMBCI1ABMG1ABCC1AF",
  "VE1ACV1LC1RHCKEMBKGMBKCMCKCMBHKNGVGHCKCMEHDMBHDKCHHKDHEMNHBMCKCMGKBMBHBKKNDKBMC1A1MJBCBJFCBJ",
  "CC1RFBVBGDFcRHBCEHCCHHBCBHBCEHCC1PHBCEHCC1HHBCEHCCHHBCBHBCEHCCPHBC2FHBCEHCC2PHCCDMJVUPDCQHK1",
  "AGC3IJCCGFCCBRnWHB1ABVRHB1D1AHBWBSDC2XHDVDOIHHCSHDMBKJCTHCMBKCVJCSHCMMCNHBCDHBCCMMC2AHCMBKHM",
  "IKBMCKLMDVBGDVBXBHBMCCKNGCKPGCGVBREVDMBBBMKNGC1JHBG2BHHCFHCM1IHBMBHFC2SHKC1FHBCDMEKCMDKECCKB",
  "MGKDMECB1ADCCVKN1EHCCFHLC1SHEC1AHGCKNBPDC1I1AXHCMCKBMCCCV2BHBKBMBKHMBCBMBKBMCKIMGKKMCCBMKNGC",
  "KNGCHVBGGVCCOMBLQM1XCEMBK1VHBMBKFMBKBMFKBMCKIHDCKNHVK1AJMJ1ACVBCCMBK1EHBKEMCKCMBKDMCHKN1SHBM",
  "BKCMDKBMBKDMCKICEV1KHIKIMCKCMDCFVKNDCDHKN1EHGGCVJFHC1RJCCDJIVICDMBVNMBKHMEHBMGHBMCHBKCMBHFC1",
  "SF2LGNFBG1IF1LG2MMBJBFBJBFBJBFBJBFBJBFBJBFBJBFBJBFBJBFBJBFBJBFBJBFBJBFBJBFBJBFBJBFBJBFBJBFBJ",
  "BFBJBFBJBFBJBFBJBFBJBFBJBFBJBFBJBFBJBFBJBFBJBFBJBFBJBFBJBFBJBFBJBFBJBFBJBFBJBFBJBFBJBFBJBFBJ",
  "BFBJBFBJBFBJBFBJBFBJBFBJBFBJBFBJBFBJBFBJBFBJBFBJBFBJBFBJBFBJBFBJBFBJBFBJBFBJBFBJBFBJBFBJBFBJ",
  "BFBJBFBJBFBJBFBJBFBJBFBJBFBJBFBJBFBJBFBJJFBJBFBJBFBJBFBJBFBJBFBJBFBJBFBJBFBJBFBJBFBJBFBJBFBJ",
  "BFBJBFBJBFBJBFBJBFBJBFBJBFBJBFBJBFBJBFBJBFBJBFBJBFBJBFBJBFBJBFBJBFBJBFBJBFBJBFBJBFBJBFBJBFBJ",
  "BFBJBFBJBFBJBFBJBFBJBFBJBFBJBFBJBFBJBFBJBFBJBFBJBFBJJFIJGFCCGJCCIFIJIFIJGFCCGJCCIFBCBJBCBJBC",
  "BJBCBJIFIJOFCCIFIIIFIIIFIIFFBCCFEJBIBYBFDYDFBCCFEJBIDYEFCCCFEJBCDYIFFJDYCCDFBCCFEJBICYBCL1DF",
  "BGRCVBUBTBWCUBTBWBUIVB1BB1CFBB1DJVBUBTEVCQDVBZBWBSLVBZBVBQKVB1DFBBCKBBPBGCCGPDZBWBSBGKPDZBWB",
  "SBCNGDC1HXPCNMELBMDLMMPCC1ABJE1ABJC1ABFDJCFDJBFB1ABJC1ABZFJG1ABJB1ABJB1ABJB1AEJB1ABFEJBFEHBF",
  "C1ACFCJFZBJEFB1ABZC1ABFB1AQP1JOBJBFEOBPC1AECFZF1ACZE1ABZC1ABZC1ABZH1ABZ1F1ACZC1ABZB1ABZ1F1Aa",
  "IZI1ABWBSBWBSU1ACZH1ABWBS3D1ABZ1E1AZZ1O1AGZ2R1AZCL1AVC2IP3A1AWP7B1ABZJ1ABZ2C1AIZ4H1ABZ9O1ABW",
  "BSBWBSBWBSBWBSBWBSBWBSBWBS1EP1S1AFZBWBS1FZBWBSBWBSBWBSBWBSBWBSQZ9W1A5BZBWBSBWBSBWBSBWBSBWBSB",
  "WBSBWBSBWBSBWBSBWBSBWBS2LZBWBSBWBS1GZBWBS9YZ1W1AVZC1AGZ1N1ACC1G1ABC4B1A1WJ1WFBJBFDJCFBJBFBJB",
  "FBJBFEJBFBJCFBJGFCGDJBFBJBFBJBFBJBFBJBFBJBFBJBFBJBFBJBFBJBFBJBFBJBFBJBFBJBFBJBFBJBFBJBFBJBFB",
  "JBFBJBFBJBFBJBFBJBFBJBFBJBFBJBFBJBFBJBFBJBFBJBFBJBFBJBFBJBFBJBFBJBFBJBFBJBFBJBFBJBFBJBFBJBFB",
  "JBFBJBFBJBFBJBFBJBFBJBFBJBFBJBFBJCFG1ABJBFBJBFDMBJBFFCEVBPCV1MFBCBFFCBFCC2EHHCBGBVOCBMXHJCHH",
  "BCHHBCHHBCHHBCHHBCHHBCHHBCHHBC1GMCVBUBTBUBTDVBUBTBVBUBTJVBRCVBRBVBUBTCVBUBTBWBSBWBSBWBSBWBSF",
  "VBGKVCREVBRBVBWNVC1ADVBWBSBWBSBWBSBWBSBR1IC1A1ABC3L1AMC8G1A1ACM1AECB1DDVB1ABGBHBOBWBSBWBSBWB",
  "SBWBSBWBSC1ABWBSBWBSBWBSBWBSBRBWCSB1AJOEMCKBRFGC1ADOBGBHBVC1ABC3IHCCCMCYCGBHBR3MHBVDGBHFC1RH",
  "BC3QHBCC1AEPK1A1GH1K1AMCQH1F1ABCKP1E1AIPB1APP1G1AKP1N1APPcI1A71OH2M1AmgFHBG17ZHDC2D1AJC1OHGG",
  "CVaIHBGDVQHKNCHUCBJBFBJBFBJBFBJBFBJBFBJBFBJBFBJBFBJBFBJBFBJBFBJBFBJBFBJBFBJBFBJBFBJBFBJBFBJB",
  "FBJBFBJBFBJBFBJBFBHBMDLBVKMBVBGBJBFBJBFBJBFBJBFBJBFBJBFBJBFBJBFBJBFBJBFBJBFBJBFBJBFBJBFCGCM2",
  "SHKOCMGVICXYJGCYBJBFBJBFBJBFBJBFBJBFBJBFBJDFBJBFBJBFBJBFBJBFBJBFBJBFBJBFBJBFBJBFBJBFBJBFBJBF",
  "BJBFBJBFBJBFBJBFBJBFBJBFBJBFBJBFBJBFBJBFBJBFBJBFBJBFBJBFBJBFBJBFBJBFBJBFBJBFBGIFBJBFBJBFCJBF",
  "BJBFBJBFBJBFBJBFBGCYBJBFBJBFBHBJBFBJDFBJBFBJBFBJBFBJBFBJBFBJBFBJBFBJBFBJBFBJBFFJBFFJBFBJBFBJ",
  "BFBJBFBJBFBJBFBJBFBJBFEJBFBJBFFCBJBFBCBFBCBFBJBFBJBFYCDGBJBFBHCGBFHHBMDHBMEHBMXHCKCMBKE1ABMD",
  "CGPC1ABXB1AGC2AHEVICCK1YHQKCMICCVKNGCSMGHDVBHBVCHBMKN1CHIMCVXHLMCKLCBV1DHDCDMBK1VHBMCKEMCKCM",
  "DKNVBCBGKNECCVFHBMBGJHKNFHBC1PHGMCKCMCKCMJCDHBMIHBMBKCCKNCCEVQHBGGHD1ABHBKBMBK1YHBMBHDMCHCMF",
  "HCMBHBMBHYCCHBGCVLHBKCMCKCVBHCGBKBMKCGHCCGHCCGHJCHHBCHHBC1RFBYEGJFBGCYEC3CF1JHCKBMCKBMCKBVBK",
  "BMCCKNGCbxSHMCXHEC1XHEC26UE6uEDeCHCC4CH1MCHFMCFFFCBHBMKHBZNHBCFHBCBHBCCHBCCHBC4EHRYQCdZHBSBW",
  "Q1A2MHCC2CHHCB1A1GCMHBXD1AQMHVBWBSBVGCQMBVCRCQBWBSBWBSBWBSBWBSBWBSBWBSBWBSBWBSCVBWBSEVDQDVBC",
  "EVBRBWBSBWBSBWBSDVBZBRDZBCBVBXCVECFHBC5FHCCBBBCDVBXDVBWBSBVBZBVBRCVKNCVDZCV1AJBWBVBSBYBQBY1A",
  "FBWBZBSBZBWBSBVBWBSCVKHBG1THCG1FHDCGHCCGHCCGHCCDHDCCXBZBYB1ACXBCB1AEZC1AKCDBC1ACCMHBC1AHBCTH",
  "BCCHBCPHCCOH1IC4THFCDVEC1TPDCJ1A2BOEPR1ACPD1ABCN1ADCB1A1VC1T1ABM5AC1DHDC1XHPCBM1BPEC1GHEPJCU",
  "HBOIHBOFC1MHFMFC1EHBCBV1KHECIHBVFO1QC1OJ1OF3AHCCKNGC1KJEC1KFEC1OHIC2AHLCBVLJBCPJBCHJBCCJBCLF",
  "BCPFBCHFBCCF2PCbZHJCWHKCIHYCGGBC1QGBCJG2RCGHCCBHBC1SHBCCHDCBHCCXHBCBVIPXHC1AHP1FHICJP1WCTHBC",
  "CHFCFPWHGPDCBV1AHFCBV2MC2EHECCPCHQPCC1UPBHDMBCCMFCEMEHBCDHBC1DHCCDMECBMJPHCJVHC1DHCPBV1DHDP1",
  "GCIHB1A1CHCMECFPHVJC2CHDCHVWHCCIPTHFCIPSHHCEVMCHP3CC2VH2DC1ZJNC1ZFHCGP1KHEMICKNbIC1FPBC1QHBC",
  "CMBRCCCH2XCDM1DHKPBHICWHLMEPFVWCSHEMEV1MCVHHPUCXHJCBKBMBK2BHPMHVECUPKNBMCHCMBHJCDMBK1THDKEMC",
  "KCMCVBBEVBMKCBBCCZHHCKNGCDM1KHFMBKIMBCKNEVBHCKBHIC1JHBMCVBHJCCMBK1WHDKJMCKEHEVEMBVBKBMKNBHBV",
  "BHDVBCUPLCSHBCZHDKDMCKBMBKCMGVBMCHBM2KCHHBCBHBCEHBCPHBCKHBVGC1VHBMDKIMFCKNGCCMCKBCIHCCCHCCWH",
  "BCHHBCCHBCFHBCCMBHCKBMEKCCCKCCDKCCBHGCBKFCFHCKCCHMDCFM5JC2BHDKIMCKDMBKBMEHFVKNCVBCBVBMDH1EC1",
  "WHDKGMBKBMEKCMBKCMCHBVBHICKN6KC1VHDKEMCCEKCMBKCMXVEHCM1IC1WHDKIMCKBMBKCMDVBHLCKNGCNVTC1RHBMB",
  "KBMCKGMBKBMBHBVGCKN2CC1BHCCDMCKEMBKFMECKNCPDVB1AHH7DC1SHDKJMBKCMBV3WC1GJ1GFKNJPMCIHCCBHCCIHB",
  "CCHBCYHGKBCCKCCCMBKBMBHBKBHBKBMDVJCKN2SCIHCC1NHDKEMCCCMEKBMBHBVBHBK1BCBHKM1OHGMBKBHEMIVBMICB",
  "HGMCKDM1UHNMBKCMDVBHFVNC2VHHCKV9MCJHBC1LHBKHMBCGMBKBMBHFVKCKNTPDCCV1EHCCWMBCBKHMBKCMBKCM2VCH",
  "HBCCHBC1MHGMDCBMBCCMBCHMBHBMICKNGCGHBCCHBC1GHFKBCCMBCCKBMBKBMBHHCKNbYCTHCMCKCVHCCMBHBKNHBC1I",
  "HCKFMDCCKBMBKBMNVKN3ICBHPCVPI1AEXR1ANCBVzMH3YC4HOBCFVLC7OH2tKC3THCVNC15GHQBBMGHPM4aGCmLH98BC",
  "lXHHC1FHBCKNECCV3BHBCKNGC1EHCCFMBVKC1WHHMFVE1AEGBVB1AKCKNBCHPBCVHFCTHqMC1GJ1GFXPEV3XC2XHECBM",
  "BH2DKHCEMNG2MCCGBVBGBMLCCKOC6kAHIC1bQH1QCJH9jRCEGBCHGBCCGBCbFHPCBH1DCDHCCBHOCEHICfGH2gUC4DHF",
  "CNHDCJHHCKHCCB1ACMBVEB50UC1UMCCXMJC4M1A2IC9M1AKC1N1ACC2I1ACKDMD1AGKIBIMC1AHM1E1AEM2J1AVC2O1A",
  "DMB1A4SCUPMCUPMC3J1AJCZP5FC1AJ1AF1AJHFBCSF1AJ1AFBJBCCJCCBJCCCJCCEJBCIJEFBCBFBCHFBCLF1AJ1AFCJ",
  "BCEJCCIJBCHJBC1AFCJBCEJBCFJBCBJDCHJBC1AF1AJ1AF1AJ1AF1AJ1AF1AJ1AF1AJ1AF1AJ1CFCCZJBZZFBZGFZJBZ",
  "ZFBZGFZJBZZFBZGFZJBZZFBZGFZJBZZFBZGFBJBFCC1YNjS1A2DME1A1YMI1ABMO1ABMC1AFVPCFMBCPM16MCKFBHUFG",
  "CGF8FCHMBCRMCCHMBCCMBCFMFC2KG1HCBM4IC1THDCHMHGCCKNECBHB1AcIC1EHBMRC1SHEMKNFCBXhWC1BHBGEMKNsO",
  "CHHBCEHBCCHBCPHBC7PHCCJPHM1PC1IJ1IFHMBGECKNECCVuFC2HPB1ADPBXEP2YC1TPB1APP7MCEHBC1BHBCCHBCBHC",
  "CBHBCKHBCEHBCBHBCBHGCBHECBHBCBHBCBHBCDHBCCHBCBHCCBHBCBHBCBHBCBHBCBHBCCHBCBHCCEHBCHHBCEHBCEHB",
  "CBHBCKHBCRHFCDHBCFHBCRH2ACCZaKC1S1AEC3W1AMCP1ACCP1ABCP1ABC1L1AKCNP6F1A2EC1D1ANC1S1AECJ1AHCC1",
  "AOCG1A5YC9R1AFYsA1AECR1ADCN1ADC4P1AEC3R1AGCM1AECB1APCM1AEC2E1AICK1AGC1O1AIC1E1ACCC1A3ACdC1AM",
  "CO1ACCN1ADCJ1AHC1U1ABCH1AICO1AECJ1AHCJ1AHC5R1ABC2D1A1LCKN13QC19nCH1GC4fUHGC8OHCC65QHOC7zLH3b",
  "JCkWH1lYC59ZHFC4hGHl4fLCBB1EC3SB4YC9GM1xhOC1y0ODCC1y0ODCC"]

def table : StepMap Nat := numberMap packed

def shortName (category : Nat) : String := (names[category]?.map Prod.fst).getD "Cn"

/-- The category of a code point, by its short name. -/
def ofCode (n : Nat) : String := shortName ((table.get? n).getD 2)

/-- The group of categories that begin with the given letter has a name of its own. -/
def groupNames : List (String × List String) :=
  [("C", ["other"]), ("L", ["letter"]), ("M", ["mark", "combiningmark"]), ("N", ["number"]),
    ("P", ["punctuation", "punct"]), ("S", ["symbol"]), ("Z", ["separator"])]

def casedLetters : List String := ["Lu", "Ll", "Lt"]

/-- The name of an entry in lower case, or one of its other names. -/
def isNamed (name : String) (entry : String × List String) : Bool :=
  entry.1.toLower = name || entry.2.contains name

/-- The categories that a name in lower case and without separators stands for. -/
def named? (name : String) : Option (List String) :=
  if name = "lc" || name = "casedletter" then some casedLetters
  else match names.find? (isNamed name) with
    | some entry => some [entry.1]
    | none => (groupNames.find? (isNamed name)).map fun group =>
        (names.map Prod.fst).filter fun category => group.1.isPrefixOf category

def isIn (categories : List String) (n : Nat) : Bool := categories.contains (ofCode n)

end RunLog.Unicode.Category
