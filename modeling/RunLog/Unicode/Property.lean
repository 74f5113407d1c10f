import RunLog.Unicode.StepMap

namespace RunLog.Unicode.Property

/-- The names of each property in lower case and without separators, and the runs of code points
that have it. -/
def packed : List (List String × List String) := [
  (["ahex", "asciihexdigit"], [
    "1WKHG1AG"]),
  (["alpha", "alphabetic"], [
    "2N1AG1A1VBKBEBFXB1FBhQEMOFHBBB3IB1QFBCCEBBGBBDBBBUB3FB5JI6KB1MCBG1P1NOBBBCBCBBI1BEE1DLF2EB",
    "HO3YBIEIEDKDCBQ1WN3XY1HJCEBFYCTTZHLFYBGR1QKMDHG2YBQBDEPNTBICCCWBHBBDEDICCCCBBIBECBFMCKBEDB",
    "GECCWBHBCBCBCEFECCCEBHEBBRGLDBJBDBWBHBCBFDJBDBCDBPEVEEDBICCCWBHBCBFDICCCCJCECBFNBQCBGDDBED",
    "CBBBCDCDDDMEFDDBDDBGB1ONBDBXBQDIBDBDICBDCBCE1CEBIBDBXBKBFDIBDBDICGCBENDMNBDB1PCIBDBDBBFEHF",
    "WGBDBSDYBJBBCHIGBBBISCN2GFHGB1ZCBBBFBYBBBTBDCFBBGBOE1GB2LIB1KETEQB1K2P2DBBCFQ2MKEC1MBBFBC1",
    "RBcVBECHBBBEC1PBEC1HBECHBBBECPB2FBEC2P1LQQ3ICGDnWCRB1AF2XDLHULVMUMNBDBCM2ACTOBEB2P3LH1RF2S",
    "K1FBMEJX1ECFL1SE1A2C1CE2LCU1YBXCLD1X2ABPBI1Z1QCEK1SBLO2DWDK1KCJH1RCD1PEBGBCDBF7K1NOLaSCGC1",
    "MCGCIBBBBBBB1FC2BBHBBDDBHDECGENFDBH4MBNBQN3XBEBCKBBDFGBBBBBBEBLCEFFEBR1PvH2A1xU8VGEDCM1MBB",
    "FBC2EHBQXJHBHBHBHBHBHBHBHB1G1VBiBDZJHFCFE3IGDB3MBEF1RB3QR1G1WQjS71O2MnoF2P1UCaJDQKCU1VFID4",
    "J1NJC3ZC2MFCBBBFYUB1HY2AM2QBB1SGDBBDK1HF1JN1DD1ZBMPBQQKFB2DJOSXD2RBBBBYDCQCELGCGCGJHBHB1RB",
    "OG4TVbxSMXE1X91CeCC4C1MHMFFMBNBFBBBCBCB4E1HdZS2MC2C1OM4MFB5F1K1AG1AL3LDGCGCGCD1JMB1ABTBCBP",
    "CO1I4T2R2BaH1DD1X1V1GN1EF1RF1EC1KEIBF1Q6CS1KE1KE1OI2AMLBPBHBCBLBPBHBC2PbZJWKIYGB1QBJ2RGCBB",
    "1SBCDBCXKXJ1F2NTBCKWK1A2S2EGC2MEBCFIBDB1D1Q1DD1D1JIB1C1B2CKWKTNS4G2V2D1ZN1ZN1OdG1QBCDC3A1D",
    "KBIW1QS1UV1BXJ2S1RFK2FJBNZX1ZREI1JDBJ2MBEJCKBBB1JSB1ICBGE2KHBBBEBPBKH2FXEBICCCWBHBCBFDICCC",
    "CDBGBFH6A2OBDBEUD1E2OCCBB7C2CCHZG1I2LBBDB2H2CCB2T1BCOVH7D2F3Z2M1FICBCIBCB1EBCCCCE3PIC1UCGB",
    "BBC1B1ZCKR2UFBS2VaDJB1TBHBB1X1ECWBO2VHBCB1SDBBCBDBBCCYGBCB1LBCBEBBcPXJRB1PDD4HB3BzM3Y4HR7O",
    "2tK3TP15GRG4aVmL98BlXH1FR3BR1ES1WQE1FVFTqM2M4Y2XE2FHR2MCBBMCO6kAI1bQ1QJ9jREBHBCBbFPB1DDCBO",
    "EIfG2gU4DFNDJHKEB6eF3HB2TBCCBCCCEBMBBBHB2NBECIBHB1CBEBFBBDHBdCCZBZB1FBZB1FBZB1FBZB1FBZBI1y",
    "Y1FGG8FHBRCHBCBFF2K1HB4I1TKHQBcJ1ES1SiQ1CtCHBEBCBPB7P2H2QDBDB1aIEB1BBCBBCBBKBEBBBBGBEBBBBB",
    "BDBCBBCBBBBBBBBBBCBBCEBHBEBEBBBKBRFDBFBRoE1AG1AG1A3yK19nC1G4fUG8OC65QO7zL3bJkW1lY59ZF4hG"]),
  (["bidic", "bidicontrol"], [
    "1oEB73LC1AF2DE"]),
  (["bidim", "bidimirrored"], [
    "1OCSBBB1CBBB1DBBB1TBPB3ySE20NC2mQCKC2CCOC6VB7KEDGDBDCDEBEBBBBEJFBBSFEJCBBBIC1FCEFBJCCTFCJF",
    "CCEYCQIEUCHC15TO2WBCEBCBDFEFDDOfNWCGBOIBHGDBEFBCCFEBBDCCKGCCMTBECBBBCBBEFCGDYCLCEEBCCCE1RC",
    "IB1OFBBBDFFDEBDFBB9WBjVEDCBCOCCK1RIgLKCI1keRGFC6GCSBBB1CBBB1DBBBBCBC1mxNB2FB2FB2FB2FB"]),
  (["ci", "caseignorable"], [
    "1NBGBLB1JBBB2TBEBBBEBCCjJ7KECEBJCBB9RH7ZBFB1X1TBBBCBCBB1SBLGKLBB1JBKVQB3XIBKBE1HBBB1E1B3NL",
    "2GLEBCBYY1RD1SBHCGI1P2G2DBBBEIEBDHKCNBPB2GBEEIBUC1ABCC2FBECECCDDB1ECDBLC2FBEFBCEBUCWGBB2GB",
    "CBBEIBHCLC1EB2JBMB1YBDB2DBBDFDBEHCLC1DB2GBCBGBFCUC1CC2FCEEIBUC1DB2UBHDBB3MBCHLJ3UBCJJBBH2V",
    "C1BBBBBB2DOBFBCFLB1KJB3YEBGBCCCZCEDQENBCCGBPB3QBnKD10KD1DC1EC1EC2MCBHIBCLDBFB1TF1ZB2NC1IB4",
    "ODECJBGD8LCCB2GBBHBBBBCIGKCB1NBI1F1XE1WBBFBBFB1OJMC1GECCBD2EBBCDBBD2GICC2MG3EDBNBHEBGBDC1Y",
    "2LNB1I3XhDBBDLDNDNDNCMFICKBCBCF1XFBKBBNBQN1Z1H35RC4JD4VBPB3S1G1VBiBB1KEDFFB3PG3PDudUB1cCGa",
    "KB3UEBKBB1CE3CCO1I3ABXD3ZDDCIBDBEBZCFB5VC1ASNB1MIZL1UD1WBCECCRBVC2OGCCCCMBIB1JBLB1ZBBDCCFC",
    "BB1BBOCFCBB3WFJD4RBCBEBlnSB5RRmBQDBMQ1IBCB6NBHBGBLB1JBBB1VB1TC2PBVDjTB8SB5TF13PGB1QBJmKDBC",
    "FE1ODEB6JCmBEeXC3CD2SL1XE4TB2CP1PBCCKD1XECCCBEBKB1YD1KFBI2KBMC2AJKECB3RDCBBCGBCB6BBDIVC2FC",
    "DB1LHDF7NICDBBXB3GGBBECBC9EEGCBC1BC3HICBBC4CBBBCGBB3XDCEBF9ZJBC9WCBBEB5OECCEB1GK1OGCEIBJGC",
    "D1UNBCfQHBGBB3EWCHBCBC4SGDBBCBHBB2UCDBBBdJCLC2AFFBBB5qBRGPexQF2HHJE13VB2LR2MCBChiPEBHBC3gG",
    "CBE50U1UCXkYDJQCH1EE5SD24D2DE1YIBOBWFBP1gIHBRCHBCBFF2K1HB6EOeEB2JEjNF12EH4FI2xFFnfhPB1E3S4",
    "Y9G"]),
  (["cased"], [
    "2N1AG1A1VBKBEBFXB1FB7NBEE8AB1KHC1EF3SB1QECCCEBBGBBDBBBUB3FB5JI6KB1MJ1P31F1MBBFBC1RBEpW3ICG",
    "2bUJH1RCD2M7K2MaSCGC1MCGCIBBBBBBB1FC2BBHBBDDBHDECGENFDBH4MBNBQN3XBEBCKBBDFGBBBBBBEBGEBCEFF",
    "EBR1GDCvL2A1xU8VGEDCM1MBBFBx4C1US1E5C3YDEB2HFCBBBFYFBDvP1RBOG3CloIHMF13T1AG1A19T3C3S1KE1K4",
    "MLBPBHBCBLBPBHBChJBCDB1QBJ1aZ1ZN1Z36Z2MncQ2MrrK3HB2TBCCBCCCEBMBBBHB2NBECIBHB1CBEBFBBDHBdCC",
    "ZBZB1FBZB1FBZB1FBZB1FBZBI1yYKBUGGaB2K2cK2Q26A1AG1AG1A"]),
  (["cwcf", "changeswhencasefolded"], [
    "2N1A3MBKXBI1GBBBBBBBBBBBBBBBBBBBBBBBBBBBBBBBBBBBBBBBBBBBBBBBBBBBBBBBCBBBBBBBBBBBBBBBBCBBBB",
    "BBBBBBBBBBBBBBBBBBBBBBBBBBBBBBBBBBBBBBBBBCBBBBBBBCBBBCBDCEBCBDDCBCBBBBBCBBCBBCBDBBBCDBHCBC",
    "BCBBBBBBBBBBBBBBBBCBBBBBBBBBBBBBBBBBCCBBBDBBBBBBBBBBBBBBBBBBBBBBBBBBBBBBBBBBBBBBBBBBBBBBBB",
    "BBBBBBBBBBHCBCCBBEBBBBBBBB9MB1QBBBDBIBGBBDBBBCBRBJWBMDDCBBBBBBBBBBBBBBBBBBBBBBBBBCCCBBBCC1",
    "Z1WBBBBBBBBBBBBBBBBBBBBBBBBBBBBBBBBBJBBBBBBBBBBBBBBBBBBBBBBBBBBBBBBBBBBBBBBBBBBBBBBBBBBBBB",
    "BCBBBBBBBBBBBBCBBBBBBBBBBBBBBBBBBBBBBBBBBBBBBBBBBBBBBBBBBBBBBBBBBBBBBBBBBBBBBBBBBBBBBBBBBB",
    "BBBBBBBBBBBBBBBBBBBBC1M1WB31G1MBBFBvEG2bUJH1RCDcIBBBBBBBBBBBBBBBBBBBBBBBBBBBBBBBBBBBBBBBBB",
    "BBBBBBBBBBBBBBBBBBBBBBBBBBBBBBBBBBBBBBBBBBBBBBBBBBBBBBBBBBBBBBBBBBBBBBBBBBBBBBBBBBBBBBBBBB",
    "BBBBBBBBBBBBBBBBBBFCCBBBBBBBBBBBBBBBBBBBBBBBBBBBBBBBBBBBBBBBBBBBBBBBBBBBBBBBBBBBBBBBBBBBBB",
    "BBBBBBBBBBBBBBBBBBBBBBBBBBBBJIIGKIIIIGLBBBBBBBIIQ1WCDCGFDCGLEMFFDCGbLBDCGB1TQTBvM1A1yU1W1W",
    "BBDCBBBBBBEBBCBIDBBBBBBBBBBBBBBBBBBBBBBBBBBBBBBBBBBBBBBBBBBBBBBBBBBBBBBBBBBBBBBBBBBBBBBBBB",
    "BBBBBBBBBBBBBBBBBBBBBBBBBIBBBEBx6JBBBBBBBBBBBBBBBBBBBBBBBBBBBBBBBBBBBBBBBBBBBBBTBBBBBBBBBB",
    "BBBBBBBBBBBBBBBBB5FBBBBBBBBBBBBBDBBBBBBBBBBBBBBBBBBBBBBBBBBBBBBBBBBBBBBBBBBBBBBBBBBBBBBBBB",
    "BBBBKBBBBCBBBBBBBBEBBBCBBBDBBBBBBBBBBBBBBBBBBBBFBFBBBBBBBBBBBBBBBEBBGBFBBB1CByG3CloIHMF13T",
    "1A1aZ1O5G1K6ALBPBHBC1wC1Z39L1GndW1GxjK1I"]),
  (["cwcm", "changeswhencasemapped"], [
    "2N1AG1A2GBKXB1FB2MB3GBNBOCOCCBBE3PBSG1BBCBBBCDCBBBCBFCBBCCBHBCBBCDGFBKC6KB1QECCDDBBGBBDBBB",
    "UB1VD1HBFB5DI6KB1MK1N31G1MBBFBC1RCDpW3ICG2bUJH1RCD7DBDBQB4J6ACBB4OCGC1MCGCIBBBBBBB1FC2BBHB",
    "BDDBHDECGENFDBHbLBDCGB1BBR1GDCvL2A1xU4JBCBCH3YHEDCM1MBBFBx4C1US1C5EOC2KJPDDCFBZB1BFCEE1BCx",
    "CB1C3CloIHMF13T1AG1A19T3C3S1KE1K4MLBPBHBCBLBPBHBC1uP1ZN1Z36Z2MncQ2MxiE2Q"]),
  (["cwl", "changeswhenlowercased"], [
    "2N1A3XXBH1HBBBBBBBBBBBBBBBBBBBBBBBBBBBBBBBBBBBBBBBBBBBBBBBBBBBBBBBCBBBBBBBBBBBBBBBCBBBBBBB",
    "BBBBBBBBBBBBBBBBBBBBBBBBBBBBBBBBBBBBBBBCBBBBDCBBBCBDCEBCBDDCBCBBBBBCBBCBBCBDBBBCDBHCBCBCBB",
    "BBBBBBBBBBBBBBCBBBBBBBBBBBBBBBBBCCBBBDBBBBBBBBBBBBBBBBBBBBBBBBBBBBBBBBBBBBBBBBBBBBBBBBBBBB",
    "BBBBBBHCBCCBBEBBBBBBBBbDBBBDBIBGBBDBBBCBRBJ1JBIBBBBBBBBBBBBBBBBBBBBBBBFBCBBCC1Z1WBBBBBBBBB",
    "BBBBBBBBBBBBBBBBBBBBBBBBJBBBBBBBBBBBBBBBBBBBBBBBBBBBBBBBBBBBBBBBBBBBBBBBBBBBBBBCBBBBBBBBBB",
    "BBCBBBBBBBBBBBBBBBBBBBBBBBBBBBBBBBBBBBBBBBBBBBBBBBBBBBBBBBBBBBBBBBBBBBBBBBBBBBBBBBBBBBBBBB",
    "BBBBBBBBC1M33D1MBBFBrU3I2cS1RCDcIBBBBBBBBBBBBBBBBBBBBBBBBBBBBBBBBBBBBBBBBBBBBBBBBBBBBBBBBB",
    "BBBBBBBBBBBBBBBBBBBBBBBBBBBBBBBBBBBBBBBBBBBBBBBBBBBBBBBBBBBBBBBBBBBBBBBBBBBBBBBBBBBBBBBBBB",
    "BBJBBBBBBBBBBBBBBBBBBBBBBBBBBBBBBBBBBBBBBBBBBBBBBBBBBBBBBBBBBBBBBBBBBBBBBBBBBBBBBBBBBBBBBB",
    "BBBBBBBBBBJIIGKIIIIGLBBBBBBBIIYIIIIIIFLFLEMFLFbLBDCGB1TQTBvM1A1yU1W1WBBDCBBBBBBEBBCBIDBBBB",
    "BBBBBBBBBBBBBBBBBBBBBBBBBBBBBBBBBBBBBBBBBBBBBBBBBBBBBBBBBBBBBBBBBBBBBBBBBBBBBBBBBBBBBBBBBB",
    "BBBBIBBBEBx6JBBBBBBBBBBBBBBBBBBBBBBBBBBBBBBBBBBBBBBBBBBBBBTBBBBBBBBBBBBBBBBBBBBBBBBBBB5FBB",
    "BBBBBBBBBBBDBBBBBBBBBBBBBBBBBBBBBBBBBBBBBBBBBBBBBBBBBBBBBBBBBBBBBBBBBBBBBKBBBBCBBBBBBBBEBB",
    "BCBBBDBBBBBBBBBBBBBBBBBBBBFBFBBBBBBBBBBBBBBBEBBGBFBBB1CBnuH1A1aZ1O5G1K6ALBPBHBC1wC1Z39L1Gn",
    "dW1GxjK1I"]),
  (["cwt", "changeswhentitlecased"], [
    "3T1A2GB1PYBIBBBBBBBBBBBBBBBBBBBBBBBBBBBBBBBBBBBBBBBBBBBBBBBBBBBBBBBBCBBBBBBBBBBBBBBCBBBBBB",
    "BBBBBBBBBBBBBBBBBBBBBBBBBBBBBBBBBBBBBBBBCBBBBDCBBBCBDBFBCBDCDBCBBBBBCBEBCBDBBBCBDBBBEBBCBC",
    "BBBBBBBBBBBBBBBBBCBBBBBBBBBBBBBBBBBDBBBBDBBBBBBBBBBBBBBBBBBBBBBBBBBBBBBBBBBBBBBBDBBBBBBBBB",
    "BBBBBBBBIBCCBBEBBBBBBBBGBCBBBCDCBBBCBFCBBCCBHBCBBCDGFBKC6KB1RBBBDBDDSB1B1JBCDDBBBBBBBBBBBB",
    "BBBBBBBBBBBFBBCBCB2A1WBBBBBBBBBBBBBBBBBBBBBBBBBBBBBBBBBBJBBBBBBBBBBBBBBBBBBBBBBBBBBBBBBBBB",
    "BBBBBBBBBBBBBBBBBBBBCBBBBBBBBBBBBCBBBBBBBBBBBBBBBBBBBBBBBBBBBBBBBBBBBBBBBBBBBBBBBBBBBBBBBB",
    "BBBBBBBBBBBBBBBBBBBBBBBBBBBBBBBBBBBBBBBB1X1N3yEG2bUJ9GBDBQB4KBBBBBBBBBBBBBBBBBBBBBBBBBBBBB",
    "BBBBBBBBBBBBBBBBBBBBBBBBBBBBBBBBBBBBBBBBBBBBBBBBBBBBBBBBBBBBBBBBBBBBBBBBBBBBBBBBBBBBBBBBBB",
    "BBBBBBBBBBBBBBBBBBBBBBBBBBBBBHFBBBBBBBBBBBBBBBBBBBBBBBBBBBBBBBBBBBBBBBBBBBBBBBBBBBBBBBBBBB",
    "BBBBBBBBBBBBBBBBBBBBBBBBBBBBBBBBBBBJIGKIIIIGKIIIIOCIIIIIIFBCGBDDBCIECCIIKDBCdEB1HQEBwL1A1z",
    "Q1WBBDCBBBBBBGBCBKBBBBBBBBBBBBBBBBBBBBBBBBBBBBBBBBBBBBBBBBBBBBBBBBBBBBBBBBBBBBBBBBBBBBBBBB",
    "BBBBBBBBBBBBBBBBBBBBBBBBBBBIBBBEBM1MBBFBx4DBBBBBBBBBBBBBBBBBBBBBBBBBBBBBBBBBBBBBBBBBBBBBTB",
    "BBBBBBBBBBBBBBBBBBBBBBBBBB5FBBBBBBBBBBBBBDBBBBBBBBBBBBBBBBBBBBBBBBBBBBBBBBBBBBBBBBBBBBBBBB",
    "BBBBBBBBBBBBBKBBBCBBBBBBBBBEBEBBCCBBBBBBBBBBBBBBBBBBBLBBBBBBBBBBBBBBBEBBBGBFBBB1CBxCB1C3Cl",
    "oIHMF14Z1A1bH1O5G1K5ZLBPBHBC1xB1Z38F1GndW1GxjM1I"]),
  (["cwu", "changeswhenuppercased"], [
    "3T1A2GB1PYBIBBBBBBBBBBBBBBBBBBBBBBBBBBBBBBBBBBBBBBBBBBBBBBBBBBBBBBBBCBBBBBBBBBBBBBBCBBBBBB",
    "BBBBBBBBBBBBBBBBBBBBBBBBBBBBBBBBBBBBBBBBCBBBBDCBBBCBDBFBCBDCDBCBBBBBCBEBCBDBBBCBDBBBFCBCBC",
    "BBBBBBBBBBBBBBBCBBBBBBBBBBBBBBBBBCBCBBDBBBBBBBBBBBBBBBBBBBBBBBBBBBBBBBBBBBBBBBDBBBBBBBBBBB",
    "BBBBBBIBCCBBEBBBBBBBBGBCBBBCDCBBBCBFCBBCCBHBCBBCDGFBKC6KB1RBBBDBDDSB1B1JBCDDBBBBBBBBBBBBBB",
    "BBBBBBBBBFBBCBCB2A1WBBBBBBBBBBBBBBBBBBBBBBBBBBBBBBBBBBJBBBBBBBBBBBBBBBBBBBBBBBBBBBBBBBBBBB",
    "BBBBBBBBBBBBBBBBBBCBBBBBBBBBBBBCBBBBBBBBBBBBBBBBBBBBBBBBBBBBBBBBBBBBBBBBBBBBBBBBBBBBBBBBBB",
    "BBBBBBBBBBBBBBBBBBBBBBBBBBBBBBBBBBBBBB1X1N33C1RCDtGG2bUJ9GBDBQB4KBBBBBBBBBBBBBBBBBBBBBBBBB",
    "BBBBBBBBBBBBBBBBBBBBBBBBBBBBBBBBBBBBBBBBBBBBBBBBBBBBBBBBBBBBBBBBBBBBBBBBBBBBBBBBBBBBBBBBBB",
    "BBBBBBBBBBBBBBBBBBBBBBBBBBBBBBBBBHFBBBBBBBBBBBBBBBBBBBBBBBBBBBBBBBBBBBBBBBBBBBBBBBBBBBBBBB",
    "BBBBBBBBBBBBBBBBBBBBBBBBBBBBBBBBBBBBBBBJIGKIIIIGKIIIIOC2BBCEBBBDDBCEBDECCIIKDBCEBcZB1HQEBw",
    "L1A1zQ1WBBDCBBBBBBGBCBKBBBBBBBBBBBBBBBBBBBBBBBBBBBBBBBBBBBBBBBBBBBBBBBBBBBBBBBBBBBBBBBBBBB",
    "BBBBBBBBBBBBBBBBBBBBBBBBBBBBBBBBIBBBEBM1MBBFBx4DBBBBBBBBBBBBBBBBBBBBBBBBBBBBBBBBBBBBBBBBBB",
    "BBBTBBBBBBBBBBBBBBBBBBBBBBBBBBB5FBBBBBBBBBBBBBDBBBBBBBBBBBBBBBBBBBBBBBBBBBBBBBBBBBBBBBBBBB",
    "BBBBBBBBBBBBBBBBBBKBBBCBBBBBBBBBEBEBBCCBBBBBBBBBBBBBBBBBBBLBBBBBBBBBBBBBBBEBBBGBFBBB1CBxCB",
    "1C3CloIHMF14Z1A1bH1O5G1K5ZLBPBHBC1xB1Z38F1GndW1GxjM1I"]),
  (["dash"], [
    "1TB1gUB1ZB3wJB13PB27DG2JB1NBPBfAB3aIBCB1FCEB1CBhEBTB4HB1k8AC1LBKB6NB49VB"]),
  (["di", "defaultignorablecodepoint"], [
    "6RBpXBrOB32WC1qHC3HF26PF1AF1XQ4mYB1jyPQ9FB6EB3BJ1flNE5oXInoxL4dO"]),
  (["dep", "deprecated"], [
    "cRB1eVB2gTBBB28JC2eJGqVCqymKB"]),
  (["dia", "diacritic"], [
    "3QBBB2TBGBEBCCjJ6DBIFGRCEBJC9TF8BB2DRB1BBBBCBB5EIEC5ECECDD2P1B3NL2GL1IC4WI1PKQ1C2JBQBDE1CB",
    "2WBQB4GBQB4GBQB1VD2IBQBHB4PB4GBQB4GBQB4FCQB4UB4UGBB4DBNF2XC1BBBBBBEC2ODBC2KB4IBBC1OCEFZHBB",
    "KCrDD10MC6XLJBdJDcBICB1WPCL4ABPB1MJ2CC5IC2MG3EZEBGBCD1Y2L3LM1LLhDBBDLDNDNDNC3jKDcFBjMG4BE3",
    "RBw4KBMCBB1CC3ECO1I3YD4FC7UB1BS2FE1KB3RBMB1KB5TD2NE1ZB3WFJD4YClnSBtPQaKBBB1VB1TC2PBtKB19NG",
    "B1QBJvEClZGiBD2SL1XE7KB1PB2UC4QC2KB2YBJD4AC6WC3DBQBYHDF7XBDB4TC9RC4WB4OC4LBaJC9YCEB6AB3FBS",
    "B3DBgFB9YBBC3DB67JPexQF2HH16UR3CChiCEBHBC8hH1UCXkYDDGIICH1EE3yW2K7MHeLB2JE1lWH4FDBD"]),
  (["emoji"], [
    "1JBGBFK4HBEB8mRBMB8IBWB3MGPCeDCMB6KBZLED7RB8XCKBJB2GEBFJBCBCCCBEBCBBCCBDBDCIDFBBBFMLCCBBCB",
    "BSBCCSGBBBCDCFBCCECLCFCCBFCBBBCUCFGBECBEBCBCGBBCBBBBBGBDBGBKCPBCBEBBBEDBBLC1WDJBOBOBeIChVD",
    "TC1ZBEB1bUBMBnDBBB3dtQB7UB6ECMCOBCK2X1ABCXBUBCJVC6S1IC4ICCBDC3FCDBaDB2LLGBYHCCIMBCECBECNCC",
    "BICJBFDMDIDCBBBEBGBDBG3I1W2SFICDEKDBBCDBCK8TMEBaX1VBKB7D4INDJH1UBHIOEJHJ"]),
  (["ecomp", "emojicomponent"], [
    "1JBGBFK8pJB8FB1ohRB1uoW1AjNF1kAEndyQ3S"]),
  (["emod", "emojimodifier"], [
    "3sqXF"]),
  (["ebase", "emojimodifierbase"], [
    "afHB8LBQE3hxVB2IDCBCD4NCCLVTDBEDBDHBBBYB7TCEBVBEC6SDDF3FBQDJBLBmDBCBIIGBJKCD2EB2JCBCBBRDBN",
    "8VD1QJ"]),
  (["epres", "emojipresentation"], [
    "9lQC7XEDBCBkBCVC1YM1RBTBNBICRCFCIBFBVBHCBBEBCBHBEC1CB1JBBBEDBB2JDYBOBxBC1ZBEB3ftEB7UB7IBCK",
    "2X1ABBYBUBCFBDVC6S1HMJB2SBWM1REFMRDBD2TBBB7FC2LNEBYSB1ACNB3I3H1W2SGBDDCDEELCHJ8TMEBaX1VBKB",
    "7D4INDJH1UBHIOEJHJ"]),
  (["extpict", "extendedpictographic"], [
    "6NBEB8mRBMB8IBWB3MGPCeDCMB3RB2SBZLED7RB8XCKBJB2GEBGBMB4KK4OCLBBBBGBDBGBKCPBCBEBBBEDBBLF1TD",
    "JBOBOBeIChVDTC1ZBEB1bUBMBnDBBB3dtM9WND1FB2IGMCOBCKS2F1BPKBUBCJBEJgSFcGIaG1W4Y4MM3H1RME2EIK",
    "G1OI1E3EM1VBKBgZ9W13I"]),
  (["ext", "extender"], [
    "7BBkQCxUBgZBxABsYB4XB2jFB2EBnNBfIB2QB5cJB1RF3ZC3PDudUB1mSB11ABWB5HB4EBVCn3VB27KC38SBnSD1bJ",
    "Bm2FC19KCBBv0AC27AD"]),
  (["grbase", "graphemebase"], [
    "1G3R1HNBmW4IICGEHBBBUB8QH6KB1MC1YCD1UBBBCBCBJ1BEGRKLBB1UVQB3XIBGCCBE1GCBB1E1D3LLBO1RJHDYEB",
    "JBDBHPBZFBBLF1FR1Q2F2DBBBEIEBDHKC1DBCBICCCWBHBBDEDBBCGCCCBBNCBDEYFBBGECCWBHBCBCBCEDYEBBHKC",
    "DBBMBBJBDBWBHBCBFDEIBBCDBPCEMHBICBICCCWBHBCBFDBCBGCCCPCBDESLBBGDDBEDCBBBCDCDDDMFBBCDDBDDBV",
    "VGDBIBDBXBQDBDETDCBCCEKHKBLBDBXBKBFDCBCBCCCBCRCBCEKBDOLBDB1PCBBCFDBDBCEDBKE1ACCBSDYBJBBCHJ",
    "CGHHKCDM1WBCLIIN1LCBBBFBYBBBKBCJBCFBBJKCE1GYC1BBBBBBOB1KSBFBCF1XIBGBN1L1TEBGBCCCZCEDQENBCC",
    "GBPB1OBBFBCeNBECHBBBEC1PBEC1HBECHBBBECPB2FBEC2PF1DD1AG3ICGCpTD3LHSDBJTCDJSONBDP2ACBHIBCLJD",
    "KGKGLFKG3LHFC1IBBF2SK1FEECDECBGHBD1QCFL1SE1AGLD2FCCD2EBBJBBCIGNKGKGO3I1WHBBFBKD1BJLD1GECCB",
    "D2EBBCDBBDCI1WICFPD2IH1RCLLBNBHEBGBDCBF7K2MaSCGC1MCGCIBBBBBBB1FC2BBPBOCGBTCDBJBLFYH1XQCC1B",
    "BND1H2L5KEpNZLV1xSC1GBdGDCF1TBBFBC2EHCPXJHBHBHBHBHBHBHBH1H3Q1I1AB3LM8G1AME1QGQB3IE3XF1RB3Q",
    "B3GM1VBvaRD2DJdKU1VEBK1GC3CCGI7VFCBBBFYQBDBEBZCFEKG2EI2QKMYNB1MIZLCL1EG1WBCECCQBLEHBZB1PGC",
    "CCLDBIBBCKC1GB1ZBBDCCFCBBBYRCILGCGCGJHBHB2IE4NBCBEDKGbxSMXE1X91CeCC4C1MHMFFBBYBFBBBCBCB4VQ",
    "hDC2CHB1GQQKW1JBTBEEFB5FE6BC1FDGCGCGCDDHBHNCCMB1ABTBCBPCO1I4TFDE1TD3KBNDB1V1T5B1DD1XQ1BE1K",
    "J1EF1MK1EB1LEO1Q6CCKG1KE1KE1OI2ALMBPBHBCBLBPBHBC2PbZJWKIYGB1QBJ2RGCBB1SBCDBCXB2UIJ1WTBCF1H",
    "D1BFB2M2EEUC1VPEBDB1DKJHJH2M1G1LGMJ2CD1DC1BF1AHEMH3C2V2D1ZN1ZH1QMKbI1FB1QDBCC3A1OIWLJWSEE1",
    "M1CUXJBB2CPHE1EBCCBM1XECCCBEOZHKJ1KFBJSI1JBDL2AJKECBQBULSB1CDCBBCGBC2LHBBBEBPBLG1VBDNKICBI",
    "CCCWBHBCBFDBBBBECCCDCBMH6A2EICDBBVBBBD1E1WBCGBBCBBCBCEIK6K1VBCGECBC1B1K1ZICBBCELKGNT1RBBBC",
    "GBBCGK2C1BFCEBJX7D1VJBCB3W3FMICBCIBCBYBFBCEBBEBDJK2SIC1QIEBE1BBK1OGCEIJBGCD1UNBCJN2VHK9MJB",
    "1MOBBGK1DD1GZBHBCB2XHBCB1MVBJKGGBCB1LECBBBBHKbYTCEJPB1KICBBBX3IBP1YNzN3Y4HBFL7O2tK3VN15GRG",
    "4aVmL98BlXH1FBKE3DBKG1EHBK1WHPKKBHBVFTqM3N3X2XF2ELN2MEMCO6kAI1bQ1QJ9jREBHBCBbFPB1DDCBOEIfG",
    "2gU4DFNDJHKCBCB54A4M2I9MK1NC2IBBDEVCH1EE2JV2ODB4SUMUM3JJZ5F3HB2TBCCBCCCEBMBBBHB2NBECIBHB1C",
    "BEBFBBDHBdCCbGClQ2DE1YIBOBH17W1FGGaB2K5Q1TKHCKECcI1ES1SEKFBhW1CEKsOHBEBCBPB7PCJ1W2QHBEKECu",
    "F2Q2Y2J7MEB1BBCBBCBBKBEBBBBGBEBBBBBBDBCBBCBBBBBBBBBBCBBCEBHBEBEBBBKBRFDBFBR2ACaK1SE3WMPCPB",
    "PB1LK6S2E1DN1SEJHCOG5Y11WERDND4PE3RGMEBPME2EIKG1OI1ECC3AdCMOCNDJH1UBHIOEJHJH5RB2D1LK13Q19n",
    "C1G4fUG8OC65QO7zL3bJkW1lY59ZF4hG"]),
  (["grext", "graphemeextend"], [
    "tO4IaPHaD1TBBBCBCBB2UL1WVQB3XHCGCCBE1JB1E1B3NL2GJJBYEBJBDBF1RD2II1QYB1G2DBBBEIEBDHKC1DB2GB",
    "BBCEIBJBKC1ABCC2FBECECCDDB1ECDBLC2FBEFBCEBUCWGBB2GBBCBEIBHDKC1EB2HBBBMBJB1OBDB2DBBDFDBEHCL",
    "C1DB2GBCBCBDBFCHCLC1CC2FCBBCEIBJBKC1DB2UBEBCDBBIB3DBCHMI3UBCJLH2VC1BBBBBB2DOBFBCFLB1KJB3YE",
    "BGBCCCZCEDQENBCCGBPBrBD10KD1DC1EC1EC2MCBHIBCLJB1TDBB4NC1IB4ODECJBGD8LCCB2GBBHBBBBCIGKCB1W1",
    "F1XE1WHBBFB1OJMC1GECCBD2EBBCDBBD2GICC5WDBNBHEBGBDC7Q2MkEB7N1H3aCD5LB3S1GlIG4BCw8EEBK1GC3CC",
    "aMBDBEBZCFB5VC1ASNB1MIZL1UD1WBCECC1NB2PGCCCCMBIB1VB1ZBBDCCFCBB1QCIB9EBCBEBlnSBsJQQQeCCnHB8",
    "SB5TF1sGDBCFE1ODEB6JCmBEeXC3CD2SL1XE4TB2CP1PBCCKD1XECCHB2JD1KFBI2KBMC2AJKECB3RDCBBCGBCB6BB",
    "DIVC2FCBBBBWBOHDF7NICDBBXB3DBCGBBCBBCBC9BBCEGCBC1BC3HICBBC4CBBBCGBB3XDCEBF9ZJBC9LBKCBBEB5O",
    "ECCEB1GK1OGCEIBJGCD1UNBCfQHBGBB3EWCHBCBC4SGDBBCBHBB2UCDBBBdJCLC2AFFBBB5qRBGPexQF2HH14IB2LE",
    "3DBkzKC50Z1UCXkWBBDEFIICH1EE5SD24D2DE1YIBOBWFBP1gIHBRCHBCBF3WB6EHeLB2JEjOE12EH4FHnigF3S4Y9",
    "G"]),
  (["hex", "hexdigit"], [
    "1WKHG1AG1xnLKHG1AG"]),
  (["hyphen"], [
    "1TB4XB1bWB51ZB27DC3uBBsLB1k6LB6NB3JB"]),
  (["idsb", "idsbinaryoperator"], [
    "d4ACCI"]),
  (["idst", "idstrinaryoperator"], [
    "d4CC"]),
  (["idc", "idcontinue"], [
    "1WKH1AEBB1A1VBKBBBCBFXB1FBhQEMOFHBBBR4NBCCEBBGFBBBUB3FB5JBFC6KB1MCBG1PI1TBBBCBCBBI1BEE1DLF",
    "2WE3YBICKBTCBQ2HC3XO2CEBCBC1US1CELFYBGJ2WB4ZCKBTBICCCWBHBBDECJCCCEIBECBFCMKBBBCDBGECCWBHBC",
    "BCBCCBBFECCDDBHEBBHQLDBJBDBWBHBCBFCKBDBDCBPECKJHBDBICCCWBHBCBFCJCCCDHDECBFCKBBQCBGDDBEDCBB",
    "BCDCDDDMEFDDBECBGBOKQNBDBXBQCJBDBEHCBDCBCECKQEBIBDBXBKBFCJBDBEHCGCBECKBDMNBDB1ZBDBFFEHFCKK",
    "GBDBSDYBJBBCHDBEGBBBIGKCCN2GFPBK1NCBBBFBYBBBXCFBBBHBKCE1GBXCGKLBBBBBEKB1KEUBSB1KJB2F2WG3AC",
    "1MBBFBC1RBcVBECHBBBEC1PBEC1HBECHBBBECPB2FBEC2PCDJJOQQ3ICGDnWCRB1AF2XDLHWJWLUMNBDBCM3GDBECC",
    "K1HDBLG3LH1RF2SK1FBMEMK1OCFL1SE1AGL1L1CE2LB1DCLGKNBIOBQ1X2ZDKRJM4MM2EIKD1XCJH1RCDQDB1NFkOC",
    "GC1MCGCIBBBBBBB1FC2BBHBBDDBHDECGENFDBH2OCTB1CBNBQN1ZNEBDMRBEBCKBBCGGBBBBBBQCEFFEBR1P2vB8VG",
    "JM1MBBFBC2EHBPYJHBHBHBHBHBHBHBHB1GjXDZPBFCFE3ICHB3MBEF1RB3QR1G1WQjS71O2MnoF2P1UCaJD1CU1WEK",
    "B4L1LJC3ZC2MFCBBBFY2CEBT2AM2SKKGYDBB1XC1KM1DD2NOLG1FB2DJOCKGXD2VYDCQCFKGCGCGJHBHB1RBOG4TBC",
    "CKGbxSMXE1X91CeCC4C1MHMFFMBNBFBBBCBCB4E1HdZS2MC2C1OMEQQQDCYD1GFB5FTKH1AEBB1AL3LDGCGCGCD1JM",
    "B1ABTBCBPCO1I4T2R2B5GB5A1DD1XPB1F1GN1EF1RF1EC1KEIBF1Q6CCKG1KE1KE1OI2AMLBPBHBCBLBPBHBC2PbZJ",
    "WKIYGB1QBJ2RGCBB1SBCDBCXKXJ1F2NTBCKWK1A2S2EGC2MEBCFIBDB1DCDEB1G1DD1D1JIB1EZ2CKWKTNS4G2V2D1",
    "ZN1ZN1OIKcO1QBCDC2X1GKBI1H1FW1QV1BXJ2T1FQJ2IHBNZHKG2BBKEEI1KCBJ2REEBNBB1JSB1LGE2KHBBBEBPBK",
    "H2HFKGEBICCCWBHBCBFBKCCCDCBGBFHCHDF5J2XFKEE1E2SBBIK6K2CCJXG1I2NDBLK1M2FHK2C1BCPEKGH7D2H3X2",
    "WVICBCIBCB1EBCCJMK2SIC1UCIBC1B2LIBI2WDBS2VaDJB1TBJPKY1ECWBO2VHBCB1SDBBCBJIKGGBCB1LBCBGHKbY",
    "XJRB1PDFNK3IB3BzM3Y4HR7O2tK3TP15GQW4aGmL98BlXH1FBKG3BBKG1ECFL2DJEMKJVFTqM2M4Y2XE2FHR2MCBCL",
    "CO6kAI1bQ1QJ9jREBHBCBbFPB1DDCBOEIfG2gU4DFNDJHKDC50Z1UCXkWFDGIICH1EE5SDhB3HB2TBCCBCCCEBMBBB",
    "HB2NBECIBHB1CBEBFBBDHBdCCZBZB1FBZB1FBZB1FBZB1FBZBIC1YjS2DE1YIBOBWFBP16M1FGG8FHBRCHBCBFF2K1",
    "HB4I1TDOCKEBcJ1FR2GiC1QsOHBEBCBPB7PLH1P2YEK19UEB1BBCBBCBBKBEBBBBGBEBBBBBBDBCBBCBBBBBBBBBBC",
    "BBCEBHBEBEBBBKBRFDBFBR3mAK13Q19nC1G4fUG8OC65QO7zL3bJkW1lY59ZF4hGl4pG9G"]),
  (["ids", "idstart"], [
    "2N1AG1A1VBKBEBFXB1FBhQEMOFHBBB4ZFBCCEBBGBBDBBBUB3FB5JI6KB1MCBG1P2T1BEE1T1R1JCB3VBBPCHCKDCB",
    "QBB1E1D3LLBY1HJCEBFWEBJBDBXZHLFYBGR1Q2G2CDBSBHKPQEICCCWBHBBDEDBQBNCBDOCKBIGECCWBHBCBCBC1FE",
    "BBTDQJBDBWBHBCBFDBSBPCXBLICCCWBHBCBFDB1ECBDPBRBBGDDBEDCBBBCDCDDDMWB2AIBDBXBQDB1ADCBCC1EBEI",
    "BDBXBKBFDB1FCBCPCRJBDB1PCBQBFDIDYGFSDYBJBBCH2G1WBCMH2GCBBBFBYBBBKBCJBCFBBVE1GB2LIB1K1BF4L1",
    "RUBQGEEDBDCHDENMBR1MBBFBC1RBcVBECHBBBEC1PBEC1HBECHBBBECPB2FBEC2P1LQQ3ICGDnWCRB1AF2XDLHSNTO",
    "SONBDP2A1JBEB2P3LH1PBBF2SK1F1X1ECFL1SE1A2CXJ2B3EB3P1VRI2C1ENCK1S1A1K1PDK1KCJH1RCD1PEBGBCDB",
    "F7K2MaSCGC1MCGCIBBBBBBB1FC2BBHBBDDBHDECGENFDBH4MBNBQN3XBEBCKBBCGGBBBBBBQCEFFEBR1P2vB8VGEDC",
    "M1MBBFBC2EHBQXJHBHBHBHBHBHBHBHlEDZJHFCFE3IEFB3MBEF1RB3QR1G1WQjS71O2MnoF2P1UCaJDQKCU1VQ1FC3",
    "C1NJC3ZC2MFCBBBFYQBDBEBX1D2AO1Y2KGDBBCL1CKXZ1DH1V1CBQFBKKFB1PXDBIUXDBD1YBBDCCFCBBBYDCLHDMG",
    "CGCGJHBHB1RBOG4L1DbxSMXE1X91CeCC4C1MHMFFBBKBNBFBBBCBCB4E1HdZS2MC2C1OM4MFB5F1K1AG1AL3LDGCGC",
    "GCD1JMB1ABTBCBPCO1I4T2R2BaH1DD1X1V1GN1EF1MK1EC1KEIBF1Q6CS1KE1KE1OI2AMLBPBHBCBLBPBHBC2PbZJW",
    "KIYGB1QBJ2RGCBB1SBCDBCXKXJ1F2NTBCKWK1A2S2EGC2MBPEBDB1D1Q1DD1D1JIB1C1B2CKWKTNS4G2V2D1ZN1ZN1",
    "KdK1QGC3A1DKBIW1QS1UV1BXM2B2FCCBN1T1GZ1A1K1DBCBI1JDBM1WOEVBBB1JSBZTC2LHBBBEBPBKH1V1MICCCWB",
    "HBCBFDBSBMF6C2BSEUD1E1WUCBB7C1V1PE1K1WUB2H1RNB2T1B1LH7D1S4M2M1FICBCIBCBYPBBB3QIC1NQBBB1CBK",
    "1OHBVBL1UTBS2VaDJB1LRB1X1E4IHBCB1MVBZGBCB1GOBcPTPBBNB1I4UB3BzM3Y4HR7O2tK3TP15GRG4aVmL98BlX",
    "H1FR3BR1ES1WQE1FVFTqM2M4Y2XFB2ON2MCBB1C6kAI1bQ1QJ9jREBHBCBbFPB1DDCBOEIfG2gU4DFNDJHK6eK3HB2",
    "TBCCBCCCEBMBBBHB2NBECIBHB1CBEBFBBDHBdCCZBZB1FBZB1FBZB1FBZB1FBZBI1yY1FGGaB2K5Q1TKHQBcJ1ES1S",
    "iQ1CtCHBEBCBPB7P2H2QHB1aIEB1BBCBBCBBKBEBBBBGBEBBBBBBDBCBBCBBBBBBBBBBCBBCEBHBEBEBBBKBRFDBFB",
    "R4qA19nC1G4fUG8OC65QO7zL3bJkW1lY59ZF4hG"]),
  (["ideo", "ideographic"], [
    "d4WCZJOD11D71O2MmfKocIeCC4Cw0KB1B6kAI1bQ1QJ9yLfGl2I19nC1G4fUG8OC65QO7zL3bJkW1lY59ZF4hG"]),
  (["joinc", "joincontrol"], [
    "8rOC"]),
  (["loe", "logicalorderexception"], [
    "3wIF4TF2zSDCB13nMCCBBC"]),
  (["lower", "lowercase"], [
    "3T1A1VBKBEB1KYBIBBBBBBBBBBBBBBBBBBBBBBBBBBBBBBBBBBBBBBBBBBBBBBBBBBBBBBBCBBBBBBBBBBBBBBBCBB",
    "BBBBBBBBBBBBBBBBBBBBBBBBBBBBBBBBBBBBBBBBBBBBCBBBBDCBBBCBDCEBCBDDCBCBBBBBCBBCBBCBDBBBCCCDGB",
    "CBCBBBBBBBBBBBBBBBBCBBBBBBBBBBBBBBBBBCCBBBDBBBBBBBBBBBBBBBBBBBBBBBBBBBBBBBBBBBBBBBBBBBBBBB",
    "BBBBBBBBBBBHCBCCBBEBBBBBBBB2RB1KHC1EF3SB1RBBBDBCESB1B1JBCDDBBBBBBBBBBBBBBBBBBBBBBBFBBCBCC1",
    "Z1WBBBBBBBBBBBBBBBBBBBBBBBBBBBBBBBBBBJBBBBBBBBBBBBBBBBBBBBBBBBBBBBBBBBBBBBBBBBBBBBBBBBBBBB",
    "BCBBBBBBBBBBBBCBBBBBBBBBBBBBBBBBBBBBBBBBBBBBBBBBBBBBBBBBBBBBBBBBBBBBBBBBBBBBBBBBBBBBBBBBBB",
    "BBBBBBBBBBBBBBBBBBBBB1W1P33B1RBEtGG2bUJ4P7K2NBBBBBBBBBBBBBBBBBBBBBBBBBBBBBBBBBBBBBBBBBBBBB",
    "BBBBBBBBBBBBBBBBBBBBBBBBBBBBBBBBBBBBBBBBBBBBBBBBBBBBBBBBBBBBBBBBBBBBBBBBBBBBBBBBBBBBBBBBBB",
    "BBBBBBBBBBBBBJBBBBBBBBBBBBBBBBBBBBBBBBBBBBBBBBBBBBBBBBBBBBBBBBBBBBBBBBBBBBBBBBBBBBBBBBBBBB",
    "BBBBBBBBBBBBBBBBBBBBBJIGKIIIIGKIIIIOCIIIIIIFBCGBDDBCIECCIIKDBC4RBNBQN4FBDCDB1BBEBEBCCIEEB1",
    "HQEBwL1A1zQ1WBBDCBBBBBBEBBCBIDBBBBBBBBBBBBBBBBBBBBBBBBBBBBBBBBBBBBBBBBBBBBBBBBBBBBBBBBBBBB",
    "BBBBBBBBBBBBBBBBBBBBBBBBBBBBBBBBBBBBBBCHBBBEBM1MBBFBx4DBBBBBBBBBBBBBBBBBBBBBBBBBBBBBBBBBBB",
    "BBBBBBBBBBTBBBBBBBBBBBBBBBBBBBBBBBBBBD5DBBBBBBBBBBBBDBBBBBBBBBBBBBBBBBBBBBBBBBBBBBBBBBBBBB",
    "BBBBBBBBBBBBBBBBBBBBBBBBKBBBBCBBBBBBBBBEBBBCBBDBBBBBBBBBBBBBBBBBBBBFBFBBBBBBBBBBBBBBBEBBBG",
    "BBBBBBBBBYDBBBDvP1RBOG3CloIHMF14Z1A1bH1O5G1K5ZLBPBHBChJBCDB1QBJ1dL1Z38F1GndW1GrsK1A1AHBS1A",
    "1A1AEBBBHBL1A1A1A1A1A1A1A1A1A1A1A1A1A1A1A1A1A1C1CZBG1AZBG1AZBG1AZBG1AZBGBB1yYKBUGGaB2K2dS1",
    "I"]),
  (["math"], [
    "1RBQD1FB1DBBB1TBEB1LB1FBsADCB1ACCDkHD74NB1BDLBDBNBOEVFLF2NNEBDCEFSBEBCKBBCGGBDCCCBDBGDOBB2",
    "QYBGBCECE1GBBGCOaIIEUC3MB1E1BBBYBLHhDCMKEGECCCDFOBBBCGLIFC2FBBB1DEJDcY2M9WjS1WVCG1kuQBvRGB",
    "B6GBQD1DBBB1DBBB5BBGE1m0D3HB2TBCCBCCCEBMBBBHB2NBECIBHB1CBEBFBBDHBdCCbGC1Y60QEB1BBCBBCBBKBE",
    "BBBBGBEBBBBBBDBCBBCBBBBBBBBBBCBBCEBHBEBEBBBKBRFDBFBR2AC"]),
  (["nchar", "noncharactercodepoint"], [
    "1xfC1GkGC1y0OC1y0OC1y0OC1y0OC1y0OC1y0OC1y0OC1y0OC1y0OC1y0OC1y0OC1y0OC1y0OC1y0OC1y0OC1y0O"]),
  (["patsyn", "patternsyntax"], [
    "1HPKH1AEBB1AE1IHBBBCBBBCEBEBDBXB1FB8iEYIPCTBKbTrS6EoG1E17OjS4YeVDEZPB1k2ZCaBC"]),
  (["patws", "patternwhitespace"], [
    "JFSB3WB8mMCYC"]),
  (["pcm", "prependedconcatenationmark"], [
    "1nCG8HB1XBeUC3CB205YBPB"]),
  (["qmark", "quotationmark"], [
    "1IBEB5BBPB8kUIZC3uDBhPEND1kdPE7HBEB3MC"]),
  (["radical"], [
    "cpW1AB3LM8G"]),
  (["ri", "regionalindicator"], [
    "3s6K1A"]),
  (["sterm", "sentenceterminal"], [
    "1HBMBQB1gBB5RD6YB1RD9MB2JBBBDCbHC1vWCuKBECtTB7QC7WBFBcCCdQE6SCCC1DC7GC2NC10UCJD3sUBNBWCgNB",
    "vzWBaKC8TBDBeSC3IC3RB5WC5RD5OC9PBmjIBDC6NBMBQB2NB2zWC1dDF1SE7HC4NE4XD4ZCGBQC3KCBC4EBgBCeJC",
    "FP4BC9PDjXBBB9RC3JCgECqQC2WCkkBC5DB2NCLBwTBlcGB86MB"]),
  (["sd", "softdotted"], [
    "4BC7OBaVB1EB2ABUBcIB3UBBB6uNB1ZBNBDB5CB6BBgFB8GC32GB37vHC1YC1YC1YC1YC1YC1YC1YC1YC1YC1YC1YC",
    "1YC2bYBbTC1AB"]),
  (["term", "terminalpunctuation"], [
    "1HBKBBBLCDBvYBIBjTB2FB2UBOBBD6YB1RLBB9BC2CP1FBaBC1cUC6QBEGbZCuJItTB4UD2TC6BDDB1NECCcCCdQE6",
    "SCBD1DC7GF2KC10UCJD3sUBNBEBKBBCDCgMCvzVCaJD8TFeSC3IC3RB5VD5RD4XBQC9PBmjGDBE6NBKBBBLCDB2NBC",
    "B15QB1WB18OB7RBbYC5WG2QG3LE10QF1SE7HH4IE4XD4ZCGBQC3KF4EBgBDMCdUEDP4BC9PDjXBBB9RC3JCECfYD1T",
    "BoVC2WC1eXFj4ZC5DB2NDKBwSClcGB86LE"]),
  (["uideo", "unifiedideograph"], [
    "e8A71O2MmfKomSCBBBCKBBBBCCD1zmC19nC1G4fUG8OC65QO7zL5iD59ZF4hG"]),
  (["upper", "uppercase"], [
    "2N1A3XXBH1HBBBBBBBBBBBBBBBBBBBBBBBBBBBBBBBBBBBBBBBBBBBBBBBBBBBBBBBCBBBBBBBBBBBBBBBCBBBBBBB",
    "BBBBBBBBBBBBBBBBBBBBBBBBBBBBBBBBBBBBBBBCBBBBDCBBBCBDCEBCBDDCBCBBBBBCBBCBBCBDBBBCDBHBCBCBCB",
    "BBBBBBBBBBBBBBCBBBBBBBBBBBBBBBBBCBCBBDBBBBBBBBBBBBBBBBBBBBBBBBBBBBBBBBBBBBBBBBBBBBBBBBBBBB",
    "BBBBBBHCBCCBBEBBBBBBBBbDBBBDBIBGBBDBBBCBRBJ1JBCDDBBBBBBBBBBBBBBBBBBBBBBBFBCBBCC1Z1WBBBBBBB",
    "BBBBBBBBBBBBBBBBBBBBBBBBBBJBBBBBBBBBBBBBBBBBBBBBBBBBBBBBBBBBBBBBBBBBBBBBBBBBBBBBBCBBBBBBBB",
    "BBBBCBBBBBBBBBBBBBBBBBBBBBBBBBBBBBBBBBBBBBBBBBBBBBBBBBBBBBBBBBBBBBBBBBBBBBBBBBBBBBBBBBBBBB",
    "BBBBBBBBBBC1M33D1MBBFBrU3I2cS1RCDcIBBBBBBBBBBBBBBBBBBBBBBBBBBBBBBBBBBBBBBBBBBBBBBBBBBBBBBB",
    "BBBBBBBBBBBBBBBBBBBBBBBBBBBBBBBBBBBBBBBBBBBBBBBBBBBBBBBBBBBBBBBBBBBBBBBBBBBBBBBBBBBBBBBBBB",
    "BBBBJBBBBBBBBBBBBBBBBBBBBBBBBBBBBBBBBBBBBBBBBBBBBBBBBBBBBBBBBBBBBBBBBBBBBBBBBBBBBBBBBBBBBB",
    "BBBBBBBBBBBBJIIGKIIIIGLBBBBBBBII2UEMEMEMFLEaCBEBDDCDCBDFGBBBBBBECEKCFB1AQTBvM1A1yU1W1WBBDC",
    "BBBBBBEBBCBIDBBBBBBBBBBBBBBBBBBBBBBBBBBBBBBBBBBBBBBBBBBBBBBBBBBBBBBBBBBBBBBBBBBBBBBBBBBBBB",
    "BBBBBBBBBBBBBBBBBBBBBIBBBEBx6JBBBBBBBBBBBBBBBBBBBBBBBBBBBBBBBBBBBBBBBBBBBBBTBBBBBBBBBBBBBB",
    "BBBBBBBBBBBBB5FBBBBBBBBBBBBBDBBBBBBBBBBBBBBBBBBBBBBBBBBBBBBBBBBBBBBBBBBBBBBBBBBBBBBBBBBBBB",
    "KBBBBCBBBBBBBBEBBBCBBBDBBBBBBBBBBBBBBBBBBBBFBFBBBBBBBBBBBBBBBEBBGBFBBB1CBnuH1A1aZ1O5G1K6AL",
    "BPBHBC1wC1Z39L1GndW1GrsQ1A1A1A1A1A1ABBCCBCCCEBI1A1A1ACBECIBH1BCBEBFBBDH1B1A1A1A1A1A1A1A1A1",
    "A1A1A1EZ1HZ1HZ1HZ1HZ1HB4pL1I27I1AG1AG1A"]),
  (["vs", "variationselector"], [
    "6kTDBB1qwAQpb0Y9G"]),
  (["wspace", "whitespace", "space"], [
    "JFSB3WB1AB5zJB2lNL1DCFB1VB49WB"]),
  (["xidc", "xidcontinue"], [
    "1WKH1AEBB1A1VBKBBBCBFXB1FBhQEMOFHBBBR4NBCDDBBGFBBBUB3FB5JBFC6KB1MCBG1PI1TBBBCBCBBI1BEE1DLF",
    "2WE3YBICKBTCBQ2HC3XO2CEBCBC1US1CELFYBGJ2WB4ZCKBTBICCCWBHBBDECJCCCEIBECBFCMKBBBCDBGECCWBHBC",
    "BCBCCBBFECCDDBHEBBHQLDBJBDBWBHBCBFCKBDBDCBPECKJHBDBICCCWBHBCBFCJCCCDHDECBFCKBBQCBGDDBEDCBB",
    "BCDCDDDMEFDDBECBGBOKQNBDBXBQCJBDBEHCBDCBCECKQEBIBDBXBKBFCJBDBEHCGCBECKBDMNBDB1ZBDBFFEHFCKK",
    "GBDBSDYBJBBCHDBEGBBBIGKCCN2GFPBK1NCBBBFBYBBBXCFBBBHBKCE1GBXCGKLBBBBBEKB1KEUBSB1KJB2F2WG3AC",
    "1MBBFBC1RBcVBECHBBBEC1PBEC1HBECHBBBECPB2FBEC2PCDJJOQQ3ICGDnWCRB1AF2XDLHWJWLUMNBDBCM3GDBECC",
    "K1HDBLG3LH1RF2SK1FBMEMK1OCFL1SE1AGL1L1CE2LB1DCLGKNBIOBQ1X2ZDKRJM4MM2EIKD1XCJH1RCDQDB1NFkOC",
    "GC1MCGCIBBBBBBB1FC2BBHBBDDBHDECGENFDBH2OCTB1CBNBQN1ZNEBDMRBEBCKBBCGGBBBBBBQCEFFEBR1P2vB8VG",
    "JM1MBBFBC2EHBPYJHBHBHBHBHBHBHBHB1GjXDZPBFCFE3ICCCDB3MBEF1RB3QR1G1WQjS71O2MnoF2P1UCaJD1CU1W",
    "EKB4L1LJC3ZC2MFCBBBFY2CEBT2AM2SKKGYDBB1XC1KM1DD2NOLG1FB2DJOCKGXD2VYDCQCFKGCGCGJHBHB1RBOG4T",
    "BCCKGbxSMXE1X91CeCC4C1MHMFFMBNBFBBBCBCB4E1H5JG8KS2MC2C1OKGQQQDCYD1HBBBDBBBBBBBB4WTKH1AEBB1",
    "AL3LDGCGCGCD1JMB1ABTBCBPCO1I4T2R2B5GB5A1DD1XPB1F1GN1EF1RF1EC1KEIBF1Q6CCKG1KE1KE1OI2AMLBPBH",
    "BCBLBPBHBC2PbZJWKIYGB1QBJ2RGCBB1SBCDBCXKXJ1F2NTBCKWK1A2S2EGC2MEBCFIBDB1DCDEB1G1DD1D1JIB1EZ",
    "2CKWKTNS4G2V2D1ZN1ZN1OIKcO1QBCDC2X1GKBI1H1FW1QV1BXJ2T1FQJ2IHBNZHKG2BBKEEI1KCBJ2REEBNBB1JSB",
    "1LGE2KHBBBEBPBKH2HFKGEBICCCWBHBCBFBKCCCDCBGBFHCHDF5J2XFKEE1E2SBBIK6K2CCJXG1I2NDBLK1M2FHK2C",
    "1BCPEKGH7D2H3X2WVICBCIBCB1EBCCJMK2SIC1UCIBC1B2LIBI2WDBS2VaDJB1TBJPKY1ECWBO2VHBCB1SDBBCBJIK",
    "GGBCB1LBCBGHKbYXJRB1PDFNK3IB3BzM3Y4HR7O2tK3TP15GQW4aGmL98BlXH1FBKG3BBKG1ECFL2DJEMKJVFTqM2M",
    "4Y2XE2FHR2MCBCLCO6kAI1bQ1QJ9jREBHBCBbFPB1DDCBOEIfG2gU4DFNDJHKDC50Z1UCXkWFDGIICH1EE5SDhB3HB",
    "2TBCCBCCCEBMBBBHB2NBECIBHB1CBEBFBBDHBdCCZBZB1FBZB1FBZB1FBZB1FBZBIC1YjS2DE1YIBOBWFBP16M1FGG",
    "8FHBRCHBCBFF2K1HB4I1TDOCKEBcJ1FR2GiC1QsOHBEBCBPB7PLH1P2YEK19UEB1BBCBBCBBKBEBBBBGBEBBBBBBDB",
    "CBBCBBBBBBBBBBCBBCEBHBEBEBBBKBRFDBFBR3mAK13Q19nC1G4fUG8OC65QO7zL3bJkW1lY59ZF4hGl4pG9G"]),
  (["xids", "xidstart"], [
    "2N1AG1A1VBKBEBFXB1FBhQEMOFHBBB4ZFBCDDBBGBBDBBBUB3FB5JI6KB1MCBG1P2T1BEE1T1R1JCB3VBBPCHCKDCB",
    "QBB1E1D3LLBY1HJCEBFWEBJBDBXZHLFYBGR1Q2G2CDBSBHKPQEICCCWBHBBDEDBQBNCBDOCKBIGECCWBHBCBCBC1FE",
    "BBTDQJBDBWBHBCBFDBSBPCXBLICCCWBHBCBFDB1ECBDPBRBBGDDBEDCBBBCDCDDDMWB2AIBDBXBQDB1ADCBCC1EBEI",
    "BDBXBKBFDB1FCBCPCRJBDB1PCBQBFDIDYGFSDYBJBBCH2G1WBBNH2GCBBBFBYBBBKBBKBCFBBVE1GB2LIB1K1BF4L1",
    "RUBQGEEDBDCHDENMBR1MBBFBC1RBcVBECHBBBEC1PBEC1HBECHBBBECPB2FBEC2P1LQQ3ICGDnWCRB1AF2XDLHSNTO",
    "SONBDP2A1JBEB2P3LH1PBBF2SK1F1X1ECFL1SE1A2CXJ2B3EB3P1VRI2C1ENCK1S1A1K1PDK1KCJH1RCD1PEBGBCDB",
    "F7K2MaSCGC1MCGCIBBBBBBB1FC2BBHBBDDBHDECGENFDBH4MBNBQN3XBEBCKBBCGGBBBBBBQCEFFEBR1P2vB8VGEDC",
    "M1MBBFBC2EHBQXJHBHBHBHBHBHBHBHlEDZJHFCFE3IGDB3MBEF1RB3QR1G1WQjS71O2MnoF2P1UCaJDQKCU1VQ1FC3",
    "C1NJC3ZC2MFCBBBFYQBDBEBX1D2AO1Y2KGDBBCL1CKXZ1DH1V1CBQFBKKFB1PXDBIUXDBD1YBBDCCFCBBBYDCLHDMG",
    "CGCGJHBHB1RBOG4L1DbxSMXE1X91CeCC4C1MHMFFBBKBNBFBBBCBCB4E1H5JG8KS2MC2C1OK4PBBBDBBBBBBBB4W1K",
    "1AG1AL2EC1FDGCGCGCD1JMB1ABTBCBPCO1I4T2R2BaH1DD1X1V1GN1EF1MK1EC1KEIBF1Q6CS1KE1KE1OI2AMLBPBH",
    "BCBLBPBHBC2PbZJWKIYGB1QBJ2RGCBB1SBCDBCXKXJ1F2NTBCKWK1A2S2EGC2MBPEBDB1D1Q1DD1D1JIB1C1B2CKWK",
    "TNS4G2V2D1ZN1ZN1KdK1QGC3A1DKBIW1QS1UV1BXM2B2FCCBN1T1GZ1A1K1DBCBI1JDBM1WOEVBBB1JSBZTC2LHBBB",
    "EBPBKH1V1MICCCWBHBCBFDBSBMF6C2BSEUD1E1WUCBB7C1V1PE1K1WUB2H1RNB2T1B1LH7D1S4M2M1FICBCIBCBYPB",
    "BB3QIC1NQBBB1CBK1OHBVBL1UTBS2VaDJB1LRB1X1E4IHBCB1MVBZGBCB1GOBcPTPBBNB1I4UB3BzM3Y4HR7O2tK3T",
    "P15GRG4aVmL98BlXH1FR3BR1ES1WQE1FVFTqM2M4Y2XFB2ON2MCBB1C6kAI1bQ1QJ9jREBHBCBbFPB1DDCBOEIfG2g",
    "U4DFNDJHK6eK3HB2TBCCBCCCEBMBBBHB2NBECIBHB1CBEBFBBDHBdCCZBZB1FBZB1FBZB1FBZB1FBZBI1yY1FGGaB2",
    "K5Q1TKHQBcJ1ES1SiQ1CtCHBEBCBPB7P2H2QHB1aIEB1BBCBBCBBKBEBBBBGBEBBBBBBDBCBBCBBBBBBBBBBCBBCEB",
    "HBEBEBBBKBRFDBFBR4qA19nC1G4fUG8OC65QO7zL3bJkW1lY59ZF4hG"])]

/-- The names of each property and the code points that have it. -/
def tables : Array (List String × CodeSet) :=
  (packed.map fun entry => (entry.1, codeSet entry.2)).toArray

/-- The number of the property with the given name in lower case and without separators. -/
def named? (name : String) : Option Nat := tables.findIdx? fun entry => entry.1.contains name

def has (property n : Nat) : Bool :=
  match tables[property]? with
  | some entry => entry.2.contains n
  | none => false

def hasNamed (name : String) (n : Nat) : Bool :=
  match named? name with
  | some property => has property n
  | none => false

end RunLog.Unicode.Property
