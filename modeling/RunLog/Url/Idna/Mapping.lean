import RunLog.Unicode.StepMap

namespace RunLog.Url.Idna

/-- What becomes of a character in a domain name. -/
inductive Treatment where
  | kept
  | ignored
  | refused
  | replaced (codes : List Nat)
  | shifted (distance : Int)

/-- The treatments of all code points: for each run its length and its kind, which are 0 for kept, 1
for ignored, 2 for refused, 3 for replaced, with the length of the text and its code points, and
from 4 on twice the distance, less one where it is negative. -/
def packedTreatments : List String := [
  "2NA1A2Q1LA1GCB9ZHABDC1GtWBAB5TCABBBABDC1GtSCAC9ZBDC1GtPB1nUCABDC1GvBBaPB5XBABDD1X8tS2ABDD1X8",
  "tS1YBDD1Z8tS2ABAX2QBAH2Q1HABGBABGBABGBABGBABGBABGBABGBABGBABGBABGBABGBABGBABGBABGBABGBABGBAB",
  "GBABGBABGBABGBABGBABGBABGBABGBABDC4BtVBACDC4B4CBGBABGCABGBABGBABGBACDC4E7BBGBABGBABGBABGBABD",
  "CqY4GBGBABGBABGBABGBABGBABGBABGBABGBABGBABGBABGBABGBABGBABGBABGBABGBABGBABGBABGBABGBABGBABGB",
  "ABGBAB9LBGBABGBABGBABkTBABgIBGBABGBABgABGBACfYBGCAB6GBfSBfUBGBABfYBgCBABgKBgGBGDABgKBgOBABgQ",
  "BGBABGBABGBABgYBGBABgYCABGBABgYBGBACgWBGBABGBABhABGDABGHADDC3WeSDDC4E4CDDC4G4CBGBABGBABGBABG",
  "BABGBABGBABGBABGCABGBABGBABGBABGBABGBABGBABGBABGBABGCADDC3W4SBGBAB7PB4LBGBABGBABGBABGBABGBAB",
  "GBABGBABGBABGBABGBABGBABGBABGBABGBABGBABGBABGBABGBABGBABGBABaDBABGBABGBABGBABGBABGBABGBABGBA",
  "BGBABGHABn2OBGBABcRBn2ICABGBABfDB5MB5QBGBABGBABGBABGBABG3TAB19BB5XB19BB18NB4RB4PB4FB18LB18J1",
  "FABDC1GtUBDC1GtVBDC1GtYBDC1GvCBDC1GtRBDC1GtZCAB9TB1cNB1cBB1bTB6F3NAC5BBAB3VBDCtWtPB9CJABB1GA",
  "BGBABGBABeNBABGBACCBDC1G10RDAB1sJB9CECBDC1GtPBDD1GtWtPB3CB1jND3ABCB5CBCC5ABAR2QBCJ2Q1JABUB2L",
  "B2BB1DBPBVB1HB1VBABGBABGBABGBABGBABGBABGBABGBABGBABGBABGBABGBABGBAB4HB3VB3TBAB4TB5BBABGBAB4H",
  "BGCADaDQ6I1G2Q1WABGBABGBABGBABGBABGBABGBABGBABGBABGBABGBABGBABGBABGBABGBABGBABGBABGJABGBABGB",
  "ABGBABGBABGBABGBABGBABGBABGBABGBABGBABGBABGBABGBABGBABGBABGBABGBABGBABGBABGBABGBABGBABGBABGB",
  "ABGBABGBAB1IBGBABGBABGBABGBABGBABGBABGCABGBABGBABGBABGBABGBABGBABGBABGBABGBABGBABGBABGBABGBA",
  "BGBABGBABGBABGBABGBABGBABGBABGBABGBABGBABGBABGBABGBABGBABGBABGBABGBABGBABGBABGBABGBABGBABGBA",
  "BGBABGBABGBABGBABGBABGBABGBABGBABGBABGBABGBABGBABC1M3WCC1UABDC1hD1iGDACCDABC2DAIC1BAECGARCWA",
  "BC3KABDC1oP1rOBDC1pW1rOBDC1uT1rOBDC1pY1rO3WABC1WACC2HACC3XAOC2HACC1XACCPABC1CACCBABCLAFC1GAH",
  "C2XABC4NABDC2hL2iYBDC2hM2iYBDC2hN2iYBDC2hS2iYBDC2hX2iYBDC2hY2iYBDC2iH2iYBDC2iL2iY1KABCIACCCA",
  "CCWABCHABCBADCEACCJACCCACCEAICBAECBDC2mV2nWBDC2mW2nWBCBDC2nJ2nWEACCZACCDABCGAECCACCWABCHABCB",
  "ABDC2sK2sUBCBABDC2sQ2sUBCCACCBABCFAECCACCDADCBAHCBDC2rI2sUBDC2rJ2sUBDC2rO2sUBABCBDC2sD2sUHCR",
  "AKCDABCJABCDABCWABCHABCCABCFACCKABCDABCDACCBAPCEACCMAHCHABCDABCIACCCACCWABCHABCCABCFACCJACCC",
  "ACCDAHCDAECBDC31P32QBDC31Q32QBCFACCSAKCCABCGADCDABCEADCCABCBABCCADCCADCDADCMAECFADCDABCEACCB",
  "AGCBAOCVAFCNABCDABCXABCQACCJABCDABCEAHCCABCDABCCACCEACCKAHCWABCDABCXABCKABCFACCJABCDABCEAHCC",
  "AFCDABCEACCKABCDAMCNABCDABC1ZABCDABCGAECQACC1AABCDABCSADCYABCJABCBACCHADCBAECGABCBABCIAGCKAC",
  "CDAMC1YABDC3wV3vUHAEC1DA1LCCABCBABCFABCYABCBABCMABDC41T40SKACCFABCBABCHABCKACCBDC40L3zTBDC40",
  "L40BCA1GCMABF2CABDC46G4aTEABCEABDC46Q4aTEABDC46V4aTEABDC47A4aTEABDC47F4aTMABDC46E4aRDAECCABD",
  "C48B48CBABDC48B48EBDC4aO48QBDD4aO48B48QBDC4aP48QBDD4aP48B48QHABDC48B48QRABDC49I4aTEABCEABDC4",
  "9S4aTEABDC49X4aTEABDC4aC4aTEABDC4aH4aTMABDC49G4aRDABCPABCNA1LC6EA1MfiYBCBfiYFCBfiYCC1SAB2P3U",
  "ACB8YABCEACCHABCBABCEACC1PABCEACC1HABCEACCHABCBABCEACCPABC2FABCEACC2PACC1GADC1AAGC3IACCGTCCo",
  "QABC1CADC3LAHCWAJCYAJCUAMCNABCDABCCAMC2AACB1OACCKAGCKAGCLAFBKAGC3LAHC1RAFC2SAKC1FABCMAECMAEC",
  "BADC1QACCFALC1SAEC1AAGCLADC2KACC2NABC1DACCLAGCKAGCOACC1UACCMAUC2ZABC6KAIC2IADCPADC1ZABdaTBda",
  "RBd9ZCd9VBd9XBd9JBd7NB23dABGBAFC1R6fNCCD6fNIAIC1RAFC1SABfrDBfgZBfrFBACfrFBeyJIfrFBABfrHBetVB",
  "frJBfrHCfrFBfrDBfsXCeqXB5JBftDCftBBeqRCeqPBftFBABftBBfsZBfbZBfsZBerTC4XBftFCfsZB4TBeqFBftDB4",
  "JDe1PCe0HBfuRBfuBCftXCe2HBe1HCe0ZNABdsZ1IABexLBfzPBexJBfoXBewZBfzRBewXBewVBewPDewLB3NBesRBew",
  "LB2ZBesTBewJBewNEewLBewHCevPBfcHCevHBcDCevJBg0FDevFBe8R2MABGBABGBABGBABGBABGBABGBABGBABGBABG",
  "BABGBABGBABGBABGBABGBABGBABGBABGBABGBABGBABGBABGBABGBABGBABGBABGBABGBABGBABGBABGBABGBABGBABG",
  "BABGBABGBABGBABGBABGBABGBABGBABGBABGBABGBABGBABGBABGBABGBABGBABGBABGBABGBABGBABGBABGBABGBABG",
  "BABGBABGBABGBABGBABGBABGBABGBABGBABGBABGBABGBABGBABGBABGBABGBABGBABGBABGBABGBABGFABDC3TrAB4P",
  "CABg9XBABGBABGBABGBABGBABGBABGBABGBABGBABGBABGBABGBABGBABGBABGBABGBABGBABGBABGBABGBABGBABGBA",
  "BGBABGBABGBABGBABGBABGBABGBABGBABGBABGBABGBABGBABGBABGBABGBABGBABGBABGBABGBABGBABGBABGBABGBA",
  "BGBABGBABGBABGJAITGACCGTCCIAITIAITGACCGTCCIABCBTBCBTBCBTBCBTIAITBABf6ZBABf7BBABf7DBABf7FBABf",
  "5DBABf5FBABf5HCCBDC8hG10RBDC8hH10RBDC8hI10RBDC8hJ10RBDC8hK10RBDC8hL10RBDC8hM10RBDC8hN10RBDC8",
  "hG10RBDC8hH10RBDC8hI10RBDC8hJ10RBDC8hK10RBDC8hL10RBDC8hM10RBDC8hN10RBDC8iM10RBDC8iN10RBDC8iO",
  "10RBDC8iP10RBDC8iQ10RBDC8iR10RBDC8iS10RBDC8iT10RBDC8iM10RBDC8iN10RBDC8iO10RBDC8iP10RBDC8iQ10",
  "RBDC8iR10RBDC8iS10RBDC8iT10RBDC8kY10RBDC8kZ10RBDC8lA10RBDC8lB10RBDC8lC10RBDC8lD10RBDC8lE10RB",
  "DC8lF10RBDC8kY10RBDC8kZ10RBDC8lA10RBDC8lB10RBDC8lC10RBDC8lD10RBDC8lE10RBDC8lF10RCABDC8lO10RB",
  "DC10J10RBDC10E10RBCBABDC8oG10RCTB5VBfcRBDC10J10RBDC1GuHBfbXBDC1GuHBDC1GwCBDD1GtWwCBDC8lS10RB",
  "DC10P10RBDC10G10RBCBABDC8oW10RB6TBfdRB6TBfdTBDC10P10RBDD1GuHtOBDD1GuHtPBDD1GuHwCDABfgRCCCACT",
  "B7VBfeXBCBDD1GuItOBDD1GuItPBDD1GuIwCDABffLEACTB8TBfdVBRBDD1GtWtOBDD1GtWtPBh9PCCBDC8mA10RBDC1",
  "1H10RBDC11M10RBCBABDC8qS10RB9ZBfeZB9VBfeZBDC11H10RBDC1GtPBDC1GuIBCBhfVBhfXBhfZBhgBBhgDBhgFBh",
  "gHBhgJBhgLBhgNBhgPBBCACCBABFFABDC1GvNMADCBAHCBhjLDABDC8tA8tABDD8tA8tA8tABABDC8tD8tDBDD8tD8tD",
  "8tDEABDC1H1HBABDC1GtTIABDC2L2LBDC2L1HBDC1H2LNABDE8tA8tA8tA8tAHABhnDFBFCGBBhnFBhiXCCGhnFBhoJB",
  "vMBhnDChoVBhjPKhoLBhpPBuGBhoJChqBBCBhlXBhlRBhkZBhkJBgjLBhlTEhlPBhlNChlJDCIABDC4K4LZAOC1HAPCB",
  "DD3T1V3VBDD3T1V4LBhuNBDC6U3VBABDD3V1V4HBDD3V1V4NBgsDBABDC6U3YChuVBhuXBhuZBhvBBhgLBhvDBhvFBhv",
  "BBhvDBABhvDBDC4G4HCADhvHBhvJBhvLCABDC4L4FBDD4M3X4EBDC4M4FBABhvJBABg2JBABhvRBABhwZBhnRChxVBAB",
  "hxVChxXB2IBhxNBhxLEezPBhyHBABDD3Y3T4QBg4TBg5VBg5XBg4ZBgGEABhzPChzRChzLGABDD1X8tS2DBDD1X8tS2F",
  "BDE1X8tS1X1WBDD1X8tS1ZBDD1Y8tS1ZBDD1X8tS2BBDD1Y8tS2BBDD1Z8tS2BBDD2A8tS2BBDD1X8tS2CBDD2B8tS2C",
  "BDD1X8tS2EBDD1Z8tS2EBDD2B8tS2EBDD2D8tS2EBDC1X8tSBi1HBDC4B4BBDD4B4B4BBDC4B4OBi0PBDC4O4BBDD4O4",
  "B4BBDE4O4B4B4BBDC4B4QBi0VBDC4Q4BBDD4Q4B4BBi1ZCi2TBi2DBi2NBDC4B4BBDD4B4B4BBDC4B4OBi1VBDC4O4BB",
  "DD4O4B4BBDE4O4B4B4BBDC4B4QBi2BBDC4Q4BBDD4Q4B4BBi3FCi3ZBi3JDABGFABDD1W8tS1ZCAEC6AABDC9cL9cLBD",
  "D9cL9cL9cLBABDC9cO9cOBDD9cO9cO9cO9OAC71Q9VAWCLAVCJjsRBDC1X1WBDC1X1XBDC1X1YBDC1X1ZBDC1X2ABDC1",
  "X2BBDC1X2CBDC1X2DBDC1X2EBDC1X2FBDC1Y1WBDD1O1X1PBDD1O1Y1PBDD1O1Z1PBDD1O2A1PBDD1O2B1PBDD1O2C1P",
  "BDD1O2D1PBDD1O2E1PBDD1O2F1PBDE1O1X1W1PBDE1O1X1X1PBDE1O1X1Y1PBDE1O1X1Z1PBDE1O1X2A1PBDE1O1X2B1",
  "PBDE1O1X2C1PBDE1O1X2D1PBDE1O1X2E1PBDE1O1X2F1PBDE1O1Y1W1PUCBDD1O3T1PBDD1O3U1PBDD1O3V1PBDD1O3W",
  "1PBDD1O3X1PBDD1O3Y1PBDD1O3Z1PBDD1O4A1PBDD1O4B1PBDD1O4C1PBDD1O4D1PBDD1O4E1PBDD1O4F1PBDD1O4G1P",
  "BDD1O4H1PBDD1O4I1PBDD1O4J1PBDD1O4K1PBDD1O4L1PBDD1O4M1PBDD1O4N1PBDD1O4O1PBDD1O4P1PBDD1O4Q1PBD",
  "D1O4R1PBDD1O4S1P1AjvP1AjxPBk3J1eNABDE9cL9cL9cL9cL3ZABDD2G2G2JBDC2J2JBDD2J2J2J3XABDCbqBvS5VAC",
  "C5IA1W3W1WABGBABmyNB85NBmxHCABGBABGBABGBABn1JBmyZBn1PBn1NBABGCABGGABo3ZBo3DCn4BBGBABGBABGBAB",
  "GBABGBABGBABGBABGBABGBABGBABGBABGBABGBABGBABGBABGBABGBABGBABGBABGBABGBABGBABGBABGBABGBABGBAB",
  "GBABGBABGBABGBABGBABGBABGBABGBABGBABGBABGBABGBABGBABGBABGBABGBABGBABGBABGBABGBABGBABGBABGBAB",
  "GIABGBABGEABGBAFC1TABCBAFCBACC2EAHCB1FBAOCYAJCHABCHABCHABCHABCHABCHABCHABCHABC4WA1IC1AABCEAB",
  "xgY3FAB1pmYMCBgyQBh1QBh2QBh3GBh5EBh8MBh8YBhaKBhcIBipWBisSBitCBiuUBiwGBixUBj1UBj3IBj4CBjfYBjn",
  "CBjpEBjpMBjrSBjsIBjuIBjvGBjxCBk1ABk2IBk4IBlqKBlvWBmvEBmwWBmxKBmyEBmzMBn5GBo5WBo9MBoiQBokIBol",
  "SBonIBorKBorOBpjIBpkABpkWBplUBpuQBpvEBpvMBq4KBq5CBq6ABq6OBqbEBqcKBqdSBqjUBrsKBrvWBrxKBtiGBti",
  "OBtoWBtqABtqYBtsMBtvKBtvSBugEBuhYBukIBwqKBwvKBwxCBx1MBx3GBx3WBx4IBx8GBx8OBxaYBzlWB10kEB10lAB",
  "10lIB10lOB10mCB10nKB10nMB10tQB11aEB11aMB120MB121EB124YB125KB126AB126OB12dMB12dYB12vKB12vWB12",
  "zOB130UB134IB13mMB13mYB13oEB14dGB14mWB14nGB151EB157UB15bGB164GB16eKB17mMB17oMB17sUB17wQB181U",
  "B182OB182YB185KB18bEB18bWB192KB192WB193MB194CB195GB196IB196OB19cOB19cUB19dEB1bgOB1biUB1ciUB1",
  "cjQB1clIB1d7AB1d7YB1ddIB1dgUB1eoIB1epKB1eqMB1etCB1evWB1fbCB1fbYB1fhAB1g0AB1g2IB1giIB1gjWB1gk",
  "EB1h1AB1hfCB1hoQB1hpAB1hpIB1jpCB1jpSB1k1QB1kdKB1kdOB1khCB1kpCB1kqAB1kqGB1kqSB1kyEB1l0SB1l1CB",
  "1l2CB1leWB1liSB1liYB1lwYB1lxCB1lyMB1mhUB1mlKB1mlWB1mrEB1mrWB1msAB1msSB1muYB1npGB1ojYB1okQB1o",
  "nMB1opCB1opQB1oqIB1oqOB1otOB1otUB1ovAB1ovIB1owGB1oyGB1ozIB1ozWB1p4IB1p5KB1p5Q1QCBq6XBABq5Z1Z",
  "AB2XBABj6CCj6GFABC3IACCCABDC1GdaNBDC1GdaOCABDCd9Wd9Y3RABDCdbNdcIFC1RABCChmBBh9DBhmDCh9DDhmHG",
  "h9FBhlFDhmVBhkZKhmXVhgXBBChoNChaXBhaRBhaPBhaHBhaBBh9ZBhoPBh9VBh9TChoTBhoRChoPBhoJBhoHFhoFBho",
  "BBhnVBhnDBhmRBhmJCh9TDhlTChiNBhiJChhTBhhRBhgZBhgVBCCABfkABfuSBfkOBkeEBfkMBfnCBfkKB10zIBfqGBf",
  "lGBfjIBlmYBkkABfxI2SAKCQABDD1O4nK1PBDD1O4nM1PBDD1O4nN1PBDD1O4nP1PBDD1O4nQ1PBDD1O4nR1PBDD1O4n",
  "T1PBDD1O4nV1PBDD1O4nW1PBDD1O4nY1PBDD1O4nZ1PBDD1O4oA1PBDD1O4oB1PBDD1O4oC1PBDD1O1b1O1PBDD1O1ca",
  "U1PBDD1O1cxK1PBDD1O1e6Q1PBDD1O1etG1PBDD1O1ffW1PBDD1O1gpC1PBDD1O1hyI1PBDD1O1ikY1PBDD1O1juE1PB",
  "DD1O1kgU1PBDD1O1l3K1PBDD1O1lqA1PBDD1O1mcQ1PBDD1O1iyY1PBDE1O1i6Y1ipK1PBDE1O1i6Y1mqQ1PBCBDD1Ol",
  "cA1PBDD1OlhK1PBDD1OlcJ1PBDD1OnrF1PBDD1OlhS1PBDD1Om9T1PBDD1OlcD1PBDD1Om9R1PBDD1OlfP1PBDD1OmrT",
  "1PBDD1Os6M1PBDD1OuqX1PBDD1OtlK1PBDD1Os7S1PBDD1O13vT1PBDD1OntV1PBDD1OrvH1PBDD1OshQ1PBDD1Os6N1",
  "PBDD1Ox5U1PBDD1OmzP1PBDD1OvbD1PBDD1O12gR1PBDD1Ox6Z1PBDD1OmmI1PBDD1OlkT1PBDD1On3W1PBDD1OozY1P",
  "BDD1OwiP1PBDD1OllX1PBDD1O12iD1PBDD1OmsM1PBDD1Ox7P1PBDD1OlmN1PBDD1OzjE1PBDD1OzjN1PBj6GBo6WBs1",
  "MB143GIABDD4I4M3XBDC1Y1XBDC1Y1YBDC1Y1ZBDC1Y2ABDC1Y2BBDC1Y2CBDC1Y2DBDC1Y2EBDC1Y2FBDC1Z1WBDC1Z",
  "1XBDC1Z1YBDC1Z1ZBDC1Z2ABDC1Z2BBi9JCi9HDi9FBi9DCi9BFi8ZB1uiEB1x0OB1y9SB20sCB221GB23aKB25sUB28",
  "bEB29kIB2c2SB2dbWB2elAB2fuEB2h3IBDC1juU1baEBDC1iyY1iiUB292MBABf1SBfcKBf2GBjvWBfcUBgwUBf1MBgw",
  "MBf8GBhwMBspWBxuQBvjOBssCB1g4CBk0EBs3ABtbQBspIB12nUBibIByyIB1d9IB12pWBhkMB12zEB10fYBl9CB1fbI",
  "BgpUBhyMBvvYB1jgWBfkEBgxYBv1SBezSBf2IBezQBnnUBi7UBhtOBmeCBmaGB11bMBfiAB1daKBhvABl0UBDC1Z2CBD",
  "C1Z2DBDC1Z2EBDC1Z2FBDC2A1WBDC2A1XBDC2A1YBDC2A1ZBDC2A2ABDC2A2BBDC2A2CBDC2A2DBDC2A2EBDC2A2FBDC",
  "2B1WBDC1Xs6MBDC1Ys6MBDC1Zs6MBDC2As6MBDC2Bs6MBDC2Cs6MBDC2Ds6MBDC2Es6MBDC2Fs6MBDD1X1Ws6MBDD1X1",
  "Xs6MBDD1X1Ys6MBDC4A3ZBDD3X4K3ZBDC3X4OBDD4E4M3WB17BB16ZB16XB16VC16TB16RB16PB16NB16LB16JB16HB1",
  "6FB16DB16BB15ZB15XB15TB15RB15PG15NB15JB15FB15BB14XF14TB14RB14PG14NE14LBDClkUn4MBDEdaWdcRdeId",
  "cIBDEdaWddRdcVdaVBDEdaWddZddAdaWBDDdaWdeIddRBDEdaYdcLddZdbKBDDdaYddZdcBBDDdbAdbDddZBDFdbCdbT",
  "dbJdeIdcJBDEdbCdeIdbFdeIBDDdbEddZdbTBDDdbEdeIddGBDDdbFdaYddQBDEdbFddPdcDdcIBDEdbFddTddQdeIBD",
  "DdbGddTddZBDDdbGddZddEBDCdbIdbGBDDdbIdcLdeIBDEdbHddLddQdeIBDEdbIddRdcAdeIBDCdbHddTBDFdbHddTd",
  "bKddPddGBDGdbHddTddHdeIdcIddRBDFdbHddTddVdcDdcIBDDdbKddPddGBDFdbKddPddGdcIddZBDFdbJddRdbWdaY",
  "ddTBDEdbJddTdeIdcNBDDdbLdeIdbTBDDdbNddRdcKBDDdbNdeIddDBDEdbPdaYdbJddRBDFdbPddZdcBdeIddGBDEdb",
  "RddQddZdbKBDDdbVddZdcBBDDdbVddZdcIBDDdcAdeIdbTBDCdcHdbRBDCdcJddRBDCdcIddZBDCdcKdcOBDDdcOdcDd",
  "cIBDDdcPdaYdcEBDFdcRdeIdbVddZdcIBDDdcRdeIdcEBDEdcQdeIddSddRBDFdcUdaWdbTdcIddRBDDdcUdbJddRBDC",
  "dcUdbNBDCdcTddRBDFdcVdaVddPdcDdcJBDEdcVdaXdeIdcIBDFdcWdcDdbRdbBddRBDDdcVddPddZBDFdcYdbJdbZde",
  "IddRBDCddAdbXBDDddAdcLdcSBDDdcYddRdcEBDDddAddZdbTBDDddAdeIdbSBDDdcZdeIdbZBDEddDdaYddZdcIBDDd",
  "dCddRdcIBDCddBddZBDDddDddZdcJBDDddBdeIddRBDDddBdeIddZBDEddEdaYdbJddTBDDddEdaYddRBDDddEdcDdcP",
  "BDDddEddRdbJBDFddEddZdbRddNddZBDEddFdbJddTddZBDCddFddQBDFddFddQdcQdeIddRBDCddHdbGBDEddHdbGdc",
  "IddZBDEddHdeIdcIddRBDDddKdeIdcJBDDddKdeIddRBDDddMdaWddZBDEddQdcDdcIddRBDCddQddPBDDddRdcUdeIB",
  "DEddRdeIdcWddRBDCddSddGBDFddSddZdcIdbMddZBDDddVdcDdcIBDC1WutXBDC1XutXBDC1YutXBDC1ZutXBDC2Aut",
  "XBDC2ButXBDC2CutXBDC2DutXBDC2EutXBDC2FutXBDD1X1WutXBDD1X1XutXBDD1X1YutXBDD1X1ZutXBDD1X2AutXB",
  "DD1X2ButXBDD1X2CutXBDD1X2DutXBDD1X2EutXBDD1X2FutXBDD1Y1WutXBDD1Y1XutXBDD1Y1YutXBDD1Y1ZutXBDD",
  "1Y2AutXBDD4A4I3TBDC3W3TBDC3T4NBDD3U3T4KBDC4H4OBDC4I3VBDC3W4FBDD3W4F1YBDD3W4F1ZBDC4B4NBDCptZq",
  "tOBDCryBn4MBDCodVtdJBDCrwWtqPBDEshQpzZlmWx5UBDC4I3TBDC4G3TBDC10U3TBDC4F3TBDC4D3TBDC4D3UBDC4F",
  "3UBDC3Z3UBDD3V3T4EBDE4D3V3T4EBDC4I3YBDC4G3YBDC10U3YBDC10U3ZBDC4F3ZBDC4D3ZBDC4A4SBDD4D4A4SBDD",
  "4F4A4SBDD3Z4A4SBDD4M4A4SBDC10U4EBDC4F4EBDC3W4EBDC4D4EBDC3Y4FBDC4G4FBDC10U4FBDC4F4FBDC3V4FBDC",
  "4D4FBDD4F4F1YBDD3V4F1YBDC4F1YBDD4D4F1YBDD4F4F1ZBDD3V4F1ZBDC4F1ZBDD4D4F1ZBDD4F9bP4LBDE4F9bP4L",
  "1YBDC4I3TBDD4D4I3TBDD4F4I3TBDD3Z4I3TBDD4K3T3WBDF4K3T3W9bP4LBDG4K3T3W9bP4L1YBDC4I4LBDC4G4LBDC",
  "10U4LBDC4F4LBDC4I4OBDC4G4OBDC10U4OBDC4F4OBDC4D4OBDC4F4OBDC4I4PBDC4G4PBDC10U4PBDC4F4PBDC4D4PB",
  "DC4F4PBDC4D11HBDC4F11HBCBDC3U4JBDC3V3VBDC3V3WBDE3V9bP4D3ZBCBDC3W3UBDC3Z4RBDC4A3TBDC4A4IBDC4B",
  "4GBDC4D4DBDC4D4FBDC4D4MBDC4E4FBDC4E4GBDD4E4H3ZBDC4E4QBDC4F3UBDD4F4B4EBDD4F4H4EBDC4I4ABCBDD4I",
  "4I4FBDC4I4KBDC4L4KBDC4L4OBDC4P3UBDD4O9bP4FBDD3T9bP4FBDC1XrvHBDC1YrvHBDC1ZrvHBDC2ArvHBDC2BrvH",
  "BDC2CrvHBDC2DrvHBDC2ErvHBDC2FrvHBDD1X1WrvHBDD1X1XrvHBDD1X1YrvHBDD1X1ZrvHBDD1X2ArvHBDD1X2BrvH",
  "BDD1X2CrvHBDD1X2DrvHBDD1X2ErvHBDD1X2FrvHBDD1Y1WrvHBDD1Y1XrvHBDD1Y1YrvHBDD1Y1ZrvHBDD1Y2ArvHBD",
  "D1Y2BrvHBDD1Y2CrvHBDD1Y2DrvHBDD1Y2ErvHBDD1Y2FrvHBDD1Z1WrvHBDD1Z1XrvHBDD3Z3T4EusFADC2DAJCdKAU",
  "CBGBABGBABGBABGBABGBABGBABGBABGBABGBABGBABGBABGBABGBABGBABGBABGBABGBABGBABGBABGBABGBABGBABGT",
  "ABGBABGBABGBABGBABGBABGBABGBABGBABGBABGBABGBABGBABGBABGBAB2gsPB2gsN3MAIC1IABGBABGBABGBABGBAB",
  "GBABGBABGDABGBABGBABGBABGBABGBABGBABGBABGBABGBABGBABGBABGBABGBABGBABGBABGBABGBABGBABGBABGBAB",
  "GBABGBABGBABGBABGBABGBABGBABGBABGBABGBABGBABFIABGBABGBAB23hZBGBABGBABGBABGBABGEABGBAB2icLCAB",
  "GBABGDABGBABGBABGBABGBABGBABGBABGBABGBABGBABGBAB2iePB2ifLB2ifDB2ieJB2iePBAB2iaTB2icPB2iaZB1z",
  "OBGBABGBABGBABGBABGBABGBABGBABGBAB3VB2ieNB23lZBGBABGBAB2ihHBGBABGBABGBABGBABGBABGBABGBABGBAB",
  "2iyBUCB2jmLB2jnTB2jnPB2jmVBGCAB2j9DB2j5V1ZADCKAGC2EAIC2SAICMAGC4MALC1EADC3AABCLAEC1HABC2DAJC",
  "OACCKACC3ZAYC1CAKCGACCGACCGAJCHABCHABC1SAB2aZB3BB2kfDB1DJAB2kdJCAEC3C2b1R1UACCKAGCbxSAMCXAEC",
  "1XA91CCB1nhBB27wFB1m3VB1n7LB23lPB2lgBB2ibXB1cwZB1cxBB2fdJB1kgVB2hgDB2feHB2anLB1zgVB1uhNB1qtD",
  "B1q0BB1pbRB1l6HB269NB24kPB22iZB20vPB1rxHB1kpXB1g2BB2lbPB2imFB25qJB21uVB1qvRB1dsHB2d8NB232FB1",
  "r3JB1p4TB2a9BB1t9NB1ptZB2cfZB27wPB24gDB21eNB1l3JB2ksZB2jlXB2izHB296XB25vRB21xFB1z9ZB1uaVB1r0",
  "JB1qtVB1moTB1hmLB1fbBB1dxBB1yeFB1xvPB1vmJB1s9DB1jxHB1dnHB1oeNB2fqNB2cdPB1wbNB1u2NB21sLB1yaJB",
  "1ndFB1hsHB2frRB2duBB26cNB24aFB23mNB1vwLB1vcFB1i6DB2j2XB1u2PB2jlZB2jnHB1xlNB1vmBB1s8BB1i3NB1o",
  "3JB2acTB26fBB1odPB2lmJB2e5BB2bvBB217ZB206LB2iyXB1y8VB2ksXB2c3PB2lqLB24xBB28xLB1vzNB2imHB2g3R",
  "B1zcLB1s2ZB1olLB25iTB1luRB253BB2aaZB1suVB29yRB208VB2lfHB2jxPB2jqHB27aZB1w5JB1t4NB1ojLB1kpXB2",
  "j3RB2ieDB2fjZB2ckHB28tNB238HB1y7TB1imJB1g1DB1dqZB1dmVB2jbLB28aJB25qBB1m2VB2cuLB2b5HB2awTB29h",
  "PB23qFB22jZB20sBB1xwRB1vmTB1u9ZB1m8HB1rtPB1loZB1jyZB2jmZB2jcHB2i6ZB22uVB1pqTB1opHB2cpLB2c2LB",
  "2a5DB25nTB1wlRB21eTB2leXB2gzVB2eaVB2daZB2c0DB21aNB20wNB1usFB1ufBB1kmBB1i0LB1huFB1heHB2l3BB1y",
  "1JB1kwJB1i5RB2blZB2lnNB2kdTB2ebRB2e5NB291LB26mRB22dFB1zxPB1rvRB1llHB1dcRB28jPB1ihJB2jhNB281D",
  "B27rZB24vPB244ZB216FB20gLB1ysBB1w8RB1hbBB2k4DB2ayHB1icRB2ktDB2dqPB24jNB1mcVB2ceRB2bgVB27qNB2",
  "1hJB1icHB2jqPB2ipHB2e5FB28uRB286NB27fZB254PB218HB207TB1uyZB1pvFB1ptXB1kyJB1i6HB2j6HB245FB2ip",
  "JB22gPB20xXB1rfRB1ibRB1f7LB1dyPB282JB24oHB1toHB1xkLB1xdZB1wlPB21zBB235NB1oiXB2loFB1szFB2jrXB",
  "2jvXB2czLB2apHB1whDB2epHB252VB28lFB1mfFB1q7VB1ikDB1pjLB2cwTB2kcDB2hvPCAB2ggPBAB28rBCAB2k0RB2",
  "1tBB1ztTB1yhRB1yfDB1yeRB1ybNB1i1FB1wkZB1uyBBAB1rhNBAB1otFCAB1lyBB1liZDAB1h6VB1h5XB1h2PB1elDB",
  "1llZB1ieXB2l9VB2klVB2keBB2jkXB2jiXB2jaPB2i1LB2htLB2hlZB2glTB2gdVB2ecJB2ebRB2c2BB2blVB2biZB2b",
  "bJB29hFB295ZB28sPB27qFB250XB24oLB244FB22vBB22gPB21dZB1yyTB1ylNB1ykTB1ykXB1ykJB1yjZB1yjNC1yfX",
  "B1y2HB1xxJB1x8XB1w1PB1w0BB1vvVB1v8LB1uxFB1tvTB1tlBB1tlDB1skLB1pzNB1ppHB1oxLB1otFB1nxTB1ntTB1",
  "mdBB1m3DB1ifXB1huDB1hpPB2c7ZB4zpGB1ttTCCB2m8XB2kaXB2kgXB2liNB2kjTB2kfHB2jqFB2jmJB2i6NB2icDB2",
  "i6ZB2i1LB2goXB2giDB2g7BB2g5XB2flFB2f6BB2d5ZB2d5NB2cuNB2cpJB2c2LB2btLB2byXB2boRB2bsHB2bhDB2bc",
  "DB2ahLB2aaTB2a6RB29mTB290VB28oJB28oDB28jRB26aHB265JB25bJB24fXB24hFB24aPB23rHB231NB1znBB22mJB",
  "22dBB223RB21ePB213FB20zFB20hXB20hVB204TB203NB201RB1zvDB1zvZB1z1PB1y0JB1xfPB1x1HB1wkDB1w8LB1v",
  "jDB1v3XB1taZB1syZB1r1JB1q2JB1pxDB1pvZB1p9FB1p4XB1p8LB1p4JB1p4RB1p6BB1p0HB1ouDB1o0VB1mtVB1m5T",
  "B1ljDB1l2FB1ivBB1inFB1ieLB1i4HB1i1PB1i0TB1hxDB1gdHB1dvZB4kxAB4kwMB4r8EB2wlLB2u5HB2u2VB57vOB5",
  "dmUB5w8MB1e3PB1dxX1MCBDC3Y3YBDC3Y4BBDC3Y4EBDD3Y3Y4BBDD3Y3Y4ECDC4L4MMCBDC1hS1hUBDC1hS1hDBDC1h",
  "S1hJBDC1iC1hUBDC1hS1hLFCBDC1lP1kEBABDC1mO1kHB3q5NB3q6ZC3q6VD3q6JB3q5PB3q5NB3taTBDC1mF1kRBDC1",
  "mF1kSBDD1mF1kM1kRBDD1mF1kM1kSBDC1lG1kHBDC1lG1kIBDC1lG1kMBDC1lH1kMBDC1lI1kMBDC1lJ1kMBDC1lK1kM",
  "BDC1lL1kMBDC1lM1kMBCBDC1lO1kMBDC1lP1kMBDC1lQ1kMBDC1lR1kMBDC1lS1kMBCBDC1lU1kMBCBDC1lW1kMBDC1l",
  "X1kMBCBDC1lZ1kMBDC1mA1kMBCBDC1mC1kMBDC1mD1kMBDC1mE1kMBDC1mF1kMBDC1mG1kMBDC1lL1kJBDC1lH1kPBDC",
  "1lR1kPBDC1mA1kPBDC1lG1lSB3pyFB3pyHB3pxPB3pxRB3pxTB3pxVB3pxRB3pxTB3pxVB3pxXB3pxVB3pxXB3pxZB3p",
  "yBB3pyPB3pyRB3pyTB3pyVB3pyNB3pyPB3pyRB3pyTB3pzHB3pzJB3pzLB3pzNB3pwHB3pwJB3pwLB3pwNB3pwLB3pwN",
  "B3pwPB3pwRB3pzJB3pzLB3pzNB3pzPB3pzTB3pzVB3pzXB3pzZB3pzVB3pzXB3pzZC3q0BB3q0DB3q0FB3q0HB3pzXB3",
  "pzZB3q0DB3q0FB3q0DB3q0FB3q0TB3q0VB3pzRB3pzTB3q0JB3q0LB3pyRB3pyTB3pyVB3pyXB3pyNB3pyPB3pyRB3py",
  "TB3pyNB3pyPB3pyRB3pyTB3pyZB3pzBB3pzDB3pzFB3pyPC3pyRB3pyTB3pyVB3pyXB3pyPC3pyRB3pyTB3pyVB3pyXB",
  "3pzFB3pzHB3pzJB3pzLB3pxZC3pyBB3pyD1HAB3q3RB3q3TB3q3VB3q3XB3q1ZB3q2BB3q2FB3q2HB3q2FB3q2HBDC1u",
  "T1rOB3q2FB3q2HB3q2VB3q2XB3q2RB3q2TB3q2HB3q2JB3q2LB3q2NB3qcZB3qdBCDC1oO1oPCDC1oO1vHCDC1oO1pWC",
  "DC1oO1uTCDC1oO1uSCDC1oO1uUDDC1oO1vCDDC1oO1pXB3q4LB3q4NB3q4PB3q4RBDC1oO1oUBDC1oO1oVBDC1oO1pTB",
  "DC1oO1pXBDC1oO1pYBDC1oQ1oUBDC1oQ1oVBDC1oQ1oWBDC1oQ1pTBDC1oQ1pXBDC1oQ1pYBDC1oS1oUBDC1oS1oVBDC",
  "1oS1oWBDC1oS1pTBDC1oS1pXBDC1oS1pYBDC1oT1oUBDC1oT1pTBDC1oT1pXBDC1oT1pYBDC1oU1oVBDC1oU1pTBDC1o",
  "V1oUBDC1oV1pTBDC1oW1oUBDC1oW1oVBDC1oW1pTBDC1pB1oUBDC1pB1oVBDC1pB1oWBDC1pB1pTBDC1pD1oVBDC1pD1",
  "pTBDC1pE1oUBDC1pE1oVBDC1pE1oWBDC1pE1pTBDC1pF1oVBDC1pF1pTBDC1pG1pTBDC1pH1oUBDC1pH1pTBDC1pI1oU",
  "BDC1pI1pTBDC1pP1oUBDC1pP1oVBDC1pP1oWBDC1pP1pTBDC1pP1pXBDC1pP1pYBDC1pQ1oVBDC1pQ1pTBDC1pQ1pXBD",
  "C1pQ1pYBDC1pR1oPBDC1pR1oUBDC1pR1oVBDC1pR1oWBDC1pR1pSBDC1pR1pTBDC1pR1pXBDC1pR1pYBDC1pS1oUBDC1",
  "pS1oVBDC1pS1oWBDC1pS1pTBDC1pS1pXBDC1pS1pYBDC1pT1oUBDC1pT1oVBDC1pT1oWBDC1pT1pTBDC1pT1pXBDC1pT",
  "1pYBDC1pU1oUBDC1pU1oVBDC1pU1oWBDC1pU1pTBDC1pU1pXBDC1pU1pYBDC1pV1oUBDC1pV1pTBDC1pV1pXBDC1pV1p",
  "YBDC1pY1oUBDC1pY1oVBDC1pY1oWBDC1pY1pTBDC1pY1pXBDC1pY1pYBDC1oY1rKBDC1oZ1rKBDC1pX1rKBDD1G1qA1q",
  "FBDD1G1qB1qFBDD1G1qC1qFBDD1G1qD1qFBDD1G1qE1qFBDD1G1qF1rKBDC1oO1oZBDC1oO1pABDC1oO1pTBDC1oO1pU",
  "BDC1oO1pXBDC1oO1pYBDC1oQ1oZBDC1oQ1pABDC1oQ1pTBDC1oQ1pUBDC1oQ1pXBDC1oQ1pYBDC1oS1oZBDC1oS1pABD",
  "C1oS1pTBDC1oS1pUBDC1oS1pXBDC1oS1pYBDC1oT1oZBDC1oT1pABDC1oT1pTBDC1oT1pUBDC1oT1pXBDC1oT1pYBDC1",
  "pP1pXBDC1pP1pYBDC1pQ1pXBDC1pQ1pYBDC1pR1oPBDC1pR1pSBDC1pR1pTBDC1pR1pXBDC1pR1pYBDC1pS1pTBDC1pS",
  "1pXBDC1pS1pYBDC1pT1oPBDC1pT1pTBDC1pU1oZBDC1pU1pABDC1pU1pTBDC1pU1pUBDC1pU1pXBDC1pU1pYBDC1pX1r",
  "KBDC1pY1oZBDC1pY1pABDC1pY1pTBDC1pY1pUBDC1pY1pXBDC1pY1pYBDC1oO1oUBDC1oO1oVBDC1oO1oWBDC1oO1pTB",
  "DC1oO1pVBDC1oQ1oUBDC1oQ1oVBDC1oQ1oWBDC1oQ1pTBDC1oQ1pVBDC1oS1oUBDC1oS1oVBDC1oS1oWBDC1oS1pTBDC",
  "1oS1pVBDC1oT1pTBDC1oU1oVBDC1oU1pTBDC1oV1oUBDC1oV1pTBDC1oW1oUBDC1oW1pTBDC1pB1oUBDC1pB1oVBDC1p",
  "B1oWBDC1pB1pTBDC1pD1oVBDC1pD1oWBDC1pD1pTBDC1pE1oUBDC1pE1oVBDC1pE1oWBDC1pE1pTBDC1pF1oVBDC1pG1",
  "pTBDC1pH1oUBDC1pH1pTBDC1pI1oUBDC1pI1pTBDC1pP1oUBDC1pP1oVBDC1pP1oWBDC1pP1pTBDC1pQ1oVBDC1pQ1pT",
  "BDC1pR1oUBDC1pR1oVBDC1pR1oWBDC1pR1pSBDC1pR1pTBDC1pS1oUBDC1pS1oVBDC1pS1oWBDC1pS1pTBDC1pS1pVBD",
  "C1pT1oUBDC1pT1oVBDC1pT1oWBDC1pT1pTBDC1pU1oUBDC1pU1oVBDC1pU1oWBDC1pU1pTBDC1pU1pVBDC1pV1oUBDC1",
  "pV1pTBDC1pV1rKBDC1pY1oUBDC1pY1oVBDC1pY1oWBDC1pY1pTBDC1pY1pVBDC1oO1pTBDC1oO1pVBDC1oQ1pTBDC1oQ",
  "1pVBDC1oS1pTBDC1oS1pVBDC1oT1pTBDC1oT1pVBDC1pB1pTBDC1pB1pVBDC1pC1pTBDC1pC1pVBDC1pR1pSBDC1pR1p",
  "TBDC1pS1pTBDC1pU1pTBDC1pU1pVBDC1pY1pTBDC1pY1pVBDD1pO1qC1qFBDD1pO1qD1qFBDD1pO1qE1qFBDC1pF1pXB",
  "DC1pF1pYBDC1pH1pXBDC1pH1pYBDC1pI1pXBDC1pI1pYBDC1pB1pXBDC1pB1pYBDC1pC1pXBDC1pC1pYBDC1oV1pXBDC",
  "1oV1pYBDC1oU1pXBDC1oU1pYBDC1oW1pXBDC1oW1pYBDC1pD1pXBDC1pD1pYBDC1pE1pXBDC1pE1pYBDC1pC1oUBDC1p",
  "C1oVBDC1pC1oWBDC1pC1pTBDC1pC1oZBDC1pB1oZBDC1pD1oZBDC1pE1oZBDC1pF1pXBDC1pF1pYBDC1pH1pXBDC1pH1",
  "pYBDC1pI1pXBDC1pI1pYBDC1pB1pXBDC1pB1pYBDC1pC1pXBDC1pC1pYBDC1oV1pXBDC1oV1pYBDC1oU1pXBDC1oU1pY",
  "BDC1oW1pXBDC1oW1pYBDC1pD1pXBDC1pD1pYBDC1pE1pXBDC1pE1pYBDC1pC1oUBDC1pC1oVBDC1pC1oWBDC1pC1pTBD",
  "C1pC1oZBDC1pB1oZBDC1pD1oZBDC1pE1oZBDC1pC1oUBDC1pC1oVBDC1pC1oWBDC1pC1pTBDC1pB1pVBDC1pC1pVBDC1",
  "pF1pTBDC1pB1oUBDC1pB1oVBDC1pB1oWBDC1pC1oUBDC1pC1oVBDC1pC1oWBDC1pF1pTBDC1pG1pTCDC1oP1pZSABDD1",
  "oS1oU1pTCDD1oS1oV1oUBDD1oS1oV1pTBDD1oS1oW1pTBDD1oS1pT1oUBDD1oS1pT1oVBDD1oS1pT1oWCDD1oU1pT1oV",
  "BDD1oV1pT1pYBDD1oV1pT1pXBDD1pB1oV1oUBDD1pB1oU1oVBDD1pB1oU1pXCDD1pB1pT1oVBDD1pB1pT1oUCDD1pB1p",
  "T1pTCDD1pD1oV1oVBDD1pD1pT1pTCDD1pC1oV1pTBDD1pC1oU1pYCDD1pC1pT1oWCDD1pC1pT1pTBDD1pE1oV1pXCDD1",
  "pE1oW1pTCDD1pF1pT1oVBDD1pF1pT1pTBDD1pF1pT1pYBDD1pH1oU1pTCDD1pH1pT1pTBDD1pH1pT1pXBDD1pI1pT1pT",
  "BDD1pI1pT1pYBDD1pI1pT1pXCDD1pP1oW1pTBDD1pQ1pT1oVBDD1pQ1pT1pTBDD1pS1oV1pTBDD1pS1oV1pYBDD1pS1o",
  "V1pXCDD1pS1oU1oUCDD1pS1oW1pTCDD1pS1pT1oVBDD1pT1oV1oUBDD1pT1oV1pTBDD1pT1oV1pYBDD1pT1oU1oVBDD1",
  "pT1oU1pTBDD1pT1oW1oUBDD1pT1oW1pTCABDD1pT1oU1oWBDD1pV1pT1oUBDD1pV1pT1pTBDD1pU1oV1pTBDD1pU1oV1",
  "pXCDD1pU1oU1pTBDD1pU1oU1pXBDD1pU1pT1pYBDD1pU1pT1pXCDD1pY1pT1pTBDD1oQ1oW1pYBDD1oS1oU1pYBDD1oS",
  "1oU1pXBDD1oS1oW1pYBDD1oS1oW1pXBDD1oS1pT1pYBDD1oS1pT1pXBDD1oU1pT1pYBDD1oU1oV1pXBDD1oU1pT1pXBD",
  "D1pB1oW1pXBDD1pD1oV1pYBDD1pC1oV1pYBDD1pE1oV1pYBDD1pS1oU1pYBDD1pS1pT1pYBDD1pY1oV1pYBDD1pY1oU1",
  "pYBDD1pY1pT1pYBDD1pT1pT1pYBDD1pQ1pT1pYBDD1pU1oV1pYBDD1pQ1pT1oVBDD1pS1oV1pTBDD1pH1pT1pYBDD1pR",
  "1pT1pYBDD1pU1oU1oVBDD1pT1oW1pYBDD1pS1oU1pTBDD1pR1pT1pTBDD1pS1oU1pTBDD1pU1oU1oVBDD1oU1oV1pYBD",
  "D1oV1oU1pYBDD1pT1oU1pYBDD1pP1pT1pYBDD1oQ1oV1pYBDD1pR1pT1pTBDD1pH1oU1pTBDD1pD1pT1pTBDD1pB1oW1",
  "pYBDD1pU1oU1pYIA1GCBDD1pD1pS1vEBDD1pQ1pS1vEBDE1oP1pS1pS1pVBDE1oP1pR1oQ1oZBDE1pT1oV1pT1oXBDE1",
  "pD1pS1pH1pTBDE1oZ1pB1pW1pSBDE1pH1pS1pY1pVBDE1pW1pB1pS1pTBDD1pD1pS1pXBDS1pD1pS1pX1G1oP1pS1pS1",
  "pV1G1pH1pS1pY1pV1G1pW1pB1pS1pTBDI1oU1pS1G1oU1pS1oP1pS1pVBDE1oZ1uY1oP1pSDAQBB3uvVB34pZBCC3uuZ",
  "B3uxBB3uuVC34oVHCQABCB3diBB3diFB3uuPB3uuRC3uyZB3usTB3usRC34rPC34sBC34sRC34sZE34sVCAB3uwLB3uw",
  "JEDC1GtTB3uwPB3uwRB3uwTB3v0TB34uXCCB3uzXB3v0BB3uzTB3v2DB3dlBC3v1TB3uvNB3uvLC34uJB3v2PB3v2LC3",
  "v2FB3v2DB3v1BB3v0ZB3v1DBCB3uyXC3v3HB3v1HECBDC1G1pZBDC1pO1pZBDC1G1qABABDC1G1qBBCBDC1G1qCBDC1p",
  "O1qCBDC1G1qDBDC1pO1qDBDC1G1qEBDC1pO1qEBDC1G1qFBDC1pO1qFBDC1G1qGBDC1pO1qGC3rvDC3rvFC3rvHC3rvJ",
  "C3rvLB3rvNB3rvPC3rvRC3rvTB3rvVB3rvXC3rvZC3rwBB3rwDB3rwFC3rwHB3rwJB3rwLC3rwNB3rwPB3rwRC3rwTB3",
  "rwVB3rwXC3rwZB3rxBB3rxDC3rxFC3rxHC3rxJC3rxLC3rxNB3rxPB3rxRC3rxTB3rxVB3rxXC3rxZB3ryBB3ryDC3ry",
  "FB3ryHB3ryJC3ryLB3ryNB3ryPC3ryRB3ryTB3ryVC3ryXB3ryZB3rzBC3rzDB3rzFB3rzHB3rzJB3ryXB3ryZB3rzBC",
  "3rzDB3rzFB3rzHC3rzJB3rzLB3rzNC3rzPB3rzRB3rzTC3rzVB3rzXB3rzZC3s0BB3s0DB3s0FC3s0HB3s0JB3s0LC3s",
  "0NC3s0PC3s0RB3s0TB3s0VB3s0XCDC1pS1oKCDC1pS1oLCDC1pS1oNCDC1pS1oPCCBBBC1G3vfF1A3vcT1K3vfFC38zJ",
  "B3vlPC35fBB35gBB34wXB34xRB353ZB353XB353VB353TB353RB34zHB34zFB34zDB351ZB34xRB354RB354PB354NB3",
  "54LC354JB354HB354FB354DB354BB353ZB353XB353VB353TB353RB353PB353NB353JB353HB353FG353DB352ZB352",
  "VB352RB352NF352JB352HB352FG352DB352BB351VC358VBBC3mjHB3m6JB3mjJC3m6JD3mjNG3m6LB3miLD3mkBB3mi",
  "FK3mkDDCG3meJCCG3meNCCG3meRCCD3meVDCC3vmLB3vlVBDC1GtSB3vmLB3vmPB3e4FBCB3bqTE3dmRB3beZB3bbTRC",
  "MABC1AABCTABCCABCPACCOA1IC4TAFCDAEC1TADC3KABCNADCBA1VC1UA5AC1DADC1XAPC1CAEC1KAJC1EAFC1RAFC1E",
  "ABC1LAECOA1QC1O3G4OACCKAGC1K3GEC1KAEC1OAIC2AALCBAL3EBCP3EBCH3EBCC3EBCLABCPABCHABCCADC2AAMCbZ",
  "AJCWAKCIAYCBAC3ylTB3znPB3yqFB3yvRBCB3ypRB1eeLB3ypRB3ypVC3yvXB3jzVB3yvZB3yvPB3ypXB3yvHB3yvNB3",
  "yvTB3yrHB3zjZB3yrJB3yvNB3ytJC3yqNB3yvLB39uAB1gjTB3yvNB39tWB3ytFB39tUB3zoPC3yvHB3zzFB3yvFB39t",
  "MC3yvDB3yvBB3ysBB3ysHB1ehFB3ysJB3yuVB3bxPBCB3yuNC3ytFB3yuBD3zaTB39sGB39tS2RCGACCBABC1SABCCAD",
  "CBACCXABC2UAICJA1WCTABCCAFC1HADC1BAFC1BA1MC2EAECUACC1YABCCAFCIABCDABC1DACCDAECKAHCJAHC2MA1GC",
  "1NAECMAJC2CADC1DACC1BAFC1AAHCEAMCHA3CC2VA2DC1Z5CNC1ZAHC1UAICKAGCQAW2QDC1DAICCA8AC1FABC1QABCD",
  "ACCCAQCGAICJA1HC1UAIC1QAWC1AA1MC1CAUCXAJC3AAEC1KAJC2KABCFANCZAHCKAGC2BABCSAIC1NAJC3SABCUALCS",
  "ABC1VA2KCHABCBABCEABCPABCLAGC2HAFCKAGCEABCIACCCACCWABCHABCCABCFABCKACCCACCDACCBAGCBAFCHACCHA",
  "DCFALCKABCBACCBABC1MABCKABCBACCBABCEABCKABCCAICCA1DC3OABCFA1EC2UAICKA6KC2CACC1MA1IC2RALCKAGC",
  "NATC2GAGCKAGCUA1CC1BACCPAECXA7DC2IA3WC1G2Q1ZAMCIACCBACCIABCCABC1EABCCACCMAJCKA2SCIACC1UACCLA",
  "1BC2UAIC3FANC2VAHCKA3ICIA3KC1IAOCKAGCJABC1TABCOAKC1DADC1GACCWABCOA2VCHABCCABC1SADCBABCCABCJA",
  "ICKAGCGABCCABC1LABCCABCGAHCKAGC1SAECKA9MCZAHCRABC1PADC1DA3HCBAPC1YANCzNA3YC4HABCFALC7OA2tKC3",
  "VANC15GAQCWAKC49RAFCmLA7bDC2GA1uSClXAHC1FABCKAEC3DABCKAGC1EACCGAKC2SAKCKABCHABCVAFCTAgQC2GA7",
  "QC1G2Q2HAFCZ2GCCZA1SC2XAEC2FAHCRA2MCFALCHAJC7vYA1PC1GA3TC4LA9aRCEABCHABCCABCbFAPCBA1DCDACCBA",
  "OCEAICfGA2gUC4DAFCNADCJAHCKACCEAEB47GC8GA1A6zvPK701JDADCgUAGCXAPCRAPC1UACCXAJC4MA2IC9MAKC1NA",
  "CC2BABDC3j9V3jaJBDC3j9W3jaJBDD3j9W3jaJ3jaSBDD3j9W3jaJ3jaTBDD3j9W3jaJ3jaUBDD3j9W3jaJ3jaVBDD3j",
  "9W3jaJ3jaWOAIB2MABDC3jdP3jaJBDC3jdQ3jaJBDD3jdP3jaJ3jaSBDD3jdQ3jaJ3jaSBDD3jdP3jaJ3jaTBDD3jdQ3",
  "jaJ3jaT1QAVC2SA4SCUAMCUAMC3JAJCZA5FC1A73sR1A73uR1A73wRH73yRBCS73yR1A740R1A742RB744RBCC744RCC",
  "B744RCCC744RCCE744RBCI744RE746RBCB746RBCH746RBCL746R1A748R1A74aRC74cRBCE74cRCCI74cRBCH74cRBC",
  "1A74eRC74gRBCE74gRBCF74gRBCB74gRDCH74gRBC1A74iR1A74kR1A74mR1A74oR1A74qR1A74sR1A74uR1A74wR1A7",
  "4yR1A750R1A752R1A754R1A756RB74sRB748PCCR73fTB73gNH73fTB6mwHR73hTB73hRH73hTB6myRB73jLB73jHB73",
  "jFB73iJB73iVB73iZR73kFB73kZH73kFB6n0TR73mFB73mDH73mFB6n3DB73nXB73nTB73nRB73mVB73nHB73nLR73oR",
  "B73pLH73oRB6n5FR73qRB73qPH73qRB6n7PB73sJB73sFB73sDB73rHB73rTB73rXR73tDB73tXH73tDB6n9RR73vDB7",
  "3vBH73vDB6ncBB73wVB73wRB73wPB73vTB73wFB73wJR73xPB73yJH73xPB6neDR73zPB73zNH73zPB6ngNB741HB741",
  "DB741BB740FB740RB740VB73yRB73yTCCK75zJK760DK760XK761RK762LpCAPCFABCPA16MC1FAGCGA8FCHABCRACCH",
  "ABCCABCFAFCJ78dRD78dPL78dNB78dJC78dHB4rmRB782TB78cXB78cVB781TB786HB783XJ78gFC78gDC78fZB78fXG",
  "78fVC78fTB78aLB78fBB78fFB78eNB788TB4rtPB788L1HCBA4IC1TADCOACCKAECCAcIC1FARC2GAFCBAhWC1QA8GC1",
  "RAECBA7KC1FABCWAICCA8QCHABCEABCCABCPABC7PACCQA1PC1I2U1QAECKAECCAuFC2QA2YC2JA7MCC7euZB7euTB7e",
  "uPBCB7esVB7euPB7evBB7euJB7esZE7etPB7evDB7euTB7euFB7evFB7euHB7evRB7evNC7ewJB7ewFB7ewDB7evTB7e",
  "vRB7evPB7erRB7elXB7enXB7erVBCB7exLB7exFBCB7evHCCB7exNBCB7evLE7ewBB7exPB7exFB7ewRB7exRB7ewTBC",
  "B7exZC7eyVB7eyRBCB7eyFBCB7eyBGCB7ezRECB7ezZBCB7exXBCB7eyNBCB7eyNB7f0BB7ezRBCB7f0DB7ezFBCB7f0",
  "LCCB7f1DBCB7f0RBCB7f0NBCB7eqVBCB7ewTBCB7f2JB7f2DBCB7f0FCCB7f2LB7f1TB7f0JB7f0ZBCC7f0ZB7f2NB7f",
  "2DB7f1PB7f2PB7f1RBCB7f2XC7f3TB7f3PBCB7f3DB7f3BB7f2ZB7ezBBCB7evHBCC7f4VB7f4PB7f4LC7f2RB7f4LB7",
  "f4XB7f4FB7f2VBCD7f3LB7f4ZB7f4PB7f4BB7f5BB7f4DB7f5NB7f5JC7f6FB7f6BB7f5ZB7f5PB7f5NB7f5LFCB7f7H",
  "B7f7BB7f6XBCB7f5DB7f6XB7f7JB7f6RB7f5HBCD7f5XB7f7LB7f7BB7f6NB7f7NB7f6PB7f7ZB7f7VC7f8RB7f8NB7f",
  "8LB7f8BB7f7ZB7f7X2ACCAaKC1SAEC3WAMCPACCPABCPABC1LALCBDC1W1SBDC1X1SBDC1Y1SBDC1Z1SBDC2A1SBDC2B",
  "1SBDC2C1SBDC2D1SBDC2E1SBDC2F1SFABDD1O3T1PBDD1O3U1PBDD1O3V1PBDD1O3W1PBDD1O3X1PBDD1O3Y1PBDD1O3",
  "Z1PBDD1O4A1PBDD1O4B1PBDD1O4C1PBDD1O4D1PBDD1O4E1PBDD1O4F1PBDD1O4G1PBDD1O4H1PBDD1O4I1PBDD1O4J1",
  "PBDD1O4K1PBDD1O4L1PBDD1O4M1PBDD1O4N1PBDD1O4O1PBDD1O4P1PBDD1O4Q1PBDD1O4R1PBDD1O4S1PBDDd5K4Ld5",
  "LB7jqXB7jpVBDC3V3WBDC4P4SBA1A7jrLBDC4A4OBDC4F4OBDC4L3WBDC4L4LBDD4I4I4OBDC4P3V1AABDC4F3VBDC4F",
  "3WBDC4F4K1JABDC3W4C1DA2EC1AABDCd9Jd7NBDCdbNdbNB6trXNCB62oNB66hNB6amDB6trVB6dhRB67pXB5h1HB67o",
  "XB6dgDB60lTB5ulDB60wHB6bgJB647PB6bvHB60uVB6bkJB5nyVB5sfDB5fjRB67uHB6afFB5vqLB62kPB625XB6duBB",
  "6dtLB5dkVB655FB6dqXB6alHB62cLB5f5JB62qLB5q2BB5piZB6akDB5w2ZB606BB606FB5sfHB6bfTB69nNB5d2DECB",
  "DDd5Ks7Wd5LBDDd5KlcJd5LBDDd5KlhKd5LBDDd5Kp1Hd5LBDDd5KutXd5LBDDd5KqwDd5LBDDd5KwiDd5LBDDd5KmnX",
  "d5LBDDd5KrpVd5LHCB64aRB6aoHOCGA5YC11XADCRADCNADC8KAGCMAECBAPCMAEC2EAICKAGC1OAIC1EACCMAECCAOC",
  "JA1NCdGAICOACCNADCLADC2FABCBAECQACCMAECKAHC5RABC3OAK7pqXBA13PC19nCA1GC4oOACC66CACC7zLAPCnYA2",
  "mWCBacxPBacyBBacxLB3r1TBacbNBac5PBac4RBabzHBabqDBabnVBabhXBabjVBaqzBB3oaFBabaJBab9XBab8TBab7",
  "JB3owPBaqxNBab8VBab5ZB3otHBab5JBab4LBacoNBab3ZBab3JB1jxLBaayPBaaxPBaqvNBaatLBaasRBaapJBaapBB",
  "aqrTBaajBBaaiZBaagZBaafJCaaePBaadJBaa9PBaa9BBaa8LBaa6PBaa5XBaa5VBaa5XBaa5ZB3m7NB9ucFBaa0LBa9",
  "yXB3ljXBa9yDBa9xTBa9wFBa9kPBa9sNBa9rJBa9oZBa9kPBa9eFBa9cHBa97FBa96BBa93PBa93RBa92DBa90VBa90H",
  "Ba8zFBa89DBa8uDBa89FBa8oNBa8lXBab1DBa79HBa7vNBa7sRBa7qVBa80XBa7oDBa7oHBa7eXB3gfHBa79RBa79JBa",
  "78HBa76VBa76HBa71LB3fhBB3fcBBa6rBBa6nNBa6mRBa6sVBa6hZBapwNBapvNBa65TBa61RBa61TB3dsLBa5rRBa5q",
  "DBa5pBBa5oFB3d2ZBa5nLBa5mZBa3uBBa5kZBapmJBa5gJBa5fJBa59DBa5dDB3bkRBa4zHB3bkRBa4wDBa4wLBa4vFC",
  "a4nNBap9ZBa4lPBa4iJBa4gVBa4dNBap6LB39mLBap4PBa48JBa48FBa48BBa46PB1ahTBa42TB38pZB38qBB9kxNBa4",
  "0HBa40JBaozTB308RB2agPBa3vTBa3vDBaoxZBa3rRBa3nVBa3nDBa3kPBa3aFBaorTBaouDBa38ZB36rVBa35FBa2vJ",
  "Ba2vDBa2vBBa2vHBa2rVBa2qJBa2nRBa2oVBa2oBBa2kNBa2jBBa2iVBa2gXBa2gDBa2bDBa24TBa22DBa1sRB34iHBa",
  "1uHBa1zJBa1rDBa1pDBa1hTB341DBa1dDBa1kJBa1mPBaobNBa17ZBa16LBa14DBa17DBao7DBa0qRBa0oNB31tJBa0f",
  "NB9zuHBa07VBanuJBa02LBanvVBanyRBabkDBabjZB9zuHBa02BB9lsVBaj2TB9zsVB9zsPB9zsFB9znPB9zoNB2ztNB",
  "anrXB9zbXB9zkZB9z5HB9z1LB2zgXB9z0XB9z9NB9yqTBanmDB9ynJB9yfZB9yaPB9xwBB2yaBB9xsHBandFB9xnBB2x",
  "6RB9xjHBan9JB9xhDB9xdTC9xbTB2w5VB3caZB2vxPB9x0TB2uzDB9wsFB9wrFB9wzDB9wlTB9wiTB9weLB9wiRB9wfR",
  "B9wePB9wdRB2usLB9wkBB9w0VB9vwBBamtPB9vpBB9vpLB2tvNB9w5LB9vcVB2tkXB2thHB9v6HB9uxNB9uzRB9uzZBa",
  "mmXB9uwNB9usRB9utFB9upDB3pgHB9udPB2ryLB9u7BB2r9JB9twLB9tvNB9ttNB2pzDB9tpZB9toLB2pcFB2ovDB9t7",
  "BB9t5VBam3BB9t3ZBam2HBam2JB9srTB9sqFB9soRB9snFB9shZBalvFB9sbFB2mmVB9s9JB2mfXB9s5RB39xVB9rtNB",
  "2krZB2kqHB2kfPBaleTBaldXB9rcLB2k2LB2k2PB2jzRB2jxTC9r9PB9r9RB9r6LBalaXB9r1PBalaBBal3ZB2idBB9q",
  "mXB9qiFB9qdJBakyLB2h9JB9q2ZB2h0PB2gxJB9pyVB9prVBaktDB9plLB9pkTB9pkLB2fgLB2etNB2etPB9p8NBakdN",
  "B2e9VB9osDB9orZBakaZB2dtTB9o7VBak1XB9o6HB9o6TB9o4PB2c6RB9nxDBajuXB9npPB9nlDB9ngBBajrHB2arJB2",
  "apBBajoRB2adZB9msTB2a6JB9mqVB9mjDB9miJB29aZB295LB9mbPB28vJB9maNB30dTBajgDB9m5RB9lzNBajcFB9lv",
  "DBa6yBB27sTB27rTB30aLB309VB9lgPB9lgLB9e0RBaj5PB9l5VB9l6JB9l5BBabcRB9l3RB9l3PB9l2XB9kzVB25vLB",
  "9l0BB9kvVB9kqNB9kkXB9kvPB9kjVB9kgRB9k8DB9ksFB9kjDB9kjBB9khXB25dFB24pNB251DBaisTB9jwZB9jwXB9j",
  "uHB218NB9joLB23rPBaipLBaipFB23hPB22vLBaioRB9j6VB9j5ZB9j5FB9j5DB9j0HB9j2XB9isRB9iwDB9ikPB9iqX",
  "B9ilVB9ijVBaihJB9icZB9iaPBaieZB9i3LB9i3HB1zvBB9huNB9huBBaiaVB9hsBBarvDB1ymRB1y8PBai0RBai0BB9",
  "gwBB9gqFB9geFB9fyRB1wgZB9fsFB9fqPB9fjTB9fcTB1v3PB3oaJB9f6NB9f7TB9f3VB3ntXB9emLB9eeVB1rhNB1rf",
  "NB9doHB9dhFB9deVB1qrDB9deFB9csJC9cgFB9cnJB9buDB9bsBB1o5HB9azLBagjJB9awFB1ncHBagdJB9abVBa5jRB",
  "9a4PB1l9TB1ktLBag3JBag2VB99qLB1jrPBafyLB1jgZB99nLB99nNB99lHB1ivDB997FBafpBB991XB98sHB98qHB98",
  "lTBafdNB1fvXB980TB97dPB96zDBaeuFBaerXB96rFB1ctVBaerHB1cpTB1c5LB1bvLB961NBaekLB95wXB95wPB95wD",
  "B95vLB95uZB95sFB1a0N1lYC59ZAFC92OAl03YC9GB5tiUC"]

/-- The treatment of the given kind, and the numbers behind those that belong to it. -/
def treatment (kind : Nat) (numbers : List Nat) : Treatment × List Nat :=
  match kind with
  | 0 => (.kept, numbers)
  | 1 => (.ignored, numbers)
  | 2 => (.refused, numbers)
  | 3 => match numbers with
    | count :: rest => (.replaced (rest.take count), rest.drop count)
    | [] => (.refused, [])
  | kind =>
    let n := kind - 4
    (.shifted (if n % 2 = 0 then (n / 2 : Nat) else -((n / 2 : Nat) : Int) - 1), numbers)

theorem length_treatment_le (kind : Nat) (numbers : List Nat) :
    (treatment kind numbers).2.length ≤ numbers.length := by
  unfold treatment
  split
  · exact Nat.le_refl _
  · exact Nat.le_refl _
  · exact Nat.le_refl _
  · split
    · simp only [List.length_drop, List.length_cons]
      omega
    · exact Nat.le_refl _
  · exact Nat.le_refl _

def treatmentRuns (numbers : List Nat) : List (Nat × Treatment) :=
  match numbers with
  | length :: kind :: rest =>
    let next := treatment kind rest
    (length, next.1) :: treatmentRuns next.2
  | _ => []
termination_by numbers.length
decreasing_by
  have := length_treatment_le kind rest
  simp only [List.length_cons]
  omega

def treatments : Unicode.StepMap Treatment :=
  .ofRuns (treatmentRuns (Unicode.unpack packedTreatments))

end RunLog.Url.Idna
