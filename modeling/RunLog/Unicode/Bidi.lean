import RunLog.Unicode.StepMap

namespace RunLog.Unicode.Bidi

/-- The short names of the bidirectional classes, in the order in which the table numbers them. -/
def names : List String := ["AL", "AN", "B", "BN", "CS", "EN", "ES", "ET", "FSI", "L", "LRE",
  "LRI", "LRO", "NSM", "ON", "PDF", "PDI", "R", "RLE", "RLI", "RLO", "S", "WS"]

def packed : List String := [
  "JDBVBCBVBWBCODDCBVBWCODHFOBGBEBGCEKFBEGO1AJGO1AJEOGDBC1ADBEBOEHEOBJCOBDCOCHCFBOBJDOBFBJFOXJB",
  "O1FJBOhHJCOHJOOCJOOFJJOBJRO4INEJCOIJBOFJCOBJBO4GJBO5KJHN9WJBOCJCOBHBR1TNBRBNBRCNBRCNBRBN2ERG",
  "BCOBACHBABEBACOLN1WAVNKBBHCBDABN3XAHNBBBOGNCACNBOENCAKFXABN1EA1BN3NALNPA1RRJNCREODRBNYRENBRJ",
  "NBRDNBRFN1RRDNER1WACBGAIN1QAYNBB1GN2DJBNBJBNEJINEJBNDJHNKJCN1DJBN2GJBNEJENIJBNUJCNOJCHHJBHCJ",
  "BNCJCN2FJBNEJCNEJCNCJDNDJBN1EJCNDJBNLJCN2FJBNEJFNBJCNEJBNUJCNNJBHIJGNBJBN2GJBNCJBNBJENIJBNHJ",
  "CNLJCN1EJBN2JJBNMJBN1LJGOBHBOFJBNDJBN2DJBNBJDNFJDNBJENHJCNLJCNUJHOCJBN2GJBNPJCNUJCN1CJCN2FJC",
  "NEJENIJBNUJCN1DJBN2UJBNHJDNBJBN3MJBNCJHNEJBHHJIN3UJBNCJJNLJHN2VJCN1BJBNBJBNBJBNEO1ZJONBJFNBJ",
  "CNFJLNBJ1KNJJBN3YJENBJGNBJCNCJCNZJCNEJDNQJENNJBNCJCNGJBNPJBNrBJDN1WJKO3YJBOoPJBW1AJCO4NJDN1D",
  "JCN1EJCN1EJCN2MJCNBJHNIJBNCJLNHJBHBJBNSJKOGJLODNBDBN4NJCN1IJBN4OJDNEJCNJJBNGJDNEJBODJCO5WJ1I",
  "OXJCNCJBN2GJBNBJHNBJBNBJBNCJINGJKNCJBN1WJ1FN1XJEN1WJBNBJFNBJBNFJBN1OJJNMJCN1GJENCJCNBJDN2EJB",
  "NBJCNDJBNBJDN2GJINCJCN5WJDNBJNNBJHNEJBNGJBNDJCN7QJ2MNhDJBOBJDOLJDONJDONJDONJCOBJLWDDBJBRYOBW",
  "BCBKBSBPBMBUBEFHPOBE1AOBWGDBLBTBIBQGDBFDJGFCGDOBJKFCGDORJ1WH1HNPJCOBJEOBJCOKJBOBJDOFJGOBJBOB",
  "JBOBJBOEJBHLJCOEJFOFJEOCJQO1PJDOEJ5AOBGBHbEO2RJ1AOBJ5POZJLOVJ1OOUF3AJhIOBJdBO9WJoEOCJ1GOBJ4B",
  "O8VJGOEJDNHJHO4XJBN3SJ1GN3QO1IJ1AOBJ3LOMJ8GO1AJMOEJBWEODJZOJJENCJBOFJCOFJDO3LJCNCODJBO3MJBO7",
  "OJ1KO2FJCO1XJQO1CJDO1YJPOMJEO6LJEO3VJCO1FJBO71OJ2MOnoIJ2DOcOJDO3RJENBOKNCO1EJCN3CJCNOJ1IO3YJ",
  "BO4RJBNDJBNEJBNZJCNBJEOBNLJCH2GJEO2YJCN1AJSNNJBN1MJINZJLN1UJDN1WJBNCJENCJCN1NJBN2PJGNCJCNCJC",
  "NMJBNIJBN1VJBN1ZJBNBJDNCJCNFJCNBJBN1QJCNIJBN4LJCO4RJBNCJBNEJBNlnRJBRBNKRBG1MRjAASO4XABO1GDNA",
  "DOQNKOGJQN1GOBEBOBEBJBOBEJOBHCOCGDOBJBOCHBOEJ5NABDBJCODHFOBGBEBGCEKFBEGO1AJGO1AJLO4SJCHDOCHB",
  "JHOBJJDFOCD9XJBO2KJ2ZODJNODJBO3OJBN8SJBN1BF4SJFN18NJbBRBO8RRDNBRCNFREN1ORDNERBN6JRCN3ERHOhGR",
  "1KAENIAKBGAbCR1FB1SRCNTR2JADN1WRWALN1FASREN4SRBJBN2CJPNLJUOKJBNCJCNKJDN1XJENCJCNHJBN2JJDN1KJ",
  "FNBJIN2KJBNMJCN2AJJNKJENCJBN3RJDNCJBNBJCNGJBNCJBN6BJBNDJINVJCN2FJCNDJBN1LJHNDJFN7NJINCJDNBJB",
  "NXJBN3GJGNBJBNEJCNBJCN9EJENGJCNBJCN1BJCN3HJINCJBNBJCN1FJNO2KJBNBJBNCJGNBJBN3XJDNCJENBJFN9ZJJ",
  "NBJCN9WJCNBJBNEJBN5OJENCJCNEJBN1GJGNCJCN1OJGNCJENIJBNJJGNCJDN1UJNNBJCNfQJHNBJGN3GJWNCJHNBJCN",
  "BJCN4SJGNDJBNBJCNBJHNBJBN2UJCNDJBNBJBNdJJCNLJCN2AJFNFJBNBJBN5QJIOEHRO5jYJBNGJPNexQJFN2HJHN14",
  "IJBN2LJEN3BJBOBJBNkzKJCNBJED50UJ1UNCJXNkYJDNJJIDINCJHN1EJEN2HJCOVJ2OODNBO7EJ3JOyQJBO2FJBO2FJ",
  "BO2FJBO2FJBOKJ1YFjSJ2DNEJ1YNIJBNOJBNWJFNBJPN1gIJHNBJRNCJHNBJCNBJFN3WJBN6EJHNeLJBN2JJENPJBHiY",
  "JENuEJ8ARHN4FRHNuZR3CA2MR3CA6UR9GACOOA9WR1SOEJ3WOMJPOCJPOBJPOBJ1LOKJLFFO1FJBO2GJGO2JJBO6WJGO",
  "5YJ11WOEJRODJNODJ4POEJ3ROGJMOEJBOPJMOEJ2EOIJKOGJ1OOIJ1EOCJCO3AJdCOMJOOCJNODJJOHJ1UOBJHOIJOOE",
  "JJOHJJOHJ5ROBJ2DO1LJKF13OJCD1y0OJCD1y0OJCD1y0OJCD1y0OJCD1y0OJCD1y0OJCD1y0OJCD1y0OJCD1y0OJCD1",
  "y0OJCD1y0OJCD1y0OJ9YD9GN3uMD1tnAJCD1y0OJCD1y0OJCD"]

def table : StepMap Nat := numberMap packed

/-- The bidirectional class of a code point, by its short name. -/
def ofCode (n : Nat) : String := (((table.get? n).bind fun i => names[i]?).getD "")

end RunLog.Unicode.Bidi
