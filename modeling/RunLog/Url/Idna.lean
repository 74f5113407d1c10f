import RunLog.Unicode.Bidi
import RunLog.Unicode.Category
import RunLog.Unicode.Composition
import RunLog.Unicode.Joining
import RunLog.Url.Idna.Mapping
import RunLog.Url.Punycode

namespace RunLog.Url.Idna

def isForbiddenAscii (c : Char) : Bool :=
  c.toNat ≤ 0x20 || c = '#' || c = '/' || c = ':' || c = '<' || c = '>' || c = '?' || c = '@' ||
    c = '[' || c = '\\' || c = ']' || c = '^' || c = '|' || c = '%' || c.toNat = 0x7F

/-- The code points that stand for one in a domain name; none if no domain name holds it. -/
def mapCode? (n : Nat) : Option (List Nat) :=
  match treatments.get? n with
  | some .kept => some [n]
  | some .ignored => some []
  | some (.replaced codes) => some codes
  | some (.shifted distance) => some [((n : Int) + distance).toNat]
  | some .refused | none => none

def normalize? (name : List Char) : Option (List Nat) := do
  let mapped ← name.mapM fun c => mapCode? c.toNat
  return Unicode.Composition.composed mapped.flatten

def labels : List Nat → List (List Nat)
  | [] => [[]]
  | n :: rest =>
    if n = '.'.toNat then [] :: labels rest
    else match labels rest with
      | [] => [[n]]
      | label :: more => (n :: label) :: more

def joins (types : List String) (n : Nat) : Bool := types.contains (Unicode.Joining.ofCode n)

/-- A character that joins nothing stands well behind a virama, and between two letters of which the
first joins what follows it and the second what precedes it. -/
def joinerFits (reversedBefore after : List Nat) : Bool :=
  let transparent := joins ["T"]
  (match (reversedBefore.dropWhile transparent).head? with
    | some n => joins ["L", "D"] n
    | none => false) &&
  match (after.dropWhile transparent).head? with
  | some n => joins ["R", "D"] n
  | none => false

def joinersFit (reversedBefore : List Nat) : List Nat → Bool
  | [] => true
  | n :: rest =>
    let afterVirama := match reversedBefore.head? with
      | some m => Unicode.Composition.combiningClass m = 9
      | none => false
    let fits :=
      if n = 0x200D then afterVirama
      else if n = 0x200C then afterVirama || joinerFits reversedBefore rest
      else true
    fits && joinersFit (n :: reversedBefore) rest

def isKept (n : Nat) : Bool :=
  match treatments.get? n with
  | some .kept => !isForbiddenAscii (Char.ofNat n)
  | _ => false

/-- Is a label made of code points that labels hold, does it begin with a letter instead of a mark,
and do its joiners fit? -/
def isLabel (label : List Nat) : Bool :=
  label.all isKept &&
    (match label.head? with
      | some n => !Unicode.Category.isIn ["Mc", "Me", "Mn"] n
      | none => true) &&
    joinersFit [] label

def punycodeMark : List Nat := "xn--".toList.map Char.toNat

/-- The label that a label stands for. What Punycode stands for must be a label outside ASCII in its
normal form. -/
def plainLabel? (label : List Nat) : Option (List Nat) :=
  if punycodeMark.isPrefixOf label then do
    let code := label.drop punycodeMark.length
    if code.any (128 ≤ ·) then none
    let plain := (← Punycode.decode? (code.map Char.ofNat)).map Char.toNat
    if plain.all (· < 128) || Unicode.Composition.composed plain ≠ plain || !isLabel plain then none
    else some plain
  else if isLabel label then some label
  else none

/-- Is the bidirectional class of a code point one of the given ones? -/
def hasDirection (classes : List String) (n : Nat) : Bool :=
  classes.contains (Unicode.Bidi.ofCode n)

/-- Does a label hold something that is written from right to left? -/
def hasRightToLeft (label : List Nat) : Bool := label.any (hasDirection ["R", "AL", "AN"])

/-- A label keeps to one direction: that of its first character, which a label never leaves, and in
which it ends but for marks. Digits of two kinds do not mix. -/
def keepsDirection (label : List Nat) : Bool :=
  match label with
  | [] => true
  | first :: rest =>
    let last := ((first :: rest).reverse.dropWhile (hasDirection ["NSM"])).head?.getD first
    if hasDirection ["L"] first then
      rest.all (hasDirection ["L", "EN", "ES", "CS", "ET", "ON", "BN", "NSM"]) &&
        hasDirection ["L", "EN"] last
    else if hasDirection ["R", "AL"] first then
      rest.all (hasDirection ["R", "AL", "AN", "EN", "ES", "CS", "ET", "ON", "BN", "NSM"]) &&
        hasDirection ["R", "AL", "EN", "AN"] last &&
        !(rest.any (hasDirection ["EN"]) && rest.any (hasDirection ["AN"]))
    else false

/-- No label is longer than this where it has to be written in Punycode. -/
def maximalLength : Nat := 1000

def asciiLabel? (label : List Nat) : Option (List Char) :=
  let chars := label.map Char.ofNat
  if label.all (· < 128) then some chars
  else if maximalLength < label.length then none
  else some ("xn--".toList ++ Punycode.encode chars)

def joinLabels : List (List Char) → List Char
  | [] => []
  | [label] => label
  | label :: rest => label ++ '.' :: joinLabels rest

/-- A domain name in ASCII; none if it is no domain name. -/
def toAscii? (domain : List Char) : Option (List Char) := do
  let plain ← (labels (← normalize? domain)).mapM plainLabel?
  if plain.any hasRightToLeft && !plain.all keepsDirection then none
  let ascii ← plain.mapM asciiLabel?
  return joinLabels ascii

end RunLog.Url.Idna
