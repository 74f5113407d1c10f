import RunLog.Unicode.Category
import RunLog.Unicode.Property

namespace RunLog.Text

def unseenCategories : List String := ["Cc", "Cf", "Cn", "Co", "Cs", "Zl", "Zp", "Zs"]

def isVisible (c : Char) : Bool :=
  c = ' ' || !(Unicode.Category.isIn unseenCategories c.toNat ||
    Unicode.Property.hasNamed "graphemeextend" c.toNat)

def quotedChar (c : Char) : List Char :=
  match c with
  | '\x00' => ['\\', '0']
  | '\t' => ['\\', 't']
  | '\r' => ['\\', 'r']
  | '\n' => ['\\', 'n']
  | '"' => ['\\', '"']
  | '\\' => ['\\', '\\']
  | c =>
    if isVisible c then [c]
    else '\\' :: 'u' :: '\x7b' :: Nat.toDigits 16 c.toNat ++ ['\x7d']

/-- A text in quotes, as it is shown to a reader: what would not be seen, or would change what stands before
it, is written as an escape. -/
def quoted (s : String) : String :=
  String.ofList ('"' :: s.toList.flatMap quotedChar ++ ['"'])

end RunLog.Text
