namespace Retrieval.Text

/-- The characters with the Unicode property White_Space. -/
def isSpace (char : Char) : Bool :=
  let code := char.toNat
  (9 ≤ code && code ≤ 13) || code == 0x20 || code == 0x85 || code == 0xA0 || code == 0x1680 ||
    (0x2000 ≤ code && code ≤ 0x200A) || code == 0x2028 || code == 0x2029 || code == 0x202F ||
    code == 0x205F || code == 0x3000

def trimStartChars (chars : List Char) : List Char :=
  chars.dropWhile isSpace

def trimEndChars (chars : List Char) : List Char :=
  (chars.reverse.dropWhile isSpace).reverse

def trimChars (chars : List Char) : List Char :=
  trimEndChars (trimStartChars chars)

def trim (text : String) : String :=
  String.ofList (trimChars text.toList)

def isBlank (text : String) : Bool :=
  text.toList.all isSpace

def hasSpace (text : String) : Bool :=
  text.toList.any isSpace

end Retrieval.Text
