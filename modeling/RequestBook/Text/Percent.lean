namespace RequestBook.Text

def isUnreserved (c : Char) : Bool :=
  c.isAlphanum || c == '-' || c == '_' || c == '.' || c == '~'

def hexCapital (n : Nat) : Char :=
  (Nat.digitChar n).toUpper

def percentByte (b : UInt8) : List Char :=
  ['%', hexCapital (b.toNat / 16), hexCapital (b.toNat % 16)]

def percentChar (c : Char) : List Char :=
  if isUnreserved c then [c] else (String.utf8EncodeChar c).flatMap percentByte

def percentEncode (s : String) : String :=
  String.ofList (s.toList.flatMap percentChar)

end RequestBook.Text
