import RequestBook.Unicode.Composed
import RequestBook.Url.HostForm.Table

namespace RequestBook.Url

open RequestBook.Unicode

def replacement (c : Char) : List Char :=
  match Row.find? shifted c, Row.find? replaced c, capitalPairs.find? c with
  | some row, _, _ => row.values.map fun n => Char.ofNat (n + (c.toNat - row.range.1))
  | none, some row, _ => row.values.map Char.ofNat
  | none, none, some range =>
    [if (c.toNat - range.1) % 2 = 0 then Char.ofNat (c.toNat + 1) else c]
  | none, none, none => [c]

def hostForm? (c : Char) : Option (List Char) :=
  if c.toNat < 0x80 then some [c.toLower]
  else if refused.holds c then none
  else if ignored.holds c then some []
  else some (replacement c)

def nameForm? (s : List Char) : Option (List Char) :=
  (s.mapM hostForm?).map fun forms => compose forms.flatten

def isNameForm (s : List Char) : Bool :=
  s.all (fun c => hostForm? c == some [c]) && compose s == s

end RequestBook.Url
