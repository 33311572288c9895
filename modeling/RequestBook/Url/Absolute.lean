import RequestBook.Url.Address
import RequestBook.Url.Domain

/-!
Whether a text is an absolute URL with a host: a scheme, and an authority whose parts are in order.
Schemes of the web always have an authority, whatever slashes stand before it; of the others only a
text with two slashes has one.
-/

namespace RequestBook.Url

inductive SchemeKind
  | web : SchemeKind
  | file : SchemeKind
  | other : SchemeKind
  deriving DecidableEq

def schemeKind (scheme : List Char) : SchemeKind :=
  let name := String.ofList (scheme.map Char.toLower)
  if ["http", "https", "ws", "wss", "ftp"].contains name then .web
  else if name = "file" then .file
  else .other

def isSchemeChar (c : Char) : Bool :=
  c.isAlphanum || c == '+' || c == '-' || c == '.'

def splitScheme? (s : List Char) : Option (List Char × List Char) :=
  if s.head?.any Char.isAlpha then
    match s.dropWhile isSchemeChar with
    | ':' :: rest => some (s.takeWhile isSchemeChar, rest)
    | _ => none
  else none

def SchemeKind.isSpecial (kind : SchemeKind) : Bool :=
  kind != .other

def isSlash (kind : SchemeKind) (c : Char) : Bool :=
  c == '/' || (kind.isSpecial && c == '\\')

def endsAuthority (kind : SchemeKind) (c : Char) : Bool :=
  isSlash kind c || c == '?' || c == '#'

def dropUser (s : List Char) : List Char :=
  (s.reverse.takeWhile (· != '@')).reverse

/-- The host at the beginning of an authority, and what follows it; a colon inside brackets does not
end it. -/
def splitHost (inside : Bool) : List Char → List Char × List Char
  | [] => ([], [])
  | c :: rest =>
    if c = ':' ∧ !inside then ([], c :: rest)
    else
      let inside := if c = '[' then true else if c = ']' then false else inside
      let (host, after) := splitHost inside rest
      (c :: host, after)

def isBracketed (host : List Char) : Bool :=
  host.getLast? == some ']' && isGroupAddress ((host.drop 1).dropLast)

def isWebHost (host : List Char) : Bool :=
  if host.head? == some '[' then isBracketed host
  else
    match domain? host with
    | none => false
    | some [] => false
    | some name => if endsInNumber name then isAddress name else true

def isForbiddenInHost (c : Char) : Bool :=
  "\x00\t\n\r #/:<>?@[\\]^|".toList.contains c

def isOpaqueHost (host : List Char) : Bool :=
  if host.head? == some '[' then isBracketed host else !host.any isForbiddenInHost

/-- Whether what follows a host is a colon and a number of 16 bits, or nothing. Digits may be
missing. -/
def isHostSuffix (s : List Char) : Bool :=
  match s with
  | [] => true
  | c :: rest =>
    let digits := rest.takeWhile Char.isDigit
    let after := rest.dropWhile Char.isDigit
    c == ':' && numeral 10 digits ≤ 65535 && after.head?.all (· == '\\')

def hasHost (kind : SchemeKind) (authority : List Char) : Bool :=
  let (host, suffix) := splitHost false (dropUser authority)
  let valid := if kind.isSpecial then isWebHost host else isOpaqueHost host
  !host.isEmpty && valid && isHostSuffix suffix

def isDrive : List Char → Bool
  | [letter, mark] => letter.isAlpha && (mark == ':' || mark == '|')
  | _ => false

def isDot (segment : List Char) : Bool :=
  [".", "%2e"].contains (String.ofList (segment.map Char.toLower))

def isDoubleDot (segment : List Char) : Bool :=
  ["..", ".%2e", "%2e.", "%2e%2e"].contains (String.ofList (segment.map Char.toLower))

/-- Whether a path ever begins with a drive while its segments are read, after those in `kept`, the
last first. A double dot removes the last segment unless it is a drive. -/
def beginsWithDrive (kept : List (List Char)) : List (List Char) → Bool
  | [] => false
  | segment :: rest =>
    if isDoubleDot segment then
      beginsWithDrive (if kept.head?.any isDrive then kept else kept.drop 1) rest
    else if isDot segment then beginsWithDrive kept rest
    else (kept.isEmpty && isDrive segment) || beginsWithDrive (segment :: kept) rest

def hasFileHost (s : List Char) : Bool :=
  let host := s.takeWhile fun c => !endsAuthority .file c
  let after := s.dropWhile fun c => !endsAuthority .file c
  let path := after.takeWhile fun c => c != '?' && c != '#'
  let path := path.map fun c => if c = '\\' then '/' else c
  !host.isEmpty && !isDrive host && isWebHost host &&
    domain? host != some "localhost".toList &&
    !beginsWithDrive [] (List.splitOn '/' (path.drop 1))

/-- A text without the characters that a URL does not count: control characters and spaces around
it, tabs and line ends in it. -/
def clean (s : List Char) : List Char :=
  let isOuter (c : Char) : Bool := c.toNat ≤ 0x20
  let trimmed := ((s.dropWhile isOuter).reverse.dropWhile isOuter).reverse
  trimmed.filter fun c => !(c == '\t' || c == '\n' || c == '\r')

def isAbsolute (text : String) : Bool :=
  match splitScheme? (clean text.toList) with
  | none => false
  | some (scheme, rest) =>
    let kind := schemeKind scheme
    let authorityOf (s : List Char) := s.takeWhile fun c => !endsAuthority kind c
    match kind with
    | .web => hasHost kind (authorityOf (rest.dropWhile (isSlash kind)))
    | .file =>
      match rest with
      | c :: d :: after => isSlash kind c && isSlash kind d && hasFileHost after
      | _ => false
    | .other =>
      match rest with
      | '/' :: '/' :: after => hasHost kind (authorityOf after)
      | _ => false

end RequestBook.Url
