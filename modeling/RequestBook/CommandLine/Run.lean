import RequestBook.CommandLine.Arguments
import RequestBook.CommandLine.Output
import RequestBook.Draft
import RequestBook.Lint.Report
import RequestBook.Unicode.Printable
import RequestBook.Url.Absolute

namespace RequestBook

def Draft.build (settings : Settings) (scope : Scope) : Except BuildError Draft :=
  Draft.buildWith Url.isAbsolute settings scope

namespace CommandLine

inductive ReadFailure
  | notFound : ReadFailure
  | isDirectory : ReadFailure
  | notDirectory : ReadFailure
  | notText : ReadFailure
  deriving DecidableEq

def ReadFailure.message : ReadFailure → String
  | .notFound => "No such file or directory (os error 2)"
  | .isDirectory => "Is a directory (os error 21)"
  | .notDirectory => "Not a directory (os error 20)"
  | .notText => "stream did not contain valid UTF-8"

def decode (bytes : ByteArray) : Except ReadFailure String :=
  match String.fromUTF8? bytes with
  | some text => .ok text
  | none => .error .notText

structure Inputs where
  standard : Except ReadFailure String
  file : String → Except ReadFailure String

def standardName : String := "-"

def Inputs.read (inputs : Inputs) (name : String) : Except ReadFailure String :=
  if name = standardName then inputs.standard else inputs.file name

structure Outcome where
  exit : Nat
  output : String
  errors : String
  deriving DecidableEq

inductive Failure
  | unreadableSettings : String → ReadFailure → Failure
  | settingsNotJson : String → Json.ReadError → Failure
  | invalidSettings : Settings.Error → Failure
  | unreadable : String → ReadFailure → Failure
  | notABook : String → SyntaxError → Failure
  | unresolved : ResolveError → Failure
  | notBuilt : BuildError → Failure

def escapeNameChar (c : Char) : List Char :=
  match c with
  | '"' => ['\\', '"']
  | '\\' => ['\\', '\\']
  | '\n' => ['\\', 'n']
  | '\r' => ['\\', 'r']
  | '\t' => ['\\', 't']
  | '\x00' => ['\\', '0']
  | c =>
    if Unicode.isPrintable c then [c]
    else "\\u".toList ++ '\x7b' :: Nat.toDigits 16 c.toNat ++ ['\x7d']

def quotedName (name : String) : String :=
  String.ofList ('"' :: name.toList.flatMap escapeNameChar ++ ['"'])

def Failure.message : Failure → String
  | .unreadableSettings name _ => "Failed to read settings from " ++ quotedName name
  | .settingsNotJson name _ => "Invalid JSON in " ++ quotedName name
  | .invalidSettings e => Settings.loadMessage e
  | .unreadable name _ => "Failed to read " ++ quotedName name
  | .notABook name e => name ++ ": " ++ e.message
  | .unresolved e => e.message
  | .notBuilt e => e.message

def Failure.cause? : Failure → Option String
  | .unreadableSettings _ e => some e.message
  | .settingsNotJson _ e => some e.message
  | .invalidSettings _ => none
  | .unreadable _ e => some e.message
  | .notABook _ _ => none
  | .unresolved _ => none
  | .notBuilt e => some e.message

def indentLines (s : String) : String :=
  String.ofList (s.toList.flatMap fun c => if c = '\n' then "\n    ".toList else [c])

def Failure.report (f : Failure) : String :=
  "Error: " ++ f.message ++
    (match f.cause? with
      | some cause => "\n\nCaused by:\n    " ++ indentLines cause
      | none => "") ++ "\n"

def settingsOf (inputs : Inputs) (invocation : Invocation) : Except Failure Settings := do
  let file ←
    match invocation.settingsFile with
    | none => .ok none
    | some name => do
      let text ← (inputs.file name).mapError (.unreadableSettings name)
      let json ← (Json.parse text).mapError (.settingsNotJson name)
      .ok (some json)
  let settings ← (Settings.load file).mapError .invalidSettings
  .ok (if invocation.noColor then settings.update fun s => { s with color := false } else settings)

def runLint (inputs : Inputs) (name : String) : Except Failure Outcome := do
  let source ← (inputs.read name).mapError (.unreadable name)
  let diagnostics := Lint.report source
  .ok ⟨if diagnostics.isEmpty then 0 else 1, diagnosticsText diagnostics, ""⟩

def runRequest (inputs : Inputs) (settings : Settings) (name : String) (line : Nat) :
    Except Failure Outcome := do
  let source ← (inputs.read name).mapError (.unreadable name)
  let book ← (Book.parse source).mapError (.notABook name)
  let scope ← (Scope.resolve book line).mapError .unresolved
  let draft ← (Draft.build settings scope).mapError .notBuilt
  .ok ⟨0, draftText settings draft, ""⟩

def runInvocation (inputs : Inputs) (invocation : Invocation) : Except Failure Outcome := do
  let settings ← settingsOf inputs invocation
  match invocation.command with
  | .lint name => runLint inputs name
  | .request name line raw noHeaders =>
    let settings := settings.update fun s =>
      { s with raw := s.raw || raw, headers := s.headers && !noHeaders }
    runRequest inputs settings name line

def versionText : String := "pie 0.2.0\n"

def usageText : String :=
  "Usage: pie [--config FILE] [--no-color] lint FILE\n" ++
    "       pie [--config FILE] [--no-color] request FILE LINE [--raw] [--no-headers]\n"

def run (inputs : Inputs) (args : List String) : Outcome :=
  match readArguments args with
  | .error .usage => ⟨2, "", usageText⟩
  | .error .help => ⟨0, usageText, ""⟩
  | .error .version => ⟨0, versionText, ""⟩
  | .ok invocation =>
    match runInvocation inputs invocation with
    | .ok outcome => outcome
    | .error f => ⟨1, "", f.report⟩

def filesOf (args : List String) : List String :=
  match readArguments args with
  | .error _ => []
  | .ok invocation =>
    let name := match invocation.command with
      | .lint name => name
      | .request name _ _ _ => name
    invocation.settingsFile.toList ++ (if name = standardName then [] else [name])

def readsStandard (args : List String) : Bool :=
  match readArguments args with
  | .error _ => false
  | .ok invocation =>
    match invocation.command with
    | .lint name => name == standardName
    | .request name _ _ _ => name == standardName

end CommandLine

end RequestBook
