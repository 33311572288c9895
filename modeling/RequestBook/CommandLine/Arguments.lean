namespace RequestBook.CommandLine

inductive Command
  | lint : String → Command
  /-- the file and the line of the request, with the options for raw output and for no headers -/
  | request : String → Nat → Bool → Bool → Command
  deriving DecidableEq

structure Invocation where
  settingsFile : Option String
  noColor : Bool
  command : Command
  deriving DecidableEq

inductive Refusal
  | usage : Refusal
  | help : Refusal
  | version : Refusal
  deriving DecidableEq

inductive Level
  | program : Level
  | lint : Level
  | request : Level
  | help : Level
  deriving DecidableEq

structure Progress where
  level : Level
  settingsFile : Option String
  noColor : Bool
  /-- the same two options before the name of the command -/
  outerSettingsFile : Option String
  outerNoColor : Bool
  raw : Bool
  noHeaders : Bool
  operands : List String
  awaiting : Bool
  onlyOperands : Bool
  deriving DecidableEq

namespace Progress

def start : Progress :=
  { level := .program
    settingsFile := none
    noColor := false
    outerSettingsFile := none
    outerNoColor := false
    raw := false
    noHeaders := false
    operands := []
    awaiting := false
    onlyOperands := false }

def enter (p : Progress) (level : Level) : Progress :=
  { p with
    level := level
    outerSettingsFile := p.settingsFile
    outerNoColor := p.noColor
    settingsFile := none
    noColor := false }

def greatestLine : Nat := 18446744073709551615

def lineNumber? (s : String) : Option Nat :=
  let digits := match s.toList with
    | '+' :: rest => rest
    | all => all
  if digits.isEmpty || !digits.all Char.isDigit then none
  else
    let n := digits.foldl (fun n c => 10 * n + (c.toNat - '0'.toNat)) 0
    if n ≤ greatestLine then some n else none

def setSettingsFile (p : Progress) (file : String) : Except Refusal Progress :=
  if file.isEmpty || p.settingsFile.isSome then .error .usage
  else .ok { p with settingsFile := some file, awaiting := false }

def addOperand (p : Progress) (operand : String) : Except Refusal Progress :=
  let allowed : Bool :=
    match p.level, p.operands.length with
    | .lint, 0 => !operand.isEmpty
    | .request, 0 => !operand.isEmpty
    | .request, 1 => (lineNumber? operand).isSome
    | _, _ => false
  if allowed then .ok { p with operands := p.operands ++ [operand] } else .error .usage

def turnOn (isOn : Bool) (p : Progress) : Except Refusal Progress :=
  if isOn then .error .usage else .ok p

def addOption (p : Progress) (name : String) (value : Option String) : Except Refusal Progress :=
  match name, value, p.level with
  | "config", some file, _ => p.setSettingsFile file
  | "config", none, _ =>
    if p.settingsFile.isSome then .error .usage else .ok { p with awaiting := true }
  | "no-color", none, _ => turnOn p.noColor { p with noColor := true }
  | "help", none, _ => .error .help
  | "version", none, .program => .error .version
  | "raw", none, .request => turnOn p.raw { p with raw := true }
  | "no-headers", none, .request => turnOn p.noHeaders { p with noHeaders := true }
  | _, _, _ => .error .usage

def addLetter (p : Progress) (letter : Char) : Except Refusal Progress :=
  if letter = 'h' then .error .help
  else if letter = 'V' ∧ p.level = .program then .error .version
  else .error .usage

def splitOption (s : List Char) : String × Option String :=
  let name := s.takeWhile (· != '=')
  match s.drop name.length with
  | _ :: value => (String.ofList name, some (String.ofList value))
  | [] => (String.ofList name, none)

def levelOf? (name : String) : Option Level :=
  match name with
  | "lint" => some .lint
  | "request" => some .request
  | "help" => some .help
  | _ => none

def addPlain (p : Progress) (arg : String) : Except Refusal Progress :=
  if p.awaiting then p.setSettingsFile arg
  else if p.level = .program then
    match levelOf? arg with
    | some level => .ok (p.enter level)
    | none => .error .usage
  else p.addOperand arg

def step (p : Progress) (arg : String) : Except Refusal Progress :=
  if p.level = .help then .ok { p with operands := p.operands ++ [arg] }
  else if p.onlyOperands then p.addOperand arg
  else
    match arg.toList with
    | ['-', '-'] => if p.awaiting then .error .usage else .ok { p with onlyOperands := true }
    | '-' :: '-' :: option =>
      if p.awaiting then .error .usage
      else p.addOption (splitOption option).1 (splitOption option).2
    | '-' :: letter :: _ => if p.awaiting then .error .usage else p.addLetter letter
    | _ => p.addPlain arg

def command? (p : Progress) : Option Command :=
  match p.level, p.operands with
  | .lint, [file] => some (.lint file)
  | .request, [file, line] =>
    (lineNumber? line).map fun n => .request file n p.raw p.noHeaders
  | _, _ => none

def finish (p : Progress) : Except Refusal Invocation :=
  if p.awaiting then .error .usage
  else if p.level = .help then
    let known := match p.operands with
      | [] => true
      | [name] => (levelOf? name).isSome
      | _ => false
    .error (if known then .help else .usage)
  else
    match p.command? with
    | some command =>
      .ok ⟨p.settingsFile.or p.outerSettingsFile, p.noColor || p.outerNoColor, command⟩
    | none => .error .usage

end Progress

def readArguments (args : List String) : Except Refusal Invocation := do
  let p ← args.foldlM Progress.step Progress.start
  p.finish

end RequestBook.CommandLine
