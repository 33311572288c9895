import RequestBook.Draft
import RequestBook.Json.Printer
import RequestBook.Lint.Diagnostic

namespace RequestBook.CommandLine

def numberMember (name : String) : Option Nat → List (String × Json)
  | some n => [(name, .number (.integer n))]
  | none => []

def severityName : Severity → String
  | .error => "error"
  | .warning => "warn"

def diagnosticJson (d : Diagnostic) : Json :=
  .object (numberMember "line" (some d.line) ++ numberMember "column" (some d.column) ++
    numberMember "endLine" d.endLine ++ numberMember "endColumn" d.endColumn ++
    [("message", .string d.message), ("type", .string (severityName d.severity))])

def diagnosticsText (ds : List Diagnostic) : String :=
  (Json.array (ds.map diagnosticJson)).pretty ++ "\n"

inductive Style
  | bold : Style
  | boldGreen : Style
  | cyan : Style
  deriving DecidableEq

def Style.code : Style → List Char
  | .bold => "\x1b[1m".toList
  | .boldGreen => "\x1b[1;32m".toList
  | .cyan => "\x1b[36m".toList

def resetCode : List Char :=
  "\x1b[0m".toList

/-- Puts the code of a style behind every reset in a text. -/
def restyle (code : List Char) : List Char → List Char
  | [] => []
  | c :: rest =>
    if resetCode.isPrefixOf (c :: rest) then
      resetCode ++ code ++ restyle code (rest.drop (resetCode.length - 1))
    else c :: restyle code rest
termination_by s => s.length
decreasing_by
  all_goals
    simp only [List.length_drop, List.length_cons]
    omega

def styled (color : Bool) (style : Style) (text : String) : String :=
  if color then
    String.ofList (style.code ++ restyle style.code text.toList ++ resetCode)
  else text

def headerLine (color : Bool) (header : String × String) : String :=
  styled color .cyan header.1 ++ ": " ++ header.2 ++ "\n"

def draftText (settings : Settings) (draft : Draft) : String :=
  if settings.raw then draft.toJson.pretty ++ "\n"
  else
    let color := settings.color
    let head :=
      styled color .boldGreen draft.method.name ++ " " ++ styled color .bold draft.url ++ "\n"
    let headers :=
      if settings.headers then String.join (draft.headers.entries.map (headerLine color)) else ""
    let body := match draft.body with
      | some text => "\n" ++ text ++ "\n"
      | none => ""
    head ++ headers ++ body

end RequestBook.CommandLine
