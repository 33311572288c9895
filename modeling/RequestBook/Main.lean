import RequestBook.CommandLine.Run

namespace RequestBook.CommandLine

def readFailureOf (e : IO.Error) : ReadFailure :=
  match e with
  | .inappropriateType _ code _ => if code = 20 then .notDirectory else .isDirectory
  | _ => .notFound

def readFile (name : String) : IO (Except ReadFailure String) := do
  try
    return decode (← IO.FS.readBinFile name)
  catch e =>
    return .error (readFailureOf e)

end RequestBook.CommandLine

open RequestBook.CommandLine in
def main (args : List String) : IO UInt32 := do
  let files ← (filesOf args).mapM fun name => do return (name, ← readFile name)
  let standard ←
    if readsStandard args then do
      let input ← IO.getStdin
      pure (decode (← input.readBinToEnd))
    else pure (.ok "")
  let outcome := run ⟨standard, fun name => (files.lookup name).getD (.error .notFound)⟩ args
  IO.print outcome.output
  IO.eprint outcome.errors
  return UInt32.ofNat outcome.exit
