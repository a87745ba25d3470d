import RoutePattern.CommandLine.Run

/-! # The program

Reads the file that a command needs, runs the command and writes its report.
-/

namespace RoutePattern

open CommandLine

def readFile (name : String) : IO File := do
  let handle ← (IO.FS.Handle.mk name .read).toBaseIO
  match handle with
  | .error (.noFileOrDirectory ..) => return .missing
  | .error _ => return .unreadable
  | .ok handle =>
    match ← handle.readBinToEnd.toBaseIO with
    | .error _ => return .unreadable
    | .ok content => return .bytes content.toList

end RoutePattern

open RoutePattern CommandLine in
def main (args : List String) : IO UInt32 := do
  let request := Request.read (args.map String.toList)
  let file ← match request with
    | .run c =>
      match c.file? with
      | some name => readFile (String.ofList name)
      | none => pure .missing
    | _ => pure .missing
  let report := request.report fun _ => file
  (← IO.getStdout).putStr (String.ofList report.output)
  if let some error := report.error then
    (← IO.getStderr).putStrLn (String.ofList error)
  if request == .misuse then
    (← IO.getStderr).putStr Help.overview
  return report.exitCode.toUInt32
