import ScriptGraph.CommandLine

/-! The program: reads the file that is asked for, prints the answer and logs errors. -/

namespace ScriptGraph

def readFile? (path : String) : IO (Option ByteArray) := do
  try
    return some (← IO.FS.readBinFile path)
  catch _ => return none

/-- Ids that differ from run to run. -/
def freshIds : IO IdSource := do
  let bytes ← IO.getRandomBytes 16
  return .seeded (bytes.foldl (fun n b => n * 256 + b.toNat) 0)

def serve (request : Request) : IO UInt32 := do
  let content ← match request.file? with
    | some path => readFile? path
    | none => pure none
  let response := request.answer content (← freshIds)
  IO.print response.output
  if let some e := response.error then
    IO.eprintln ("ERROR " ++ CommandLine.programName ++ ": " ++ e)
  return UInt32.ofNat response.code

end ScriptGraph

def main (args : List String) : IO UInt32 := do
  match ScriptGraph.CommandLine.read args with
  | some request => ScriptGraph.serve request
  | none =>
    IO.eprint (ScriptGraph.CommandLine.helpText .program)
    return UInt32.ofNat ScriptGraph.CommandLine.misuse.code
