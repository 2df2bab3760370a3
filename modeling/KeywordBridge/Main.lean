import KeywordBridge.CommandLine.Run

/-!
# The program

The program takes its command line, reads what the command needs, and prints the
outcome. Starting the service is left to a host that can open sockets.
-/

namespace KeywordBridge

namespace CommandLine

/-- The number by which the operating system knows that a directory was read as a
file. -/
def directoryCode : UInt32 := 21

/-- Look for the node at a path. -/
def look (path : Text) : IO Found := do
  try
    let content ← IO.FS.readBinFile (String.ofList path)
    return .ok (.file content.toList)
  catch
    | .noFileOrDirectory .. => return .error .missing
    | .inappropriateType _ code _ =>
        return if code = directoryCode then .ok .empty else .error .notADirectory
    | cause => throw cause

/-- Read the standard input to its end. -/
def readInput : IO Text := do
  let octets ← (← IO.getStdin).readBinToEnd
  return Utf8.decode octets.toList

/-- Print an outcome. -/
def Outcome.print (outcome : Outcome) : IO UInt32 := do
  IO.print (String.ofList outcome.stdout)
  IO.eprint (String.ofList outcome.stderr)
  if outcome.served.isSome then
    IO.eprintln "isipython: a host has to start the service"
  return outcome.exit.toUInt32

/-- Carry out a command. -/
def Arguments.perform (arguments : Arguments) : IO UInt32 := do
  let input ← match arguments.reading with
    | .standardInput => readInput
    | _ => pure []
  let found ← match arguments.reading with
    | .program path | .plainText path => look path
    | _ => pure (.error .missing)
  match run Table.default input (fun _ => found) arguments with
  | .ok outcome => outcome.print
  | .error cause =>
      IO.eprintln (String.ofList cause.message)
      return 1

end CommandLine

end KeywordBridge

/-- Carry out what the command line asks for. -/
def main (texts : List String) : IO UInt32 := do
  match KeywordBridge.CommandLine.parse (texts.map String.toList) with
  | .ok arguments => arguments.perform
  | .error stop =>
      IO.eprintln (String.ofList stop.complaint)
      return stop.exit.toUInt32
