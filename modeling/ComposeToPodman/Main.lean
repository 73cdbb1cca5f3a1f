import ComposeToPodman.Program.Run

/-! The program on the file system of the machine. -/
namespace ComposeToPodman.Program

/-- The fault that an error of the system is; the numbers of the two folder faults tell them apart. -/
def faultOf : IO.Error → FileFault
  | .noFileOrDirectory .. => .missing
  | .alreadyExists .. => .exists
  | .permissionDenied .. => .denied
  | .inappropriateType _ 21 _ => .isDirectory
  | .inappropriateType .. => .notDirectory
  | e => .other (toString e)

def attemptIO (action : IO α) : IO (Except FileFault α) := do
  try return .ok (← action)
  catch e => return .error (faultOf e)

/-- What is read is text only when its bytes are UTF-8. -/
def readText (bytes : IO ByteArray) : IO (Except FileFault String) := do
  match ← attemptIO bytes with
  | .error fault => return .error fault
  | .ok bytes => return (String.fromUTF8? bytes).elim (.error .notText) .ok

/-- The folder alone is tried first: a file on the way to it is a fault of its own. -/
def createFolder (path : String) : IO Unit := do
  try IO.FS.createDir path
  catch
    | e@(.inappropriateType ..) => throw e
    | _ => IO.FS.createDirAll path

def machine : Host IO where
  standardInput := do readText (← IO.getStdin).readBinToEnd
  readFile path := readText (IO.FS.readBinFile path)
  createDirectory path := attemptIO (createFolder path)
  writeFile path text := attemptIO (IO.FS.writeFile path text)

end ComposeToPodman.Program

open ComposeToPodman.Program in
def main (arguments : List String) : IO UInt32 := do
  let report ← (Request.ofArguments arguments).run machine
  (← IO.getStderr).putStr report.errors
  (← IO.getStdout).putStr report.output
  return report.code.toUInt32
