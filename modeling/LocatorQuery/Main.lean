import LocatorQuery.Command.Run

/-! The command line. -/
namespace LocatorQuery

/-- What a file holds, or why it cannot be read. -/
def readPath (path : String) : IO (Except FileFault String) := do
  try
    let bytes ← IO.FS.readBinFile path
    match String.fromUTF8? bytes with
    | some text => return .ok text
    | none => return .error .notUtf8
  catch e =>
    match e with
    | .inappropriateType _ 20 _ => return .error .notDirectory
    | .inappropriateType .. => return .error .directory
    | .invalidArgument .. => return .error .nameTooLong
    | .permissionDenied .. => return .error .denied
    | _ => return .error .absent

/-- Bytes up to the end of a stream. -/
partial def readAll (stream : IO.FS.Stream) (read : ByteArray) : IO ByteArray := do
  let chunk ← stream.read 65536
  if chunk.isEmpty then return read else readAll stream (read ++ chunk)

end LocatorQuery

open LocatorQuery

def main (args : List String) : IO UInt32 := do
  let names := ["LOCQ_DEFAULT_PAGE_SIZE", "LOCQ_LOOKUP_LIMIT", "LOCQ_STRICT_LOCATORS", "LOCQ_LOG"]
  let given ← names.mapM fun name => return (name, ← IO.getEnv name)
  let env := Environment.ofVariables fun name => (given.lookup name).join
  let invocation := Invocation.ofArguments args
  let paths := match invocation with
    | .command c => c.paths
    | _ => []
  let contents ← paths.mapM fun path => return (path, ← readPath path)
  let files : Files := fun path => (contents.lookup path).getD (.error .absent)
  let input ← match invocation with
    | .command (.serve _) => readAll (← IO.getStdin) .empty
    | _ => pure .empty
  let outcome := invocation.run env files input.data.toList
  (← IO.getStdout).putStr outcome.stdout
  (← IO.getStderr).putStr outcome.stderr
  return outcome.exitCode.toUInt32
