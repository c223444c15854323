import Interpolation.Backend.Libraries

/-!
The command line: resolves standard input to standard output.
-/
namespace Interpolation

/-- Bytes as the operating system gives them. -/
def RawText.ofBytes (bytes : ByteArray) : RawText :=
  if h : bytes.IsValidUTF8 then .unicode (.ofByteArray bytes h) else .other bytes h

def readFile? (path : String) : IO (Option (String × RawText)) := do
  try return some (path, .ofBytes (← IO.FS.readBinFile path)) catch _ => return none

/-- The files that exist under the given paths. -/
def readFiles (paths : List String) : IO Directory := do
  return ⟨(← paths.mapM readFile?).filterMap id⟩

/-- The variables of a block of assignments `NAME=value` that each end in a null byte. -/
def variablesOfBlock (block : List UInt8) : List (RawText × RawText) :=
  (block.splitOn 0).filterMap fun assignment =>
    let name := assignment.takeWhile (· ≠ 61)
    match assignment.drop name.length with
    | _ :: value => some (.ofBytes ⟨name.toArray⟩, .ofBytes ⟨value.toArray⟩)
    | [] => none

def processEnvironment : IO Environment := do
  let block ← IO.FS.readBinFile "/proc/self/environ"
  return .ofList (variablesOfBlock block.toList)

partial def readToEnd (stream : IO.FS.Stream) (read : ByteArray) : IO ByteArray := do
  let chunk ← stream.read 65536
  if chunk.isEmpty then return read else readToEnd stream (read ++ chunk)

/-- The files that may hold the settings of a run. -/
def settingsFiles (environment : Environment) : List String :=
  Directory.candidates Settings.commonName ++ Directory.candidates (Settings.runName environment)

def invocation : IO (Invocation Backend.libraries) := do
  let own ← processEnvironment
  let additions ← readFiles [Directory.variablesFile]
  let files ← readFiles (settingsFiles ((additions.environment? own).getD own))
  let input ← readToEnd (← IO.getStdin) .empty
  return ⟨(⟨additions.files ++ files.files⟩ : Directory), own, input⟩

end Interpolation

def main : IO UInt32 := do
  let outcome := (← Interpolation.invocation).outcome
  let stdout ← IO.getStdout
  stdout.putStr (String.ofList outcome.stdout)
  stdout.flush
  if let some failure := outcome.failure then IO.eprintln ("Error: " ++ failure.message)
  return outcome.code.toUInt32
