import Std.Time.DateTime.Timestamp
import EventMixing.Run

/-!
# The program

Carries out the script that answers the program's arguments: on the streams, files and
clocks of the system. Only texts are read and written here; there is no codec for tables
in columnar form, so such a file is refused.
-/

namespace EventMixing

/-- Whether an error's code is a given one, which some calls answer with a minus sign. -/
def isCode (expected code : UInt32) : Bool := code = expected || code = -expected

def FileFault.ofError (e : IO.Error) : FileFault :=
  match e with
  | .noFileOrDirectory .. => .notFound
  | .inappropriateType _ code _ => if isCode 20 code then .notDirectory else .isDirectory
  | .invalidArgument _ code _ => if isCode 36 code then .nameTooLong else .other (toString e)
  | _ => .other (toString e)

def readContent (path : Path) : IO (Except FileFault FileContent) := do
  if let some fault := path.fault? then return .error fault
  try
    let bytes ← IO.FS.readBinFile path.text
    return match String.fromUTF8? bytes with
      | some text => .ok (.text text)
      | none => .error .notText
  catch e => return .error (.ofError e)

def writeContent (path : Path) : FileContent → IO (Except FileFault Unit)
  | .text s => do
    if let some fault := path.fault? then return .error fault
    try
      IO.FS.writeFile path.text s
      return .ok ()
    catch e => return .error (.ofError e)
  | .table _ => return .error (.other "tables in columnar form are not supported here")

def pathKind (path : Path) : IO (Except FileFault FileKind) := do
  if path.text.isEmpty then return .error .notFound
  if let some fault := path.fault? then return .error fault
  try
    let data ← ((← IO.currentDir) / path.text).metadata
    return .ok (if data.type == .dir then .folder else .file (data.byteSize == 0))
  catch e => return .error (.ofError e)

def folderNames (folder : Path) : IO (Except FileFault (List String)) := do
  if folder.text.isEmpty then return .error .notFound
  if let some fault := folder.fault? then return .error fault
  try
    let entries ← ((← IO.currentDir) / folder.text).readDir
    return .ok ((entries.map (·.fileName)).toList.mergeSort fun a b => decide (a ≤ b))
  catch e => return .error (.ofError e)

def Script.perform {α : Type} : Script α → IO α
  | done a => return a
  | print .output text next => do
    (← IO.getStdout).putStr text
    next.perform
  | print .errors text next => do
    (← IO.getStderr).putStr text
    next.perform
  | read path next => do (next (← readContent path)).perform
  | write path content next => do (next (← writeContent path content)).perform
  | inspect path next => do (next (← pathKind path)).perform
  | list folder next => do (next (← folderNames folder)).perform
  | clock next => do (next (← IO.monoNanosNow)).perform
  | today next => do
    let now ← Std.Time.Timestamp.now
    (next (Calendar.timestampText now.toNanosecondsSinceUnixEpoch.val)).perform

end EventMixing

/-- Answers the arguments and ends with the exit code. -/
def main (args : List String) : IO UInt32 := do
  return (← (EventMixing.answer args).perform).toUInt32
