import StaticInjection.Commands.Run
import Std.Time.DateTime.Timestamp

/-! The command line: a world of real files around the commands. -/

namespace StaticInjection.Main

open Commands

def faultOf : IO.Error → FileFault
  | .noFileOrDirectory .. | .noSuchThing .. => .notFound
  | .alreadyExists .. => .alreadyThere
  | error => .other error.toString

def attempt {α : Type} (action : IO α) : IO (Except FileFault α) := do
  try
    return .ok (← action)
  catch error =>
    return .error (faultOf error)

def read (path : String) : IO (Except FileFault String) := do
  match ← attempt (IO.FS.readBinFile path) with
  | .error fault => return .error fault
  | .ok bytes =>
    match String.fromUTF8? bytes with
    | some text => return .ok text
    | none => return .error .notText

/-- The system keeps the variables of a process in a file, with a zero after each. -/
def environment : IO Environment := do
  match ← read "/proc/self/environ" with
  | .error _ => return []
  | .ok text =>
    return (Text.pieces '\x00' text.toList).map fun entry =>
      (String.ofList (entry.takeWhile (· ≠ '=')),
        String.ofList ((entry.dropWhile (· ≠ '=')).drop 1))

def newBuildId : IO BuildId := do
  let bytes ← IO.getRandomBytes 16
  return .ofRandom (bytes.foldl (fun bits byte => bits <<< 8 ||| BitVec.ofNat 128 byte.toNat) 0)

def now : IO Instant := do
  return ⟨(← Std.Time.Timestamp.now).toNanosecondsSinceUnixEpoch.val⟩

def world : World IO :=
  { createDirectories := fun path => attempt (IO.FS.createDirAll path)
    write := fun path content => attempt (IO.FS.writeFile path content)
    rename := fun source target => attempt (IO.FS.rename source target)
    remove := fun path => attempt (IO.FS.removeFile path)
    read
    environment
    newBuildId
    now }

end StaticInjection.Main

def main (arguments : List String) : IO UInt32 := do
  let conclusion ← StaticInjection.Commands.run StaticInjection.Main.world arguments
  IO.print conclusion.output
  IO.eprint conclusion.problem
  return conclusion.status.toUInt32
