import CodeOutline.Command.Program
import CodeOutline.Timestamp
import Std.Time.DateTime.Timestamp

/-!
# The program on a disk

Everything a request may read is read first, then the program is run on it as a function, and then
its outcome is written.
-/

namespace CodeOutline.Program

/-- The reason why reading failed. A directory is found out when it is read, everything else when it
is opened; then the number of an error comes with a minus. -/
def failureOf : IO.Error → ReadFailure
  | .noFileOrDirectory .. => .notFound
  | .inappropriateType _ 21 _ => .isDirectory
  | .inappropriateType .. => .notDirectory
  | .invalidArgument _ 0xFFFFFFDC _ => .nameTooLong
  | .permissionDenied .. => .other "Permission denied (os error 13)"
  | error => .other (toString error)

/-- What a path leads to. -/
def readPath (path : String) : IO (Except ReadFailure (List UInt8)) := do
  try
    return .ok (← IO.FS.readBinFile path).toList
  catch error => return .error (failureOf error)

/-- What some paths lead to. -/
def gather (paths : List String) : IO Workspace := do
  let entries ← paths.mapM fun path => return (path, ← readPath path)
  return ⟨fun path => (entries.lookup path).getD (.error .notFound)⟩

/-- A name made of bytes: five groups of hexadecimal digits, marked as random. -/
def nameOfBytes (bytes : List UInt8) : String :=
  let marked := (bytes.modify 6 fun b => (b &&& 0x0F) ||| 0x40).modify 8 fun b =>
    (b &&& 0x3F) ||| 0x80
  let group (start count : Nat) : String :=
    String.ofList (((marked.drop start).take count).flatMap Digest.hexByte)
  "-".intercalate [group 0 4, group 4 2, group 6 2, group 8 2, group 10 6]

/-- Names for changes, made from random bytes, and the present time. -/
def freshStamp : IO Stamp := do
  let seed := (← IO.getRandomBytes 32).toList
  let now := (← Std.Time.Timestamp.now).toNanosecondsSinceUnixEpoch.toInt
  let time : Timestamp := ⟨now / 1000000000, (now % 1000000000).toNat⟩
  let name (n : Nat) := nameOfBytes ((Digest.sha256 (seed ++ Digest.bytesOfNat 8 n)).take 16)
  return ⟨name, time.display⟩

end CodeOutline.Program

/-- Runs the program. -/
def main (arguments : List String) : IO UInt32 := do
  let request := CodeOutline.Arguments.read arguments
  let workspace ← CodeOutline.Program.gather (CodeOutline.Program.paths request)
  let outcome := CodeOutline.Program.outcome workspace (← CodeOutline.Program.freshStamp) request
  IO.eprint outcome.remarks
  IO.print outcome.answer
  return outcome.status.toUInt32
