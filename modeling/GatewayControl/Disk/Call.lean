import GatewayControl.Disk.Path
import GatewayControl.Program

/-!
The operations on files, and how they fail.
-/

namespace GatewayControl

inductive DiskFault
  | notFound
  | alreadyExists
  | notDirectory
  | isDirectory
  | nameTooLong
  | invalidText
  | other (reason : String)
deriving DecidableEq, Repr

def DiskFault.message : DiskFault → String
  | notFound => "No such file or directory (os error 2)"
  | alreadyExists => "File exists (os error 17)"
  | notDirectory => "Not a directory (os error 20)"
  | isDirectory => "Is a directory (os error 21)"
  | nameTooLong => "File name too long (os error 36)"
  | invalidText => "stream did not contain valid UTF-8"
  | other reason => reason

inductive DiskCall
  | readText (path : Path)
  | writeText (path : Path) (content : String)
  /-- Puts a file in the place of another one, in one step. -/
  | rename (source target : Path)
  /-- Makes a directory and those that it is in, as far as they are missing. -/
  | createDirectories (path : Path)
  | isThere (path : Path)
  /-- The names of what is in a directory, in any order. -/
  | list (path : Path)
deriving DecidableEq, Repr

namespace DiskCall

@[reducible] def Answer : DiskCall → Type
  | readText _ => String
  | writeText _ _ | rename _ _ | createDirectories _ => Unit
  | isThere _ => Bool
  | list _ => List String

@[reducible] def Reply (call : DiskCall) : Type := Except DiskFault call.Answer

end DiskCall

abbrev DiskProgram := Program DiskCall.Reply

abbrev DiskHandler (σ : Type) := Handler DiskCall.Reply σ

end GatewayControl
