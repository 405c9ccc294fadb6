import GatewayControl.Text.Blank
import GatewayControl.Text.Split

/-!
Paths of files: the names of directories and of the file, in order. The extension of a file name is
what follows its last dot, unless nothing stands before that dot.
-/

namespace GatewayControl

abbrev Path := List String

namespace Path

def parse (text : String) : Path := (Text.splitAt '/' text.toList).map String.ofList

/-- The path that a text means in a directory. One that starts with a slash does not depend on it. -/
def within (directory : Path) (text : String) : Path :=
  if text.toList.head? = some '/' then parse text else directory ++ parse text

def display (path : Path) : String := "/".intercalate path

def splitName (name : String) : Option (String × String) :=
  let reversed := name.toList.reverse
  let after := reversed.takeWhile (· != '.')
  match reversed.dropWhile (· != '.') with
  | _ :: before =>
    if before.isEmpty || name = ".." then none
    else some (String.ofList before.reverse, String.ofList after.reverse)
  | [] => none

def nameStem (name : String) : String :=
  match splitName name with
  | some (stem, _) => stem
  | none => name

def nameExtension (name : String) : Option String := (splitName name).map Prod.snd

def fileName (path : Path) : String := path.getLast?.getD ""

def directory (path : Path) : Path := path.dropLast

def stem (path : Path) : String := nameStem path.fileName

def withExtension (path : Path) (extension : String) : Path :=
  path.directory ++ [path.stem ++ "." ++ extension]

end Path

end GatewayControl
