/-!
Cutting a text at a separator, and measuring it in UTF-8 bytes.
-/

namespace GatewayControl.Text

/-- The parts between the separators; there is always at least one. -/
def splitAt (separator : Char) : List Char → List (List Char)
  | [] => [[]]
  | head :: rest =>
    if head = separator then [] :: splitAt separator rest
    else
      match splitAt separator rest with
      | [] => [[head]]
      | part :: parts => (head :: part) :: parts

def breakAt (accepted : Char → Bool) : List Char → Option (List Char × Char × List Char)
  | [] => none
  | head :: rest =>
    if accepted head then some ([], head, rest)
    else (breakAt accepted rest).map fun (before, mark, after) => (head :: before, mark, after)

def startsWith : List Char → List Char → Bool
  | [], _ => true
  | _ :: _, [] => false
  | expected :: part, head :: rest => expected = head && startsWith part rest

def containsPart (part : List Char) : List Char → Bool
  | [] => part.isEmpty
  | head :: rest => startsWith part (head :: rest) || containsPart part rest

def utf8Length : List Char → Nat
  | [] => 0
  | head :: rest => head.utf8Size + utf8Length rest

end GatewayControl.Text
