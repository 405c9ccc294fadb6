import GatewayControl.Text.Blank
import GatewayControl.Text.Quoted
import GatewayControl.Text.Split

/-!
Templates: text with placeholders between double braces. A placeholder holds a path of names joined
by dots, blanks around it aside. Reading goes from left to right: a placeholder opens at the first
pair of opening braces after the one before it, and ends at the first pair of closing braces.
-/

namespace GatewayControl

inductive TemplateFault
  | unclosed (offset : Nat)
  | empty (offset : Nat)
  | invalidPath (path : String)
deriving DecidableEq, Repr

def TemplateFault.message : TemplateFault → String
  | unclosed offset => "unclosed placeholder at byte " ++ toString offset
  | empty offset => "empty placeholder at byte " ++ toString offset
  | invalidPath path => "invalid placeholder " ++ Text.quote path

structure Template where
  source : String
  placeholders : List String
deriving DecidableEq, Repr

namespace Template

def breakAtPair (brace : Char) : List Char → Option (List Char × List Char)
  | first :: second :: rest =>
    if first = brace && second = brace then some ([], rest)
    else (breakAtPair brace (second :: rest)).map fun (before, after) => (first :: before, after)
  | [_] | [] => none

theorem length_breakAtPair {brace : Char} : ∀ {text before after : List Char},
    breakAtPair brace text = some (before, after) →
      text.length = before.length + 2 + after.length
  | first :: second :: rest, before, after, found => by
    rw [breakAtPair] at found
    split at found
    · cases found
      simp only [List.length_cons, List.length_nil]
      omega
    · obtain ⟨⟨before', after'⟩, inner, same⟩ := Option.map_eq_some_iff.1 found
      cases same
      have shorter := length_breakAtPair inner
      simp only [List.length_cons] at shorter ⊢
      omega
  | [_], _, _, found | [], _, _, found => by simp [breakAtPair] at found

def isPathChar (char : Char) : Bool := char.isAlphanum || char = '_'

def isPath (path : List Char) : Bool :=
  (Text.splitAt '.' path).all fun segment => !segment.isEmpty && segment.all isPathChar

def placeholdersFrom (offset : Nat) (text : List Char) : Except TemplateFault (List String) :=
  match _opened : breakAtPair '{' text with
  | none => .ok []
  | some (before, body) =>
    let opening := offset + Text.utf8Length before
    match _closed : breakAtPair '}' body with
    | none => .error (.unclosed opening)
    | some (inside, rest) =>
      let path := Text.trim inside
      if path.isEmpty then .error (.empty opening)
      else if isPath path then
        match placeholdersFrom (opening + 2 + Text.utf8Length inside + 2) rest with
        | .error fault => .error fault
        | .ok paths => .ok (String.ofList path :: paths)
      else .error (.invalidPath (String.ofList path))
termination_by text.length
decreasing_by
  have := length_breakAtPair _opened
  have := length_breakAtPair _closed
  omega

def parse (source : String) : Except TemplateFault Template :=
  (placeholdersFrom 0 source.toList).map fun placeholders => { source, placeholders }

end Template

end GatewayControl
