/-!
Recognisers over a list of characters with ordered choice: the first alternative that matches is
kept, and a failed alternative gives its input back. Repetition takes as many items as there are.
-/

namespace GatewayControl

abbrev Parser := StateT (List Char) Option

namespace Parser

def satisfy (accepted : Char → Bool) : Parser Char := fun input =>
  match input with
  | [] => none
  | head :: rest => if accepted head then some (head, rest) else none

def stripStart : List Char → List Char → Option (List Char)
  | [], input => some input
  | _ :: _, [] => none
  | expected :: text, head :: rest => if expected = head then stripStart text rest else none

def literal (text : String) : Parser Unit := fun input =>
  (stripStart text.toList input).map fun rest => ((), rest)

def firstOf : List String → Parser String
  | [] => failure
  | word :: words => (do literal word; pure word) <|> firstOf words

def option (item : Parser α) : Parser (Option α) :=
  (do return some (← item)) <|> pure none

def manyWithin (item : Parser α) : Nat → List Char → List α × List Char
  | 0, input => ([], input)
  | fuel + 1, input =>
    match item input with
    | none => ([], input)
    | some (value, rest) =>
      let (values, final) := manyWithin item fuel rest
      (value :: values, final)

/-- Items while there are any. An item takes at least one character, so the length of the input
bounds their number. -/
def many (item : Parser α) : Parser (List α) := fun input =>
  some (manyWithin item input.length input)

def many1 (item : Parser α) : Parser (List α) := do
  let first ← item
  return first :: (← many item)

def takeWhile (accepted : Char → Bool) : Parser (List Char) := fun input =>
  some (input.takeWhile accepted, input.dropWhile accepted)

def takeWhile1 (accepted : Char → Bool) : Parser (List Char) := do
  let first ← satisfy accepted
  return first :: (← takeWhile accepted)

/-- Succeeds, taking nothing, where `item` fails. -/
def absent (item : Parser α) : Parser Unit := fun input =>
  match item input with
  | none => some ((), input)
  | some _ => none

def atEnd : Parser Unit := fun input =>
  match input with
  | [] => some ((), [])
  | _ :: _ => none

def whole (item : Parser α) (text : String) : Option α :=
  ((do let value ← item; atEnd; return value : Parser α) text.toList).map Prod.fst

end Parser

end GatewayControl
