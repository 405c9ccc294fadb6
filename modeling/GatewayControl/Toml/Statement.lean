import GatewayControl.Text.Numeral
import GatewayControl.Toml.Text
import GatewayControl.Toml.Node

/-!
Statements of TOML documents: a header that opens a table, a header that adds a table to an array,
and a key with its value. This module reads and writes them; what they build is the matter of the
document.
-/

namespace GatewayControl.Toml

open GatewayControl.Parser

def commentText : Parser Unit := do
  literal "#"
  let _ ← takeWhile isLiteralChar

def blankPart : Parser Unit :=
  (do let _ ← satisfy isSpace) <|> newline <|> (do commentText; newline)

def blanks : Parser Unit := do
  let _ ← many blankPart

def nestingLimit : Nat := 79

def keyPart : Parser String := do
  spaces
  let part ← simpleKey
  spaces
  return part

def key : Parser (List String) := do
  let first ← keyPart
  let others ← many do literal "."; keyPart
  guard (others.length < nestingLimit)
  return first :: others

def separatedDigit (isDigit : Char → Bool) : Parser Char :=
  (do literal "_"; satisfy isDigit) <|> satisfy isDigit

def digitRun (isDigit : Char → Bool) : Parser (List Char) := do
  let first ← satisfy isDigit
  return first :: (← many (separatedDigit isDigit))

def sign : Parser Bool :=
  (do literal "-"; return true) <|> (do literal "+"; return false) <|> pure false

def decimalDigits : Parser (List Char) :=
  (do
    let first ← satisfy fun char => char.isDigit && char != '0'
    return first :: (← many (separatedDigit Char.isDigit))) <|>
  (do return [← satisfy Char.isDigit])

def radixInteger (mark : String) (base : Nat) : Parser Value := do
  literal mark
  let value := Text.digitsValue base (← digitRun (Text.isDigitOf base))
  guard (value ≤ maxInteger)
  return .integer value

def integer : Parser Value :=
  radixInteger "0x" 16 <|> radixInteger "0o" 8 <|> radixInteger "0b" 2 <|>
  (do
    let negative ← sign
    let magnitude := Text.digitsValue 10 (← decimalDigits)
    if negative then
      guard (magnitude ≤ maxInteger + 1)
      return .integer (-magnitude)
    else
      guard (magnitude ≤ maxInteger)
      return .integer magnitude)

def fraction : Parser (List Char) := do
  literal "."
  digitRun Char.isDigit

def power : Parser Int := do
  let _ ← satisfy fun char => char = 'e' || char = 'E'
  let negative ← sign
  let value := Text.digitsValue 10 (← digitRun Char.isDigit)
  return if negative then -(value : Int) else value

/-- A float; one that is too large must be negative. -/
def float : Parser Value :=
  (do
    let negative ← sign
    let whole ← decimalDigits
    let (digits, scale) ←
      (do return ([], ← power)) <|>
      (do
        let digits ← fraction
        return (digits, (← option power).getD 0))
    let numeral : Numeral := {
      negative
      significand := Text.digitsValue 10 (whole ++ digits)
      scale := scale - digits.length }
    guard (negative || !numeral.overflows)
    return .other) <|>
  (do
    let _ ← sign
    literal "inf" <|> literal "nan"
    return .other)

def fixedNumber (count low high : Nat) : Parser Nat := do
  let digits ← (List.replicate count ()).mapM fun _ => satisfy Char.isDigit
  let value := Text.digitsValue 10 digits
  guard (low ≤ value && value ≤ high)
  return value

def daysIn (year month : Nat) : Nat :=
  if month = 2 then
    if year % 4 = 0 && (year % 100 != 0 || year % 400 = 0) then 29 else 28
  else if month = 4 || month = 6 || month = 9 || month = 11 then 30
  else 31

def date : Parser Unit := do
  let year ← fixedNumber 4 0 9999
  literal "-"
  let month ← fixedNumber 2 1 12
  literal "-"
  let _ ← fixedNumber 2 1 (daysIn year month)

def time : Parser Unit := do
  let _ ← fixedNumber 2 0 23
  literal ":"
  let _ ← fixedNumber 2 0 59
  literal ":"
  let _ ← fixedNumber 2 0 60
  let _ ← option do literal "."; takeWhile1 Char.isDigit

def offset : Parser Unit :=
  (do let _ ← satisfy fun char => char = 'Z' || char = 'z') <|>
  (do
    let _ ← satisfy fun char => char = '+' || char = '-'
    let _ ← fixedNumber 2 0 23
    literal ":"
    let _ ← fixedNumber 2 0 59)

def moment : Parser Value :=
  (do
    date
    let _ ← option do
      let _ ← satisfy fun char => char = 'T' || char = 't' || char = ' '
      time
      option offset
    return .other) <|>
  (do time; return .other)

def separated (item : Parser α) : Parser (List α) :=
  (do
    let first ← item
    let others ← many do literal ","; item
    return first :: others) <|>
  pure []

def value (depth : Nat) : Parser Value :=
  (do return .text (← text)) <|>
  (do literal "true"; return .boolean true) <|>
  (do literal "false"; return .boolean false) <|>
  moment <|> float <|> integer <|>
  match depth with
  | 0 => failure
  | depth + 1 =>
    (do
      literal "["
      let items ← separated do
        blanks
        let item ← value depth
        blanks
        return item
      let _ ← option (do guard !items.isEmpty; literal ",")
      blanks
      literal "]"
      return .array items) <|>
    (do
      literal "\x7b"
      let pairs ← separated do
        let key ← key
        literal "="
        spaces
        let item ← value depth
        spaces
        return (key, item)
      spaces
      literal "\x7d"
      return .table (← inlineTable? pairs))

inductive Statement
  | table (path : List String)
  | element (path : List String)
  | pair (key : List String) (value : Value)

def lineEnd : Parser Unit := newline <|> atEnd

def restOfLine : Parser Unit := do
  spaces
  let _ ← option commentText
  lineEnd

def statement : Parser Statement :=
  (do
    literal "[["
    let path ← key
    literal "]]"
    restOfLine
    return .element path) <|>
  (do
    literal "["
    let path ← key
    literal "]"
    restOfLine
    return .table path) <|>
  (do
    let key ← key
    literal "="
    spaces
    let value ← value nestingLimit
    restOfLine
    return .pair key value)

def emptyLine : Parser Unit :=
  newline <|> (do commentText; lineEnd)

/-- The statements of a text. A byte-order mark may stand before them. -/
def statements : Parser (List Statement) := do
  let _ ← option (literal "\ufeff")
  spaces
  let lines ← many (
    (do emptyLine; spaces; return none) <|>
    (do
      let statement ← statement
      spaces
      return some statement))
  return lines.filterMap id

end GatewayControl.Toml
