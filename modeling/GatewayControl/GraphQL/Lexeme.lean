import GatewayControl.Parser
import GatewayControl.GraphQL.Syntax

/-!
The smallest parts of GraphQL documents, and the values, types and directives built from them. Each
lexeme takes the ignored text after it: blanks, commas, byte-order marks, line ends and comments. A
keyword is its letters only, so a name may follow it at once.
-/

namespace GatewayControl.GraphQL

open GatewayControl.Parser

def isLineEnd (char : Char) : Bool := char = '\n' || char = '\r'

def isBlank (char : Char) : Bool :=
  char = ' ' || char = ',' || char = '\t' || char = '\ufeff' || isLineEnd char

def comment : Parser Unit := do
  literal "#"
  let _ ← takeWhile fun char => !isLineEnd char

def ignored : Parser Unit := do
  let _ ← many ((do let _ ← takeWhile1 isBlank) <|> comment)

def lexeme (item : Parser α) : Parser α := do
  let value ← item
  ignored
  return value

def symbol (text : String) : Parser Unit := lexeme (literal text)

def isNameStart (char : Char) : Bool := char.isAlpha || char = '_'

def isNamePart (char : Char) : Bool := char.isAlphanum || char = '_'

def bareName : Parser String := do
  let first ← satisfy isNameStart
  let rest ← takeWhile isNamePart
  return String.ofList (first :: rest)

def name : Parser String := lexeme bareName

/-- A type is one lexeme: nothing is ignored inside it. -/
def bareType : Nat → Parser TypeRef
  | 0 => failure
  | fuel + 1 =>
    (do let name ← bareName; return .named name (← option (literal "!")).isSome) <|>
    (do
      literal "["
      let item ← bareType fuel
      literal "]"
      return .list item (← option (literal "!")).isSome)

def typeRef : Parser TypeRef := lexeme do bareType ((← get).length + 1)

def digits : Parser (List Char) := takeWhile1 Char.isDigit

def ofDigits (digits : List Char) : Nat :=
  digits.foldl (fun value digit => value * 10 + (digit.toNat - '0'.toNat)) 0

def wholeDigits : Parser (List Char) :=
  (do literal "0"; return ['0']) <|>
  (do
    let first ← satisfy fun char => char.isDigit && char != '0'
    let rest ← takeWhile Char.isDigit
    return first :: rest)

def fractionDigits : Parser (List Char) := do
  literal "."
  digits

def exponent : Parser Int := do
  let _ ← satisfy fun char => char = 'e' || char = 'E'
  let sign ← option (satisfy fun char => char = '+' || char = '-')
  let power ← digits
  return if sign = some '-' then -(ofDigits power : Int) else ofDigits power

/-- A name must not follow a number at once. -/
def number : Parser Numeral := lexeme do
  let sign ← option (literal "-")
  let before ← wholeDigits
  let after ← option fractionDigits
  let power ← option exponent
  absent (satisfy isNameStart)
  let after := after.getD []
  return {
    negative := sign.isSome
    significand := ofDigits (before ++ after)
    scale := power.getD 0 - after.length }

/-- Four hexadecimal digits that are no half of a surrogate pair. -/
def scalarEscape : Parser (List Char) := do
  absent do
    let _ ← satisfy fun char => char = 'd' || char = 'D'
    satisfy fun char => char = '8' || char = '9' || ('a' ≤ char && char ≤ 'f') ||
      ('A' ≤ char && char ≤ 'F')
  let hex := satisfy fun char => char.isDigit || ('a' ≤ char && char ≤ 'f') ||
    ('A' ≤ char && char ≤ 'F')
  return [← hex, ← hex, ← hex, ← hex]

def quotedPart : Parser (List Char) :=
  (do return [← satisfy fun char => char != '"' && char != '\\' && !isLineEnd char]) <|>
  (do
    literal "\\"
    return ['\\', ← satisfy fun char => "\"\\/bfnrt".toList.contains char]) <|>
  (do literal "\\u"; return ['\\', 'u'] ++ (← scalarEscape))

def blockPart : Parser (List Char) :=
  (do
    absent (literal "\"\"\"" <|> literal "\\\"\"\"")
    return [← satisfy fun _ => true]) <|>
  (do literal "\\\"\"\""; return "\\\"\"\"".toList)

def string : Parser String := lexeme <|
  (do
    literal "\"\"\""
    let parts ← many blockPart
    literal "\"\"\""
    return String.ofList parts.flatten) <|>
  (do
    literal "\""
    let parts ← many quotedPart
    literal "\""
    return String.ofList parts.flatten)

def boolean : Parser Bool := lexeme <|
  (do literal "true"; return true) <|> (do literal "false"; return false)

/-- A name that does not start with the letters of `true`, `false` or `null`. -/
def symbolName : Parser String := lexeme do
  absent (literal "true" <|> literal "false" <|> literal "null")
  bareName

def value (withVariables : Bool) : Nat → Parser Literal
  | 0 => failure
  | fuel + 1 =>
    (do
      guard withVariables
      symbol "$"
      return .reference (← name)) <|>
    (do return .number (← number)) <|>
    (do return .text (← string)) <|>
    (do return .boolean (← boolean)) <|>
    (do symbol "null"; return .null) <|>
    (do return .symbol (← symbolName)) <|>
    (do
      symbol "["
      let items ← many (value withVariables fuel)
      symbol "]"
      return .list items) <|>
    (do
      symbol "\x7b"
      let fields ← many do
        let field ← name
        symbol ":"
        return (field, ← value withVariables fuel)
      symbol "\x7d"
      return .object fields)

def anyValue (withVariables : Bool) : Parser Literal := do
  value withVariables ((← get).length + 1)

def argument (withVariables : Bool) : Parser (String × Literal) := do
  let argument ← name
  symbol ":"
  return (argument, ← anyValue withVariables)

def arguments (withVariables : Bool) : Parser (List (String × Literal)) := do
  symbol "("
  let arguments ← many1 (argument withVariables)
  symbol ")"
  return arguments

def directive (withVariables : Bool) : Parser Directive := do
  symbol "@"
  let directive ← name
  return ⟨directive, (← option (arguments withVariables)).getD []⟩

def directives1 (withVariables : Bool) : Parser (List Directive) := many1 (directive withVariables)

def directives (withVariables : Bool) : Parser (List Directive) := many (directive withVariables)

def defaultValue : Parser Literal := do
  symbol "="
  anyValue false

def operationKind : Parser OperationKind := lexeme <|
  (do literal "query"; return .query) <|>
  (do literal "mutation"; return .mutation) <|>
  (do literal "subscription"; return .subscription)

end GatewayControl.GraphQL
