import GatewayControl.Parser
import GatewayControl.Text.Digits

/-!
Texts and keys in TOML documents. A text is written in the first of its forms that can hold it:
quoted on one line, literal on one line, quoted over several lines, literal over several lines, and
a quoted form with escapes when none of them can. All forms are read.
-/

namespace GatewayControl.Toml

open GatewayControl.Parser

def isControl (char : Char) : Bool := char.toNat ≤ 0x1f || char.toNat = 0x7f

def isLiteralChar (char : Char) : Bool := char = '\t' || !isControl char

def isBareKeyChar (char : Char) : Bool := char.isAlphanum || char = '_' || char = '-'

def hasRun (quote : Char) (count : Nat) : Nat → List Char → Bool
  | seen, [] => seen ≥ count
  | seen, char :: chars =>
    seen ≥ count || hasRun quote count (if char = quote then seen + 1 else 0) chars

inductive TextForm
  | basic
  | literal
  | longBasic
  | longLiteral
deriving DecidableEq, Repr

def TextForm.isLong : TextForm → Bool
  | basic | literal => false
  | longBasic | longLiteral => true

def TextForm.delimiter : TextForm → List Char
  | basic => ['"']
  | literal => ['\'']
  | longBasic => ['"', '"', '"']
  | longLiteral => ['\'', '\'', '\'']

/-- Control characters other than the tab and the line end can only be written as escapes. -/
def needsEscapes (text : List Char) : Bool :=
  text.any fun char => isControl char && char != '\t' && char != '\n'

def TextForm.holds (text : List Char) : TextForm → Bool
  | basic =>
    !needsEscapes text && !text.contains '\\' && !text.contains '"' && !text.contains '\n'
  | literal => !needsEscapes text && !text.contains '\'' && !text.contains '\n'
  | longBasic => !needsEscapes text && !text.contains '\\' && !hasRun '"' 3 0 text
  | longLiteral => !needsEscapes text && !hasRun '\'' 3 0 text

def TextForm.choose (text : List Char) : TextForm :=
  if basic.holds text then basic
  else if literal.holds text then literal
  else if longBasic.holds text then longBasic
  else if longLiteral.holds text then longLiteral
  else if text.contains '\n' then longBasic
  else basic

def upperHexDigit (value : Nat) : Char := (Nat.digitChar value).toUpper

def escapeOf (char : Char) : List Char :=
  if char = '\x08' then ['\\', 'b']
  else if char = '\t' then ['\\', 't']
  else if char = '\n' then ['\\', 'n']
  else if char = '\x0c' then ['\\', 'f']
  else if char = '\r' then ['\\', 'r']
  else if char = '"' || char = '\\' then ['\\', char]
  else ['\\', 'u', '0', '0', upperHexDigit (char.toNat / 16), upperHexDigit (char.toNat % 16)]

/-- The inside of a quoted text. In the long form line ends stand for themselves, and only the third
quote in a row is escaped. -/
def escaped (long : Bool) : Nat → List Char → List Char
  | _, [] => []
  | quotes, char :: chars =>
    if char = '"' then
      if long && quotes < 2 then char :: escaped long (quotes + 1) chars
      else escapeOf char ++ escaped long 0 chars
    else if (isControl char && !(long && char = '\n')) || char = '\\' then
      escapeOf char ++ escaped long 0 chars
    else char :: escaped long 0 chars

def TextForm.body (form : TextForm) (text : List Char) : List Char :=
  match form with
  | basic => escaped false 0 text
  | longBasic => escaped true 0 text
  | literal | longLiteral => text

/-- A text in a form; a long form starts a line of its own if the text has several lines. -/
def TextForm.render (form : TextForm) (text : List Char) : List Char :=
  let start := if form.isLong && text.contains '\n' then ['\n'] else []
  form.delimiter ++ start ++ form.body text ++ form.delimiter

def renderText (text : String) : List Char :=
  (TextForm.choose text.toList).render text.toList

def renderKey (key : String) : List Char :=
  let text := key.toList
  if !text.isEmpty && text.all isBareKeyChar then text
  else if TextForm.basic.holds text then TextForm.basic.render text
  else if TextForm.literal.holds text then TextForm.literal.render text
  else TextForm.basic.render text

def newline : Parser Unit := literal "\n" <|> literal "\r\n"

def isSpace (char : Char) : Bool := char = ' ' || char = '\t'

def spaces : Parser Unit := do
  let _ ← takeWhile isSpace

def hexDigits : Nat → Parser (List Char)
  | 0 => pure []
  | count + 1 => do
    let digit ← satisfy (Text.isDigitOf 16)
    return digit :: (← hexDigits count)

def codePoint (count : Nat) : Parser Char := do
  let code := Text.digitsValue 16 (← hexDigits count)
  guard (code.isValidChar)
  return Char.ofNat code

def escape : Parser Char :=
  (do literal "\\b"; return '\x08') <|>
  (do literal "\\t"; return '\t') <|>
  (do literal "\\n"; return '\n') <|>
  (do literal "\\f"; return '\x0c') <|>
  (do literal "\\r"; return '\r') <|>
  (do literal "\\\""; return '"') <|>
  (do literal "\\\\"; return '\\') <|>
  (do literal "\\u"; codePoint 4) <|>
  (do literal "\\U"; codePoint 8)

def plainChar : Parser Char :=
  satisfy fun char => isLiteralChar char && char != '"' && char != '\\'

def basicText : Parser (List Char) := do
  literal "\""
  let chars ← many (plainChar <|> escape)
  literal "\""
  return chars

def literalText : Parser (List Char) := do
  literal "'"
  let chars ← takeWhile fun char => isLiteralChar char && char != '\''
  literal "'"
  return chars

/-- A backslash at the end of a line takes away the line end and the blanks and line ends after
it. -/
def continuation : Parser Unit := do
  literal "\\"
  spaces
  newline
  let _ ← many ((do let _ ← satisfy isSpace) <|> newline)

def looseQuotes (quote : Char) : Parser (List Char) :=
  let mark : Parser Char := satisfy (· = quote)
  (do
    let quotes := [← mark, ← mark]
    absent mark
    return quotes) <|>
  (do
    let quotes := [← mark]
    absent mark
    return quotes)

/-- The end of a long text, with the one or two quotes of the text that may stand before it. -/
def closing (quote : Char) : Parser (List Char) :=
  let threeQuotes := literal (String.ofList [quote, quote, quote])
  (do literal (String.ofList [quote, quote]); threeQuotes; return [quote, quote]) <|>
  (do literal (String.ofList [quote]); threeQuotes; return [quote]) <|>
  (do threeQuotes; return [])

def longBasicText : Parser (List Char) := do
  literal "\"\"\""
  let _ ← option newline
  let parts ← many (
    (do return [← plainChar]) <|>
    (do continuation; return []) <|>
    (do return [← escape]) <|>
    (do newline; return ['\n']) <|>
    looseQuotes '"')
  return parts.flatten ++ (← closing '"')

def longLiteralText : Parser (List Char) := do
  literal "'''"
  let _ ← option newline
  let parts ← many (
    (do return [← satisfy fun char => isLiteralChar char && char != '\'']) <|>
    (do newline; return ['\n']) <|>
    looseQuotes '\'')
  return parts.flatten ++ (← closing '\'')

def text : Parser String := do
  return String.ofList (← longBasicText <|> basicText <|> longLiteralText <|> literalText)

def bareKey : Parser (List Char) := takeWhile1 isBareKeyChar

def simpleKey : Parser String := do
  return String.ofList (← basicText <|> literalText <|> bareKey)

end GatewayControl.Toml
