import GatewayControl.Parser
import GatewayControl.Text.Digits
import GatewayControl.Text.Numeral

/-!
JSON documents as they are written, in bytes. A document can be well-formed and still hold parts
that mean nothing: texts that are no UTF-8 or have half of a surrogate pair, and numbers that are
too large. Such parts do no harm where nobody looks at them, so reading keeps them, and they are
refused where a value is taken out.
-/

namespace GatewayControl.Json

/-- A part of a written text: a byte, or the UTF-16 unit that an escape stands for. -/
inductive TextPart
  | byte (value : UInt8)
  | unit (value : Nat)
deriving DecidableEq, Repr

inductive Written
  | null
  | boolean (value : Bool)
  | number (numeral : Numeral)
  | text (parts : List TextPart)
  | array (items : List Written)
  | object (members : List (List TextPart × Written))

def readErrorMessage : String := "<json error>"

/-! Reading. Bytes are read as characters of the same number. -/

namespace Reader

def isSpace (char : Char) : Bool := char = ' ' || char = '\n' || char = '\r' || char = '\t'

def spaces : Parser Unit := do
  let _ ← Parser.takeWhile isSpace

def token (text : String) : Parser Unit := do
  Parser.literal text
  spaces

def byteOf (char : Char) : TextPart := .byte (UInt8.ofNat char.toNat)

def hexDigit : Parser Char := Parser.satisfy (Text.isDigitOf 16)

def escape : Parser TextPart := do
  let char ← Parser.satisfy fun _ => true
  match char with
  | '"' | '\\' | '/' => return byteOf char
  | 'b' => return byteOf '\x08'
  | 'f' => return byteOf '\x0c'
  | 'n' => return byteOf '\n'
  | 'r' => return byteOf '\r'
  | 't' => return byteOf '\t'
  | 'u' =>
    let digits := [← hexDigit, ← hexDigit, ← hexDigit, ← hexDigit]
    return .unit (Text.digitsValue 16 digits)
  | _ => failure

def textPart : Parser TextPart :=
  (do Parser.literal "\\"; escape) <|>
    (byteOf <$> Parser.satisfy fun char => char ≠ '"' && char ≠ '\\' && 0x20 ≤ char.toNat)

def textParts : Parser (List TextPart) := do
  Parser.literal "\""
  let parts ← Parser.many textPart
  Parser.literal "\""
  return parts

def wholeDigits : Parser (List Char) :=
  (do Parser.literal "0"; return ['0']) <|>
    (do
      let first ← Parser.satisfy fun char => char.isDigit && char ≠ '0'
      return first :: (← Parser.takeWhile Char.isDigit))

def fraction : Parser (List Char) := do
  Parser.literal "."
  Parser.takeWhile1 Char.isDigit

def exponent : Parser Int := do
  let _ ← Parser.satisfy fun char => char = 'e' || char = 'E'
  let sign ← Parser.option (Parser.satisfy fun char => char = '+' || char = '-')
  let magnitude : Int := Text.digitsValue 10 (← Parser.takeWhile1 Char.isDigit)
  return if sign = some '-' then -magnitude else magnitude

def number : Parser Numeral := do
  let sign ← Parser.option (Parser.literal "-")
  let digits ← wholeDigits
  Parser.absent (Parser.satisfy Char.isDigit)
  let places := (← Parser.option fraction).getD []
  Parser.absent (Parser.literal ".")
  let scale := (← Parser.option exponent).getD 0
  Parser.absent (Parser.satisfy fun char => char = 'e' || char = 'E')
  return {
    negative := sign.isSome
    significand := Text.digitsValue 10 (digits ++ places)
    scale := scale - places.length }

def separated (item : Parser α) (close : String) : Parser (List α) :=
  (do token close; return []) <|>
    (do
      let first ← item
      let rest ← Parser.many (do token ","; item)
      token close
      return first :: rest)

def value : Nat → Parser Written
  | 0 => failure
  | fuel + 1 =>
    (do token "null"; return .null) <|>
    (do token "true"; return .boolean true) <|>
    (do token "false"; return .boolean false) <|>
    (do let parts ← textParts; spaces; return .text parts) <|>
    (do token "["; return .array (← separated (value fuel) "]")) <|>
    (do
      token "\x7b"
      let member : Parser (List TextPart × Written) := do
        let name ← textParts
        spaces
        token ":"
        return (name, ← value fuel)
      return .object (← separated member "\x7d")) <|>
    (do let numeral ← number; spaces; return .number numeral)

end Reader

namespace Written

/-- Reads a document. Every level of nesting takes a byte, so the length bounds the depth. -/
def parse (bytes : List UInt8) : Option Written := do
  let chars := bytes.map fun byte => Char.ofNat byte.toNat
  let (document, rest) ← (do Reader.spaces; Reader.value (bytes.length + 1) : Parser Written) chars
  guard rest.isEmpty
  return document

/-! Taking values out. -/

/-- The bytes of a text. A unit of a surrogate pair has to stand before or after the other one. -/
def decodeParts : List TextPart → Option (List UInt8)
  | [] => some []
  | .byte byte :: rest => (decodeParts rest).map (byte :: ·)
  | .unit high :: .unit low :: rest =>
    if 0xd800 ≤ high && high < 0xdc00 then
      if 0xdc00 ≤ low && low < 0xe000 then
        let char := Char.ofNat (0x10000 + (high - 0xd800) * 0x400 + (low - 0xdc00))
        (decodeParts rest).map (String.utf8EncodeChar char ++ ·)
      else none
    else if 0xdc00 ≤ high && high < 0xe000 then none
    else (decodeParts (.unit low :: rest)).map (String.utf8EncodeChar (Char.ofNat high) ++ ·)
  | .unit code :: rest =>
    if 0xd800 ≤ code && code < 0xe000 then none
    else (decodeParts rest).map (String.utf8EncodeChar (Char.ofNat code) ++ ·)

def decodeText (parts : List TextPart) : Option String := do
  String.fromUTF8? ⟨(← decodeParts parts).toArray⟩

def text? : Written → Option String
  | text parts => decodeText parts
  | _ => none

def nullable? (read : Written → Option α) : Written → Option (Option α)
  | null => some none
  | value => some <$> read value

mutual

/-- Whether all parts of a value mean something and it has at most `depth` levels of brackets. -/
def isSound : Nat → Written → Bool
  | _, null | _, boolean _ => true
  | _, number numeral => !numeral.overflows
  | _, text parts => (decodeText parts).isSome
  | 0, array _ | 0, object _ => false
  | depth + 1, array items => areSound depth items
  | depth + 1, object members => areSoundMembers depth members

def areSound : Nat → List Written → Bool
  | _, [] => true
  | depth, item :: items => item.isSound depth && areSound depth items

def areSoundMembers : Nat → List (List TextPart × Written) → Bool
  | _, [] => true
  | depth, (name, value) :: members =>
    (decodeText name).isSome && value.isSound depth && areSoundMembers depth members

end

end Written

end GatewayControl.Json
