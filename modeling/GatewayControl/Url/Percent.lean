import GatewayControl.Text.Digits

/-!
Percent-encoding: a byte is written as a percent sign and two hexadecimal digits. Each part of a URL
has its own set of characters that are encoded; characters beyond ASCII are encoded in all of them.
-/

namespace GatewayControl.Url

def isControl (char : Char) : Bool := char.toNat < 0x20 || 0x7e < char.toNat

def encodedInFragment (char : Char) : Bool :=
  isControl char || [' ', '"', '<', '>', '\x60'].contains char

def encodedInQuery (special : Bool) (char : Char) : Bool :=
  isControl char || [' ', '"', '#', '<', '>'].contains char || (special && char = '\'')

def encodedInPath (char : Char) : Bool :=
  encodedInFragment char || ['#', '?', '\x7b', '\x7d'].contains char

def encodedInUserInfo (char : Char) : Bool :=
  encodedInPath char || ['/', ':', ';', '=', '@', '[', '\\', ']', '^', '|'].contains char

def hexDigit (value : Nat) : Char := (Nat.digitChar value).toUpper

def encodeByte (byte : UInt8) : List Char :=
  ['%', hexDigit (byte.toNat / 16), hexDigit (byte.toNat % 16)]

def percentEncode (encoded : Char → Bool) (text : List Char) : List Char :=
  text.flatMap fun char =>
    if encoded char then (String.utf8EncodeChar char).flatMap encodeByte else [char]

/-- The bytes that a text with percent-encoded parts stands for. A percent sign without two digits
after it stands for itself. -/
def percentDecode : List Char → List UInt8
  | '%' :: high :: low :: rest =>
    match Text.digitValue high, Text.digitValue low with
    | some highValue, some lowValue =>
      UInt8.ofNat (highValue * 16 + lowValue) :: percentDecode rest
    | _, _ => String.utf8EncodeChar '%' ++ percentDecode (high :: low :: rest)
  | head :: rest => String.utf8EncodeChar head ++ percentDecode rest
  | [] => []

end GatewayControl.Url
