import GatewayControl.Text.Unprintable

/-!
Quoted texts and characters, as error messages show them. The quote, the backslash and what cannot
be printed are escaped.
-/

namespace GatewayControl.Text

def hexDigits (value : Nat) : String := String.ofList (Nat.toDigits 16 value)

def quotedChar (quote : Char) (char : Char) : String :=
  if char = '\x00' then "\\0"
  else if char = '\t' then "\\t"
  else if char = '\r' then "\\r"
  else if char = '\n' then "\\n"
  else if char = '\\' || char = quote then String.ofList ['\\', char]
  else if isUnprintable char then "\\u\x7b" ++ hexDigits char.toNat ++ "\x7d"
  else char.toString

def quote (text : String) : String :=
  "\"" ++ String.join (text.toList.map (quotedChar '"')) ++ "\""

def quoteChar (char : Char) : String := "'" ++ quotedChar '\'' char ++ "'"

end GatewayControl.Text
