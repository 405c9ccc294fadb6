import GatewayControl.Text.Quoted

/-!
JSON values and their written form: no blanks between the parts, members in their order, and in
texts nothing escaped but what has to be.
-/

namespace GatewayControl

inductive Json
  | null
  | text (content : String)
  | array (items : List Json)
  | object (members : List (String × Json))

namespace Json

def ofOption : Option String → Json
  | none => null
  | some content => text content

def writeChar (char : Char) : String :=
  if char = '"' then "\\\""
  else if char = '\\' then "\\\\"
  else if char = '\n' then "\\n"
  else if char = '\r' then "\\r"
  else if char = '\t' then "\\t"
  else if char = '\x08' then "\\b"
  else if char = '\x0c' then "\\f"
  else if char.toNat < 0x10 then "\\u000" ++ Text.hexDigits char.toNat
  else if char.toNat < 0x20 then "\\u00" ++ Text.hexDigits char.toNat
  else char.toString

def writeText (content : String) : String :=
  "\"" ++ String.join (content.toList.map writeChar) ++ "\""

mutual

def write : Json → String
  | null => "null"
  | text content => writeText content
  | array items => "[" ++ writeItems items ++ "]"
  | object members => "\x7b" ++ writeMembers members ++ "\x7d"

def writeItems : List Json → String
  | [] => ""
  | [item] => item.write
  | item :: items => item.write ++ "," ++ writeItems items

def writeMembers : List (String × Json) → String
  | [] => ""
  | [(name, value)] => writeText name ++ ":" ++ value.write
  | (name, value) :: members =>
    writeText name ++ ":" ++ value.write ++ "," ++ writeMembers members

end

end Json

end GatewayControl
