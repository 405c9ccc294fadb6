import GatewayControl.Url.Percent
import GatewayControl.Text.Split

/-!
Parameters in the query of a URL: pairs of names and values joined by ampersands. A plus sign is a
blank, other characters can be percent-encoded, and bytes that are no UTF-8 are replaced.
-/

namespace GatewayControl.Url

/-- How many bytes follow the first byte of a character, and the range of the byte after it. -/
def sequenceRule (first : Nat) : Option (Nat × Nat × Nat) :=
  if 0xc2 ≤ first && first ≤ 0xdf then some (1, 0x80, 0xbf)
  else if first = 0xe0 then some (2, 0xa0, 0xbf)
  else if first = 0xed then some (2, 0x80, 0x9f)
  else if 0xe1 ≤ first && first ≤ 0xef then some (2, 0x80, 0xbf)
  else if first = 0xf0 then some (3, 0x90, 0xbf)
  else if 0xf1 ≤ first && first ≤ 0xf3 then some (3, 0x80, 0xbf)
  else if first = 0xf4 then some (3, 0x80, 0x8f)
  else none

/-- The code point of a character, of which `value` is known and `count` bytes are to come, with
how many bytes were taken. Without a code point, the bytes taken are those of a sequence that breaks
off. -/
def readSequence (value : Nat) (low high : Nat) : Nat → List UInt8 → Option Nat × Nat
  | 0, _ => (some value, 0)
  | _ + 1, [] => (none, 0)
  | count + 1, byte :: rest =>
    if low ≤ byte.toNat && byte.toNat ≤ high then
      let (code, taken) := readSequence (value * 0x40 + (byte.toNat - 0x80)) 0x80 0xbf count rest
      (code, taken + 1)
    else (none, 0)

def replacement : Char := '\ufffd'

/-- The text that bytes stand for. A longest part of a character that breaks off, and a byte that
starts none, are replaced by one character each. -/
def decodeLossy (bytes : List UInt8) : List Char :=
  match bytes with
  | [] => []
  | byte :: rest =>
    if byte.toNat < 0x80 then Char.ofNat byte.toNat :: decodeLossy rest
    else
      match sequenceRule byte.toNat with
      | none => replacement :: decodeLossy rest
      | some (count, low, high) =>
        let (code, taken) := readSequence (byte.toNat % Nat.pow 2 (6 - count)) low high count rest
        ((code.map Char.ofNat).getD replacement) :: decodeLossy (rest.drop taken)
termination_by bytes.length

def decodeFormPart (part : List Char) : String :=
  String.ofList (decodeLossy (percentDecode (part.map fun char => if char = '+' then ' ' else char)))

def formPair (part : List Char) : String × String :=
  match Text.breakAt (· = '=') part with
  | some (name, _, value) => (decodeFormPart name, decodeFormPart value)
  | none => (decodeFormPart part, "")

def formPairs (query : String) : List (String × String) :=
  ((Text.splitAt '&' query.toList).filter fun part => !part.isEmpty).map formPair

def formValue? (query name : String) : Option String :=
  ((formPairs query).reverse.find? fun pair => pair.1 = name).map Prod.snd

end GatewayControl.Url
