import GatewayControl.Text.Digits
import GatewayControl.Text.Split

/-!
Internet addresses in their usual written forms: four decimal numbers joined by dots, and eight
groups of hexadecimal digits joined by colons, where two colons stand for a run of zero groups and
the last two groups may be written in the dotted form.
-/

namespace GatewayControl.Net

def readOctet (digits : List Char) : Option Nat := do
  let value ← Text.readDigits 10 digits
  guard (value ≤ 255 && (digits.length = 1 || digits.head? != some '0'))
  return value

def readDotted (text : List Char) : Option (List Nat) := do
  let octets ← (Text.splitAt '.' text).mapM readOctet
  guard (octets.length = 4)
  return octets

def readGroup (digits : List Char) : Option Nat := do
  guard (digits.length ≤ 4)
  Text.readDigits 16 digits

/-- Groups joined by colons; the last one may be a dotted address, which counts for two. -/
def readGroups : List (List Char) → Option (List Nat)
  | [] => some []
  | [last] =>
    match readGroup last, readDotted last with
    | some group, _ => some [group]
    | none, some [a, b, c, d] => some [a * 256 + b, c * 256 + d]
    | none, _ => none
  | group :: groups => do
    return (← readGroup group) :: (← readGroups groups)

def breakAtColons : List Char → Option (List Char × List Char)
  | ':' :: ':' :: rest => some ([], rest)
  | head :: rest => (breakAtColons rest).map fun (before, after) => (head :: before, after)
  | [] => none

def groupTexts (text : List Char) : List (List Char) :=
  if text.isEmpty then [] else Text.splitAt ':' text

/-- The eight groups of an address. Two colons stand for at least one group. -/
def readIpv6 (text : List Char) : Option (List Nat) :=
  match breakAtColons text with
  | none => do
    let groups ← readGroups (groupTexts text)
    guard (groups.length = 8)
    return groups
  | some (before, after) => do
    let head ← (groupTexts before).mapM readGroup
    let tail ← readGroups (groupTexts after)
    guard (head.length + tail.length ≤ 7)
    return head ++ List.replicate (8 - head.length - tail.length) 0 ++ tail

inductive SocketAddress
  | ipv4 (octets : List Nat) (port : Nat)
  | ipv6 (groups : List Nat) (scope : Nat) (port : Nat)
deriving DecidableEq, Repr

def readPort (digits : List Char) : Option Nat := do
  let port ← Text.readDigits 10 digits
  guard (port ≤ 65535)
  return port

def readScope (digits : List Char) : Option Nat := do
  let scope ← Text.readDigits 10 digits
  guard (scope ≤ 0xffffffff)
  return scope

/-- Reads `address:port`. An address of groups stands in brackets, with an optional scope number
after a percent sign. -/
def SocketAddress.parse (text : String) : Option SocketAddress :=
  match text.toList with
  | '[' :: rest => do
    let (inside, _, after) ← Text.breakAt (· = ']') rest
    match after with
    | ':' :: port =>
      match Text.breakAt (· = '%') inside with
      | none => return .ipv6 (← readIpv6 inside) 0 (← readPort port)
      | some (groups, _, scope) =>
        return .ipv6 (← readIpv6 groups) (← readScope scope) (← readPort port)
    | _ => none
  | text => do
    let (address, _, port) ← Text.breakAt (· = ':') text
    return .ipv4 (← readDotted address) (← readPort port)

end GatewayControl.Net
