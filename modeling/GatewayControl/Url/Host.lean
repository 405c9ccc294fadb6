import GatewayControl.Net.Address
import GatewayControl.Url.Percent

/-!
Hosts of URLs: domain names, and addresses, which are brought into one written form. A domain whose
last label is a number is an address of up to four numbers, each in base ten, eight or sixteen.

How an internationalized domain name is brought into ASCII (its mapping, normalization and Punycode)
is left to an instance of `DomainToAscii`, and what is proved about URLs holds for all of them. The
instance that runs knows names in ASCII only and takes a label in Punycode as it stands.
-/

namespace GatewayControl

inductive UrlFault
  | noBase
  | opaqueBase
  | emptyHost
  | invalidPort
  | invalidIpv4
  | invalidIpv6
  | invalidDomain
deriving DecidableEq, Repr

def UrlFault.message : UrlFault → String
  | noBase => "relative URL without a base"
  | opaqueBase => "relative URL with a cannot-be-a-base base"
  | emptyHost => "empty host"
  | invalidPort => "invalid port number"
  | invalidIpv4 => "invalid IPv4 address"
  | invalidIpv6 => "invalid IPv6 address"
  | invalidDomain => "invalid domain character"

/-- The step of a host parser that needs the tables of Unicode: from the bytes of a domain name to the
name in ASCII, if it has one. -/
class DomainToAscii where
  toAscii : List UInt8 → Option (List Char)

instance asciiDomains : DomainToAscii where
  toAscii bytes :=
    if bytes.any (fun byte => byte ≥ 0x80) then none
    else some (bytes.map fun byte => (Char.ofNat byte.toNat).toLower)

inductive Host
  | domain (name : String)
  | ipv4 (address : Nat)
  | ipv6 (groups : List Nat)
deriving DecidableEq, Repr

namespace Host

def forbidden (char : Char) : Bool :=
  ['\x00', '\t', '\n', '\r', ' ', '#', '/', ':', '<', '>', '?', '@', '[', '\\', ']', '^',
    '|'].contains char

def forbiddenInDomain (char : Char) : Bool :=
  forbidden char || Url.isControl char || char = '%'

/-- A number in base ten, or in base sixteen after `0x`, or in base eight after another zero. -/
def readNumber (text : List Char) : Option Nat :=
  match text with
  | ['0', 'x'] | ['0', 'X'] => some 0
  | '0' :: 'x' :: digits | '0' :: 'X' :: digits => Text.readDigits 16 digits
  | '0' :: digit :: digits => Text.readDigits 8 (digit :: digits)
  | digits => Text.readDigits 10 digits

/-- The labels of a domain, without the empty one after a dot at its end. -/
def labels (domain : List Char) : List (List Char) :=
  let labels := Text.splitAt '.' domain
  if labels.length > 1 && labels.getLast? = some [] then labels.dropLast else labels

def endsInNumber (domain : List Char) : Bool :=
  match (labels domain).getLast? with
  | none => false
  | some label =>
    !label.isEmpty && (label.all Char.isDigit || (readNumber label).isSome)

/-- The address of the numbers: all but the last are single bytes, the last fills what is left. -/
def ipv4OfNumbers (numbers : List Nat) : Option Nat := do
  let last ← numbers.getLast?
  let leading := numbers.dropLast
  guard (leading.length ≤ 3 && leading.all (· ≤ 255) && last < Nat.pow 256 (4 - leading.length))
  return leading.foldl (fun address number => address * 256 + number) 0 *
    Nat.pow 256 (4 - leading.length) + last

def readIpv4 (domain : List Char) : Except UrlFault Host :=
  match (labels domain).mapM readNumber >>= ipv4OfNumbers with
  | some address => .ok (.ipv4 address)
  | none => .error .invalidIpv4

def readBracketed (text : List Char) : Except UrlFault Host :=
  match text.getLast?, Net.readIpv6 text.dropLast with
  | some ']', some groups => .ok (.ipv6 groups)
  | _, _ => .error .invalidIpv6

def parse [DomainToAscii] (text : List Char) : Except UrlFault Host :=
  match text with
  | '[' :: rest => readBracketed rest
  | text =>
    match DomainToAscii.toAscii (Url.percentDecode text) with
    | none => .error .invalidDomain
    | some ascii =>
      if ascii.any forbiddenInDomain then .error .invalidDomain
      else if ascii.isEmpty then .error .emptyHost
      else if endsInNumber ascii then readIpv4 ascii
      else .ok (.domain (String.ofList ascii))

def parseOpaque (text : List Char) : Except UrlFault Host :=
  match text with
  | '[' :: rest => readBracketed rest
  | text =>
    if text.any forbidden then .error .invalidDomain
    else .ok (.domain (String.ofList (Url.percentEncode Url.isControl text)))

def longestZeros (groups : List Nat) : Nat × Nat :=
  let runs := (List.range groups.length).map fun start =>
    (start, ((groups.drop start).takeWhile (· = 0)).length)
  runs.foldl (fun best run => if run.2 > best.2 then run else best) (0, 0)

def renderGroups (groups : List Nat) : String :=
  ":".intercalate (groups.map fun group => String.ofList (Nat.toDigits 16 group))

/-- Eight groups, where the first longest run of two or more zeros is left out. -/
def renderIpv6 (groups : List Nat) : String :=
  let (start, length) := longestZeros groups
  if length < 2 then renderGroups groups
  else renderGroups (groups.take start) ++ "::" ++ renderGroups (groups.drop (start + length))

def render : Host → String
  | domain name => name
  | ipv4 address =>
    ".".intercalate ([24, 16, 8, 0].map fun shift => toString (address / Nat.pow 2 shift % 256))
  | ipv6 groups => "[" ++ renderIpv6 groups ++ "]"

end Host

end GatewayControl
