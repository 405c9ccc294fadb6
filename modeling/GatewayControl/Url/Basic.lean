import GatewayControl.Url.Host

/-!
URLs: absolute ones read from text, and references resolved against a base. Tabs and line ends are
taken out of a text first, and blanks and control characters cut off at its ends. Special schemes
have a default port and take a backslash for a slash. A path is a list of segments, whose
dot segments are resolved when it is read; only a URL without slashes after its scheme has a plain
text in its place.
-/

namespace GatewayControl

inductive UrlPath
  | plain (text : String)
  | segments (segments : List String)
deriving DecidableEq, Repr

structure Url where
  scheme : String
  username : String := ""
  password : String := ""
  host : Option Host := none
  port : Option Nat := none
  path : UrlPath
  query : Option String := none
  fragment : Option String := none
deriving DecidableEq, Repr

namespace Url

def isFile (scheme : String) : Bool := scheme = "file"

def isSpecial (scheme : String) : Bool :=
  ["http", "https", "ws", "wss", "ftp", "file"].contains scheme

def defaultPort (scheme : String) : Option Nat :=
  if scheme = "http" || scheme = "ws" then some 80
  else if scheme = "https" || scheme = "wss" then some 443
  else if scheme = "ftp" then some 21
  else none

def isSlash (special : Bool) (char : Char) : Bool := char = '/' || (special && char = '\\')

def cleaned (text : String) : List Char :=
  let outer (char : Char) : Bool := char.toNat ≤ 0x20
  let inner := (text.toList.dropWhile outer).reverse.dropWhile outer
  inner.reverse.filter fun char => !(char = '\t' || char = '\n' || char = '\r')

def splitScheme (text : List Char) : Option (String × List Char) :=
  let isSchemeChar (char : Char) : Bool :=
    char.isAlphanum || char = '+' || char = '-' || char = '.'
  match text.head?, text.dropWhile isSchemeChar with
  | some head, ':' :: rest =>
    if head.isAlpha then
      some (String.ofList ((text.takeWhile isSchemeChar).map Char.toLower), rest)
    else none
  | _, _ => none

def isSingleDot (segment : List Char) : Bool :=
  let lower := segment.map Char.toLower
  lower = ['.'] || lower = "%2e".toList

def isDoubleDot (segment : List Char) : Bool :=
  let lower := segment.map Char.toLower
  ["..", ".%2e", "%2e.", "%2e%2e"].any fun form => lower = form.toList

/-- Adds segments to a path. Two dots take the segment before them away; dots at the end leave an
empty segment, so that the path ends in a slash. -/
def addSegments (path : List String) : List (List Char) → List String
  | [] => path
  | [last] =>
    if isDoubleDot last then path.dropLast ++ [""]
    else if isSingleDot last then path ++ [""]
    else path ++ [String.ofList (percentEncode encodedInPath last)]
  | segment :: segments =>
    if isDoubleDot segment then addSegments path.dropLast segments
    else if isSingleDot segment then addSegments path segments
    else addSegments (path ++ [String.ofList (percentEncode encodedInPath segment)]) segments

def splitSegments (special : Bool) (text : List Char) : List (List Char) :=
  Text.splitAt '/' (if special then text.map fun char => if char = '\\' then '/' else char else text)

def splitTail (text : List Char) : List Char × Option (List Char) × Option (List Char) :=
  let beforeFragment := text.takeWhile (· != '#')
  let fragment := (text.dropWhile (· != '#')).tail?
  (beforeFragment.takeWhile (· != '?'), (beforeFragment.dropWhile (· != '?')).tail?, fragment)

def encodeQuery (special : Bool) (query : List Char) : String :=
  String.ofList (percentEncode (encodedInQuery special) query)

def encodeFragment (fragment : List Char) : String :=
  String.ofList (percentEncode encodedInFragment fragment)

/-- The path that follows an authority. A special URL has a path even if none is written. -/
def pathAfterAuthority (special : Bool) (text : List Char) : List String :=
  match text with
  | [] => if special then [""] else []
  | head :: rest =>
    addSegments [] (splitSegments special (if isSlash special head then rest else head :: rest))

def readUserInfo (authority : List Char) : Option (String × String) × List Char :=
  let hostAndPort := (authority.reverse.takeWhile (· != '@')).reverse
  if hostAndPort.length = authority.length then (none, authority)
  else
    let userInfo := authority.take (authority.length - hostAndPort.length - 1)
    let encode (text : List Char) : String := String.ofList (percentEncode encodedInUserInfo text)
    let name := userInfo.takeWhile (· != ':')
    let password := (userInfo.dropWhile (· != ':')).drop 1
    (some (encode name, encode password), hostAndPort)

/-- The host's text and what follows it; a colon inside brackets belongs to the host. -/
def splitHost (inBrackets : Bool) : List Char → List Char × List Char
  | [] => ([], [])
  | head :: rest =>
    if head = ':' && !inBrackets then ([], head :: rest)
    else
      let (host, after) := splitHost (head = '[' || (inBrackets && head != ']')) rest
      (head :: host, after)

def readPort (scheme : String) (digits : List Char) : Except UrlFault (Option Nat) :=
  if digits.isEmpty then .ok none
  else
    match Text.readDigits 10 digits with
    | none => .error .invalidPort
    | some port =>
      if port > 65535 then .error .invalidPort
      else .ok (if some port = defaultPort scheme then none else some port)

def parseAuthority [DomainToAscii] (scheme : String) (text : List Char) : Except UrlFault Url := do
  let special := isSpecial scheme
  let endsAuthority (char : Char) : Bool := isSlash special char || char = '?' || char = '#'
  let authority := text.takeWhile fun char => !endsAuthority char
  let (path, query, fragment) := splitTail (text.dropWhile fun char => !endsAuthority char)
  let (userInfo, hostAndPort) := readUserInfo authority
  let (hostText, portText) := splitHost false hostAndPort
  if hostText.isEmpty && (special || !portText.isEmpty || userInfo.isSome) then throw .emptyHost
  let host ←
    if hostText.isEmpty then pure none
    else if special then some <$> Host.parse hostText
    else some <$> Host.parseOpaque hostText
  let port ← readPort scheme (portText.drop 1)
  let (username, password) := userInfo.getD ("", "")
  return {
    scheme, username, password, host, port
    path := .segments (pathAfterAuthority special path)
    query := query.map (encodeQuery special)
    fragment := fragment.map encodeFragment }

def isDriveLetter (segment : List Char) : Bool :=
  match segment with
  | [letter, mark] => letter.isAlpha && (mark = ':' || mark = '|')
  | _ => false

/-- Reads what follows the scheme of a file URL. It has a host only between two slashes and a path
that does not start with a drive letter. -/
def parseFile [DomainToAscii] (text : List Char) : Except UrlFault Url := do
  let (path, query, fragment) := splitTail text
  let build (host : Option Host) (path : List Char) : Url :=
    let segments := addSegments [] (splitSegments true (path.dropWhile (isSlash true)))
    let onDrive := isDriveLetter ((splitSegments true (path.dropWhile (isSlash true))).headD [])
    { scheme := "file"
      host := if onDrive then none else host
      path := .segments segments
      query := query.map (encodeQuery true)
      fragment := fragment.map encodeFragment }
  match path with
  | first :: second :: rest =>
    if isSlash true first && isSlash true second then
      let hostText := rest.takeWhile fun char => !isSlash true char
      if hostText.isEmpty || isDriveLetter hostText then return build none rest
      else
        let host ← Host.parse hostText
        let host := if host = .domain "localhost" then none else some host
        return build host (rest.dropWhile fun char => !isSlash true char)
    else return build none path
  | path => return build none path

def parseAfterScheme [DomainToAscii] (scheme : String) (text : List Char) : Except UrlFault Url :=
  if isFile scheme then parseFile text
  else if isSpecial scheme then
    parseAuthority scheme (text.dropWhile (isSlash true))
  else
    match text with
    | '/' :: '/' :: rest => parseAuthority scheme rest
    | _ =>
      let (path, query, fragment) := splitTail text
      let path :=
        match path with
        | '/' :: rest => UrlPath.segments (addSegments [] (splitSegments false rest))
        | _ => .plain (String.ofList (percentEncode isControl path))
      .ok {
        scheme, path
        query := query.map (encodeQuery false)
        fragment := fragment.map encodeFragment }

def parse [DomainToAscii] (text : String) : Except UrlFault Url :=
  match splitScheme (cleaned text) with
  | some (scheme, rest) => parseAfterScheme scheme rest
  | none => .error .noBase

def resolve [DomainToAscii] (base : Url) (segments : List String) (text : List Char) :
    Except UrlFault Url :=
  let special := isSpecial base.scheme
  let (path, query, fragment) := splitTail text
  let fragment := fragment.map encodeFragment
  let withPath (segments : List String) : Url :=
    { base with path := .segments segments, query := query.map (encodeQuery special), fragment }
  match path with
  | [] =>
    match query with
    | none => .ok { base with fragment }
    | some _ => .ok (withPath segments)
  | first :: rest =>
    if isSlash special first then
      match rest with
      | second :: authority =>
        if isSlash special second then
          if isFile base.scheme then parseFile text
          else
            parseAuthority base.scheme
              (if special then text.dropWhile (isSlash true) else (authority ++ text.drop path.length))
        else .ok (withPath (addSegments [] (splitSegments special rest)))
      | [] => .ok (withPath (addSegments [] (splitSegments special rest)))
    else .ok (withPath (addSegments segments.dropLast (splitSegments special path)))

def join [DomainToAscii] (base : Url) (reference : String) : Except UrlFault Url :=
  let text := cleaned reference
  match splitScheme text with
  | some (scheme, rest) =>
    let slashes := rest.takeWhile (isSlash true)
    match base.path with
    | .segments segments =>
      if scheme = base.scheme && isSpecial scheme && slashes.length < 2 then
        resolve base segments rest
      else parseAfterScheme scheme rest
    | .plain _ => parseAfterScheme scheme rest
  | none =>
    match base.path with
    | .segments segments => resolve base segments text
    | .plain _ =>
      match text with
      | '#' :: fragment => .ok { base with fragment := some (encodeFragment fragment) }
      | _ => .error .opaqueBase

def renderPath (hasHost : Bool) : UrlPath → String
  | .plain text => text
  | .segments segments =>
    let path := String.join (segments.map fun segment => "/" ++ segment)
    match hasHost, segments with
    | false, "" :: _ :: _ => "/." ++ path
    | _, _ => path

def renderAuthority (url : Url) (host : Host) : String :=
  let password := if url.password = "" then "" else ":" ++ url.password
  let userInfo := if url.username = "" && url.password = "" then "" else url.username ++ password ++ "@"
  let port := match url.port with
    | some port => ":" ++ toString port
    | none => ""
  "//" ++ userInfo ++ host.render ++ port

def render (url : Url) : String :=
  let authority := match url.host with
    | some host => renderAuthority url host
    | none => if isFile url.scheme then "//" else ""
  let query := match url.query with
    | some query => "?" ++ query
    | none => ""
  let fragment := match url.fragment with
    | some fragment => "#" ++ fragment
    | none => ""
  url.scheme ++ ":" ++ authority ++ renderPath url.host.isSome url.path ++ query ++ fragment

/-- The URL with a path that ends in a slash: an empty segment is added unless the last one is
empty. -/
def withTrailingSlash (url : Url) : Url :=
  match url.path with
  | .plain _ => url
  | .segments segments =>
    if segments.getLast? = some "" then url
    else { url with path := .segments (segments ++ [""]) }

end Url

end GatewayControl
