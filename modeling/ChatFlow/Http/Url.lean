import ChatFlow.Http.Punycode
import ChatFlow.Number.Reading
import ChatFlow.Pattern.Match
import ChatFlow.Pattern.Reader
import ChatFlow.Text.Quoted
import ChatFlow.Text.Utf8

/-!
# Addresses of requests

`Url.ofText` reads an address into its parts and brings them into their normal form: scheme and host
in lower case, the usual port left out, dots in the path resolved, and characters that may not stand
in a part written by their bytes. What is written so already stays as it is.
-/

namespace ChatFlow

/-- Why a text is no address. -/
inductive UrlFault where
  | tooLong
  | control (character : Char) (position : Nat)
  | badPort (port : String)
  | badIpv4 (host : String)
  | badIpv6 (host : String)
  | pathWithoutSlash
  | doubleSlash
  | leadingColon
  deriving DecidableEq, Repr

/-- The text of a fault in an address. -/
def UrlFault.message : UrlFault → String
  | .tooLong => "URL too long"
  | .control character position =>
    "Invalid non-printable ASCII character in URL, " ++ quoted (String.singleton character)
      ++ " at position " ++ decimalText position ++ "."
  | .badPort port => "Invalid port: " ++ quoted port
  | .badIpv4 host => "Invalid IPv4 address: " ++ quoted host
  | .badIpv6 host => "Invalid IPv6 address: " ++ quoted host
  | .pathWithoutSlash => "For absolute URLs, path must be empty or begin with '/'"
  | .doubleSlash => "Relative URLs cannot have a path starting with '//'"
  | .leadingColon => "Relative URLs cannot have a path starting with ':'"

/-- An address, in its parts. -/
structure Url where
  scheme : String
  userInfo : String
  host : String
  port : Option Int
  path : String
  query : Option String
  fragment : Option String
  deriving DecidableEq, Repr

/-- The most characters that an address may have. -/
def longestUrl : Nat := 65536

/-- Characters that stand for themselves in every part. -/
def isUnreserved (c : Char) : Bool :=
  isAsciiDigit c || isAsciiLetter c || "-._~".toList.contains c

/-- A printable ASCII character that is none of the given ones. -/
def isPlainExcept (excluded : String) (c : Char) : Bool :=
  0x20 ≤ c.toNat && c.toNat < 0x7F && !excluded.toList.contains c

/-- Characters that may stand in a path. -/
def isPathSafe : Char → Bool := isPlainExcept " \"#<>?`\x7b\x7d"

/-- Characters that may stand in a query. -/
def isQuerySafe : Char → Bool := isPlainExcept " \"#<>"

/-- Characters that may stand in a fragment. -/
def isFragmentSafe : Char → Bool := isPlainExcept " \"<>`"

/-- Characters that may stand before the host. -/
def isUserInfoSafe : Char → Bool := isPlainExcept " \"#<>?`\x7b\x7d/;=@[\\]^|"

/-- Characters that may stand in the name of a host. -/
def isHostSafe (c : Char) : Bool :=
  isUnreserved c || "!$&'()*+,;=\"`\x7b\x7d%|\\".toList.contains c

/-- A character written by its bytes. -/
def byteEscapes (c : Char) : List Char :=
  (utf8Bytes (String.singleton c)).flatMap fun b =>
    '%' :: (hexDigits 2 b.toNat).map Char.toUpper

/-- Whether the character is a hexadecimal digit. -/
def isHexDigit (c : Char) : Bool := (patternHexDigit? c).isSome

/-- Writes characters that may not stand in a part by their bytes; written bytes stay. -/
def escapeList (isSafe : Char → Bool) : List Char → List Char
  | '%' :: a :: b :: rest =>
    if isHexDigit a && isHexDigit b then '%' :: a :: b :: escapeList isSafe rest
    else (if isSafe '%' then ['%'] else byteEscapes '%') ++ escapeList isSafe (a :: b :: rest)
  | c :: rest =>
    (if isUnreserved c || isSafe c then [c] else byteEscapes c) ++ escapeList isSafe rest
  | [] => []

/-- Writes characters that may not stand in a part by their bytes. -/
def escapePart (isSafe : Char → Bool) (s : String) : String :=
  String.ofList (escapeList isSafe s.toList)

/-- Splits a text before the first character that passes a test. -/
def cutAt (test : Char → Bool) (cs : List Char) : List Char × List Char :=
  (cs.takeWhile (!test ·), cs.dropWhile (!test ·))

/-- Splits off a scheme and its colon. -/
def takeScheme (cs : List Char) : String × List Char :=
  let isSchemeChar (c : Char) : Bool :=
    isAsciiDigit c || isAsciiLetter c || c == '+' || c == '.' || c == '-'
  match cutAt (!isSchemeChar ·) cs with
  | (name, ':' :: rest) =>
    if name.head?.all isAsciiLetter then (String.ofList name, rest) else ("", cs)
  | _ => ("", cs)

/-- Splits off what stands between two slashes and the path. -/
def takeAuthority : List Char → List Char × List Char
  | '/' :: '/' :: rest => cutAt (fun c => c == '/' || c == '?' || c == '#') rest
  | cs => ([], cs)

/-- Splits off the part that follows a mark, if the text begins with the mark. -/
def takeMarked (mark : Char) (stop : Char → Bool) : List Char → Option String × List Char
  | c :: rest =>
    if c == mark then
      let (part, after) := cutAt stop rest
      (some (String.ofList part), after)
    else (none, c :: rest)
  | [] => (none, [])

/-- Splits off everything up to the last character of a kind, which is dropped. -/
def takeThroughLast? (mark : Char) (cs : List Char) : Option (List Char × List Char) :=
  if cs.contains mark then
    let after := (cs.reverse.takeWhile (· != mark)).reverse
    some (cs.take (cs.length - after.length - 1), after)
  else none

/-- Splits a host, which may stand in brackets, from the port after it. -/
def takeHost (cs : List Char) : List Char × List Char :=
  let bare := cutAt (fun c => c == ':' || c == '@') cs
  let (host, rest) :=
    match cs with
    | '[' :: _ =>
      match takeThroughLast? ']' cs with
      | some (inside, after) => (inside ++ [']'], after)
      | none => bare
    | _ => bare
  (host, if rest.head? == some ':' then rest.tail else rest)

/-- Whether a host looks like four numbers. -/
def looksLikeIpv4 (host : String) : Bool :=
  match readPattern "^[0-9]+.[0-9]+.[0-9]+.[0-9]+$" with
  | .ok pattern => pattern.foundIn host
  | .error _ => false

/-- Whether a text is a number from 0 to 255 without needless zeros. -/
def isOctet (s : String) : Bool :=
  let digits := s.toList
  !digits.isEmpty && digits.length ≤ 3 && digits.all isAsciiDigit &&
    (digits.length = 1 || digits.head? != some '0') && natOfDigits (digits.map asciiDigit) ≤ 255

/-- Whether a text is four such numbers between dots. -/
def isIpv4 (host : String) : Bool :=
  let parts := splitText "." host
  parts.length = 4 && parts.all isOctet

/-- Whether a text is a group of an IPv6 address. -/
def isHexGroup (s : String) : Bool :=
  !s.isEmpty && s.length ≤ 4 && s.toList.all isHexDigit

/-- The number of groups that the parts of an IPv6 address stand for; four numbers at the end stand
for two. -/
def countGroups? (parts : List String) (mayEndInIpv4 : Bool) : Option Nat :=
  match parts.reverse with
  | [] => some 0
  | last :: others =>
    if !others.all isHexGroup then none
    else if isHexGroup last then some parts.length
    else if mayEndInIpv4 && isIpv4 last then some (parts.length + 1)
    else none

/-- Whether a text is an IPv6 address: eight groups, or fewer with one gap. -/
def isIpv6 (address : String) : Bool :=
  let groups (s : String) : List String := if s.isEmpty then [] else splitText ":" s
  match splitText "::" address with
  | [whole] => countGroups? (groups whole) true == some 8
  | [before, after] =>
    match countGroups? (groups before) false, countGroups? (groups after) true with
    | some a, some b => a + b < 8
    | _, _ => false
  | _ => false

/-- The normal form of a host. -/
def normalHost (host : String) : Except UrlFault String :=
  let cs := host.toList
  if host.isEmpty then .ok ""
  else if looksLikeIpv4 host then if isIpv4 host then .ok host else .error (.badIpv4 host)
  else if cs.head? == some '[' && cs.getLast? == some ']' then
    let inside := String.ofList cs.tail.dropLast
    if isIpv6 inside then .ok inside else .error (.badIpv6 host)
  else if cs.all (·.toNat < 0x80) then .ok (escapePart isHostSafe (toLowerText host))
  else .ok (asciiHostName host)

/-- The port that a scheme uses if none is given. -/
def usualPort? (scheme : String) : Option Int :=
  [("ftp", 21), ("http", 80), ("https", 443), ("ws", 80), ("wss", 443)].lookup scheme

/-- The normal form of a port. -/
def normalPort (scheme : String) (port : List Char) : Except UrlFault (Option Int) :=
  if port.isEmpty then .ok none
  else
    let (negative, digits) := takeSign (trimList isBlank port)
    match (dropLowLines? none (digits.map asciiForDigit)).bind fun cs =>
        decimalNat? (String.ofList cs) with
    | none => .error (.badPort (String.ofList port))
    | some n =>
      let number : Int := if negative then -n else n
      .ok (if usualPort? scheme = some number then none else some number)

/-- Takes the steps of a path that stay or go up: a dot is dropped, and two dots drop the part
before them, but never the start of the path. -/
def resolveDots (path : String) : String :=
  let step (parts : List String) (part : String) : List String :=
    if part == "." then parts
    else if part == ".." then (if parts == [""] then parts else parts.dropLast)
    else parts ++ [part]
  "/".intercalate ((splitText "/" path).foldl step [])

namespace Url

/-- Checks that a path fits to what stands before it. -/
def checkPath (path : String) (hasScheme hasAuthority : Bool) : Except UrlFault Unit :=
  if hasAuthority && !path.isEmpty && !startsWithText path "/" then .error .pathWithoutSlash
  else if hasScheme || hasAuthority then .ok ()
  else if startsWithText path "//" then .error .doubleSlash
  else if startsWithText path ":" then .error .leadingColon
  else .ok ()

/-- Refuses texts that are too long or hold control characters. -/
def checkText (text : String) : Except UrlFault Unit :=
  let isControl (c : Char) : Bool := c.toNat < 0x20 || c.toNat = 0x7F
  if longestUrl < text.length then .error .tooLong
  else
    let before := text.toList.takeWhile (!isControl ·)
    match text.toList.drop before.length with
    | [] => .ok ()
    | c :: _ => .error (.control c before.length)

/-- Reads an address. -/
def ofText (text : String) : Except UrlFault Url := do
  checkText text
  let (scheme, rest) := takeScheme text.toList
  let (authority, rest) := takeAuthority rest
  let (path, rest) := cutAt (fun c => c == '?' || c == '#') rest
  let (query, rest) := takeMarked '?' (· == '#') rest
  let (fragment, _) := takeMarked '#' (fun _ => false) rest
  let (userInfo, hostAndPort) := (takeThroughLast? '@' authority).getD ([], authority)
  let (host, port) := takeHost hostAndPort
  let userInfo := escapePart isUserInfoSafe (String.ofList userInfo)
  let host ← normalHost (String.ofList host)
  let port ← normalPort scheme port
  let hasScheme := !scheme.isEmpty
  let hasAuthority := !userInfo.isEmpty || !host.isEmpty || port.isSome
  let path := String.ofList path
  checkPath path hasScheme hasAuthority
  let path := if hasScheme || hasAuthority then resolveDots path else path
  return ⟨toLowerText scheme, userInfo, host, port, escapePart isPathSafe path,
    query.map (escapePart isQuerySafe), fragment.map (escapePart isFragmentSafe)⟩

/-- Whether an address names a scheme and a host. -/
def isAbsolute (url : Url) : Bool :=
  !url.scheme.isEmpty && !url.host.isEmpty

/-- An address that names no host, as a path from the root. -/
def asRootPath (url : Url) : Url :=
  let path := String.ofList ('/' :: url.path.toList.dropWhile (· == '/'))
  ⟨"", "", "", none, path, url.query, none⟩

/-- The text of an address. -/
def toText (url : Url) : String :=
  let host := if url.host.toList.contains ':' then "[" ++ url.host ++ "]" else url.host
  let authority := (if url.userInfo.isEmpty then "" else url.userInfo ++ "@") ++ host
    ++ ((url.port.map fun port => ":" ++ integerText port).getD "")
  (if url.scheme.isEmpty then "" else url.scheme ++ ":")
    ++ (if authority.isEmpty then "" else "//" ++ authority)
    ++ url.path ++ ((url.query.map ("?" ++ ·)).getD "") ++ ((url.fragment.map ("#" ++ ·)).getD "")

end Url

end ChatFlow
