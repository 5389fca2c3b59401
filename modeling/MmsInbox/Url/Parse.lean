import MmsInbox.Url.Path

namespace MmsInbox.Url

/-!
# Reading addresses

An address is read as browsers do (the URL Standard), without a base to which it could be relative.
Controls and blanks around it are left out, and so are tabs and line ends within it.
-/

/-- The character is left out at both ends of an address. -/
def isMargin (c : Char) : Bool :=
  c.toNat ≤ 0x20

/-- The characters of an address that count. -/
def relevant (text : String) : List Char :=
  let front := text.toList.dropWhile isMargin
  (front.reverse.dropWhile isMargin).reverse.filter fun c => c ≠ '\t' ∧ c ≠ '\n' ∧ c ≠ '\r'

/-- The character can stand in a scheme. -/
def continuesScheme (c : Char) : Bool :=
  c.isAlphanum || c == '+' || c == '-' || c == '.'

/-- The scheme in small letters and what follows its colon. -/
def scheme? (text : List Char) : Option (String × List Char) :=
  let scheme := text.takeWhile continuesScheme
  match scheme, text.drop scheme.length with
  | first :: _, ':' :: rest =>
      if first.isAlpha then some (String.ofList (scheme.map Char.toLower), rest) else none
  | _, _ => none

/-- The character ends what stands between the slashes and the path. -/
def endsAuthority (isSpecial : Bool) (c : Char) : Bool :=
  c == '/' || c == '?' || c == '#' || (isSpecial && c == '\\')

/-- The parts of a text before and after its last `@`; none if there is no `@`. -/
def atLastAt? (text : List Char) : Option (List Char × List Char) :=
  let after := (text.reverse.takeWhile (· ≠ '@')).reverse
  if after.length < text.length then some (text.take (text.length - after.length - 1), after)
  else none

/-- The credentials that stand in front of an `@`. An empty password is no password. -/
def readCredentials (text : List Char) : Credentials :=
  let userName := text.takeWhile (· ≠ ':')
  let password := text.drop (userName.length + 1)
  { userName := String.ofList (percentEncode inUserInfo userName)
    password :=
      if password.isEmpty then none
      else some (String.ofList (percentEncode inUserInfo password)) }

/-- The parts of a text before and after the first colon outside brackets, with the colon at the front
of the second. -/
def splitPort : (inBrackets : Bool) → List Char → List Char × List Char
  | _, [] => ([], [])
  | inBrackets, c :: rest =>
      if c = ':' ∧ !inBrackets then ([], c :: rest)
      else
        let inside := if c = '[' then true else if c = ']' then false else inBrackets
        let (host, port) := splitPort inside rest
        (c :: host, port)

/-- Read a port behind its colon, and tell what is left. A backslash ends the port. -/
def readPort (text : List Char) : Except UrlError (Option UInt16 × List Char) :=
  let digits := text.takeWhile Char.isDigit
  let rest := text.drop digits.length
  let number := Text.positional 10 (digits.map fun c => c.toNat - '0'.toNat)
  if 0x10000 ≤ number ∨ (rest.head?.any (· ≠ '\\')) then .error .invalidPort
  else .ok (if digits.isEmpty then none else some (.ofNat number), rest)

/-- What stands between the slashes and the path. -/
structure Authority where
  credentials : Credentials
  host : Host
  port : Option UInt16
  /-- What is left and belongs to the path. -/
  rest : List Char

/-- Read host and port. The host of a special scheme is not empty, and neither is one with a port. -/
def readHostAndPort
    (scheme : String)
    (credentials : Credentials)
    (text : List Char) :
    Except UrlError Authority := do
  let (hostText, portText) := splitPort false text
  let isSpecial := isSpecialScheme scheme
  if hostText.isEmpty ∧ (isSpecial ∨ !portText.isEmpty) then throw .emptyHost
  let host ← if isSpecial then Host.ofSpecial hostText else Host.ofPlain hostText
  let (port, rest) ← match portText with
    | _ :: digits => readPort digits
    | [] => pure (none, [])
  if host = .empty ∧ credentials ≠ .nobody then throw .emptyHost
  return ⟨credentials, host, port.filter (standardPorts.lookup scheme ≠ some ·), rest⟩

/-- Read what stands between the slashes and the path. An `@` alone is followed by a host unless
something else follows. -/
def readAuthority
    (scheme : String)
    (text : List Char)
    (isFollowed : Bool) :
    Except UrlError Authority :=
  match atLastAt? text with
  | none => readHostAndPort scheme .nobody text
  | some ([], []) =>
      if isFollowed then .error .emptyHost else readHostAndPort scheme .nobody []
  | some (before, after) => readHostAndPort scheme (readCredentials before) after

/-- An address whose path, query and fragment are still to be read. -/
def withRest
    (scheme : String)
    (credentials : Credentials)
    (host : Option Host)
    (port : Option UInt16)
    (path : List Char → Path)
    (text : List Char) :
    Url :=
  let beforeFragment := text.takeWhile (· ≠ '#')
  let beforeQuery := beforeFragment.takeWhile (· ≠ '?')
  let querySet := if isSpecialScheme scheme then inSpecialQuery else inQuery
  let part := fun (set : EncodeSet) (marked : List Char) =>
    match marked with
    | [] => none
    | _ :: content => some (String.ofList (percentEncode set content))
  { scheme := scheme
    credentials := credentials
    host := host
    port := port
    path := path beforeQuery
    query := part querySet (beforeFragment.drop beforeQuery.length)
    fragment := part inFragment (text.drop beforeFragment.length) }

/-- A path of names. The slash in front may be missing. -/
def namedPath
    (scheme : String)
    (text : List Char) :
    Path :=
  match text with
  | [] => .segments (if isSpecialScheme scheme then [""] else [])
  | c :: rest =>
      .segments (pathNames scheme
        (if c = '/' ∨ (isSpecialScheme scheme ∧ c = '\\') then rest else text))

/-- A path without structure. -/
def wholePath (text : List Char) : Path :=
  .whole (String.ofList (percentEncode inControls text))

/-- Read what follows two slashes. -/
def readAfterSlashes
    (scheme : String)
    (text : List Char) :
    Except UrlError Url := do
  let between := text.takeWhile fun c => !endsAuthority (isSpecialScheme scheme) c
  let after := text.drop between.length
  let authority ← readAuthority scheme between (!after.isEmpty)
  return withRest scheme authority.credentials (some authority.host) authority.port
    (namedPath scheme) (authority.rest ++ after)

/-- The host of a file is empty if it is this machine. -/
def fileHost (text : List Char) : Except UrlError Host :=
  if text.isEmpty then .ok .empty
  else (Host.ofSpecial text).map fun host => if host = .name "localhost" then .empty else host

/-- The path begins with a drive. -/
def startsWithDrive : Path → Bool
  | .segments (first :: _) => isWrittenDrive first.toList
  | _ => false

/-- Read what follows the scheme of a file. A path that begins with a drive leaves no host. -/
def readFile (text : List Char) : Except UrlError Url := do
  let isSlash := fun (c : Char) => c = '/' ∨ c = '\\'
  match text with
  | first :: second :: rest =>
    if isSlash first ∧ isSlash second then
      let between := rest.takeWhile fun c => !endsAuthority true c
      if isDrive between then
        return withRest fileScheme .nobody (some .empty) none (namedPath fileScheme) rest
      else
        let host ← fileHost between
        let url := withRest fileScheme .nobody (some host) none (namedPath fileScheme)
          (rest.drop between.length)
        return if startsWithDrive url.path then { url with host := some .empty } else url
    else return withRest fileScheme .nobody (some .empty) none (namedPath fileScheme) text
  | _ => return withRest fileScheme .nobody (some .empty) none (namedPath fileScheme) text

/-- Read an address. -/
def parse (text : String) : Except UrlError Url :=
  match scheme? (relevant text) with
  | none => .error .relativeWithoutBase
  | some (scheme, rest) =>
      if scheme = fileScheme then readFile rest
      else if isSpecialScheme scheme then
        readAfterSlashes scheme (rest.dropWhile fun c => c = '/' ∨ c = '\\')
      else match rest with
        | '/' :: '/' :: after => readAfterSlashes scheme after
        | '/' :: _ => .ok (withRest scheme .nobody none none (namedPath scheme) rest)
        | _ => .ok (withRest scheme .nobody none none wholePath rest)

end MmsInbox.Url
