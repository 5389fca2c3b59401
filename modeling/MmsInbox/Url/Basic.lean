import MmsInbox.Url.Host

namespace MmsInbox

/-!
# Addresses

An address (URL) in its parts. Its text is built from the parts alone, so that two texts that stand for
the same parts are written the same way.
-/

namespace Url

/-- What follows the host. -/
inductive Path where
  /-- A text without structure. -/
  | whole (text : String)
  /-- Names with a slash in front of each. -/
  | segments (names : List String)
  deriving Repr, DecidableEq

/-- Who asks for what an address leads to. -/
structure Credentials where
  /-- In percent encoding. -/
  userName : String
  /-- In percent encoding. -/
  password : Option String
  deriving Repr, DecidableEq

namespace Credentials

/-- Nobody in particular. -/
def nobody : Credentials :=
  ⟨"", none⟩

/-- The credentials as they are written in front of the host. -/
def text (credentials : Credentials) : String :=
  if credentials = nobody then ""
  else credentials.userName ++ (credentials.password.map (":" ++ ·)).getD "" ++ "@"

end Credentials

/-- The schemes with a host and a path of names, apart from `file`, and their ports. -/
def standardPorts : List (String × UInt16) :=
  [("http", 80), ("https", 443), ("ws", 80), ("wss", 443), ("ftp", 21)]

/-- The scheme of files. -/
def fileScheme : String :=
  "file"

/-- The scheme is one of those whose addresses have a host and a path of names. -/
def isSpecialScheme (scheme : String) : Bool :=
  scheme == fileScheme || (standardPorts.lookup scheme).isSome

end Url

/-- An address. -/
structure Url where
  scheme : String
  credentials : Url.Credentials
  /-- The host, which may be empty; there is none in an address without two slashes. -/
  host : Option Url.Host
  /-- The port, unless it is the one that belongs to the scheme. -/
  port : Option UInt16
  path : Url.Path
  query : Option String
  fragment : Option String
  deriving Repr, DecidableEq

namespace Url

/-- The address names a host. -/
def hasHost (url : Url) : Bool :=
  url.host.any (· != .empty)

/-- Scheme, credentials, host and port as they are written. -/
def originText (url : Url) : String :=
  url.scheme ++ ":" ++
    match url.host with
    | none => ""
    | some host =>
        "//" ++ url.credentials.text ++ host.text ++
          (url.port.map fun port => s!":{port}").getD ""

/-- The path as it is written. Without a host a path must not begin with two slashes, and a dot keeps
them apart. -/
def pathText (url : Url) : String :=
  match url.path with
  | .whole text => text
  | .segments names =>
      let text := String.join (names.map ("/" ++ ·))
      if url.host.isNone && 1 < names.length && names.head? == some "" then "/." ++ text else text

/-- The address as it is written. -/
def text (url : Url) : String :=
  url.originText ++ url.pathText ++ (url.query.map ("?" ++ ·)).getD "" ++
    (url.fragment.map ("#" ++ ·)).getD ""

end Url

end MmsInbox
