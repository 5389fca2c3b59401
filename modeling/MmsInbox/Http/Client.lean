import MmsInbox.Config.Basic
import MmsInbox.Http.Message

namespace MmsInbox.Http

/-!
# Clients

Clients are built, and requests sent with them, by a library that is not part of the engine. A client is
built for given settings and one proxy, or none. Of what goes wrong in the library the engine knows what the
error tells of itself.
-/

/-- An error of the library, with what it tells of itself. -/
structure LibraryError where
  text : String
  isTimeout : Bool
  isConnect : Bool
  isBuilder : Bool
  deriving Repr, DecidableEq

namespace LibraryError

/-- The error as the engine classifies it. -/
def classified (error : LibraryError) : TransportError :=
  if error.isTimeout then .timeout error.text
  else if error.isConnect then .connection error.text
  else if error.isBuilder then .client error.text
  else .request error.text

end LibraryError

/-- A client. -/
structure Client where
  settings : HttpSettings
  proxy : Option ProxyAddress
  deriving Repr, DecidableEq

/-- A library, with the state of the network behind it. -/
structure Library (σ : Type) where
  /-- Make sure that an address can be the one of a proxy. -/
  admitProxy : String → Except LibraryError Unit
  /-- Build a client for a proxy whose address can be one, or for none. -/
  build : HttpSettings → Option ProxyAddress → Except LibraryError Client
  /-- Send a request with a client and take in the answer. -/
  send : Client → Request → σ → Except LibraryError Response × σ

namespace Client

variable {σ : Type}

/-- Build a client. -/
def build
    (library : Library σ)
    (settings : HttpSettings)
    (proxy : Option ProxyAddress) :
    Except TransportError Client :=
  match proxy.map fun proxy => library.admitProxy proxy.url with
  | some (.error error) => .error (.client error.text)
  | _ => (library.build settings proxy).mapError LibraryError.classified

/-- Post a request with a client. -/
def post
    (library : Library σ)
    (client : Client)
    (request : Request)
    (state : σ) :
    Except TransportError Response × σ :=
  let (result, later) := library.send client request state
  (result.mapError LibraryError.classified, later)

end Client

end MmsInbox.Http
