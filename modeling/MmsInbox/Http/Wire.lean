import MmsInbox.Http.Client
import MmsInbox.Url.Anonymous

namespace MmsInbox.Http

/-!
# The library in use

Building a client fails if the address of the proxy cannot be read or the user agent cannot stand in a
header. A request goes out to an address that can be used; what comes of it is decided on the wire.
-/

/-- The byte can stand in the value of a header: no control other than a tab. -/
def isHeaderByte (byte : UInt8) : Bool :=
  (32 ≤ byte && byte != 127) || byte == 9

/-- Something was asked for that cannot be built. -/
def LibraryError.ofBuilder (text : String) : LibraryError :=
  ⟨text, false, false, true⟩

/-- What came of an exchange on the wire. -/
inductive Exchange where
  /-- Nobody listens. -/
  | unreachable
  /-- The connection ended before an answer. -/
  | interrupted
  /-- No answer came in time. -/
  | silent
  /-- The answer ended before its body. -/
  | truncated
  | answered (response : Response)
  deriving DecidableEq

/-- A wire with a state: a client exchanges a body with an address. -/
structure Wire (σ : Type) where
  exchange : Client → Url → Bytes → σ → Exchange × σ

/-- A wire on which nobody listens. -/
def Wire.deserted : Wire Unit where
  exchange _ _ _ state := (.unreachable, state)

/-- The schemes of addresses that can be posted to. -/
def schemes : List String :=
  ["http", "https"]

/-- The address of a request as it goes out, or why it cannot be used. -/
def target (text : String) : Except LibraryError Url :=
  match Url.parse text with
  | .error _ => .error (.ofBuilder "builder error")
  | .ok url =>
      let refusal := fun (url : Url) => LibraryError.ofBuilder s!"builder error for url ({url.text})"
      if !url.hasHost then .error (refusal url)
      else
        let anonymous := url.withoutCredentials
        if schemes.contains anonymous.scheme then .ok anonymous
        else .error (refusal anonymous)

namespace Exchange

/-- What the library tells of an exchange with an address. -/
def result (exchange : Exchange) (url : Url) : Except LibraryError Response :=
  let notSent := s!"error sending request for url ({url.text})"
  match exchange with
  | .unreachable => .error ⟨notSent, false, true, false⟩
  | .interrupted => .error ⟨notSent, false, false, false⟩
  | .silent => .error ⟨notSent, true, false, false⟩
  | .truncated => .error ⟨"error decoding response body", false, false, false⟩
  | .answered response => .ok response

end Exchange

namespace Library

variable {σ : Type}

/-- The library that sends over a wire. -/
def onWire (wire : Wire σ) : Library σ where
  admitProxy address :=
    if (Url.parse address).isOk then .ok () else .error (.ofBuilder "builder error")
  build settings proxy :=
    if (Bytes.ofText settings.userAgent).all isHeaderByte then .ok ⟨settings, proxy⟩
    else .error (.ofBuilder "builder error")
  send client request state :=
    match target request.url with
    | .error error => (.error error, state)
    | .ok url =>
        let (exchange, later) := wire.exchange client url request.body state
        (exchange.result url, later)

/-- The library on a network on which nobody listens. -/
def deserted : Library Unit :=
  onWire .deserted

end Library

end MmsInbox.Http
