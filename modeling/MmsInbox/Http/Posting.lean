import MmsInbox.Http.Transport

namespace MmsInbox.Http

/-!
# Posts in a row

Requests that are posted one after another with one transport, and the same requests posted with a client
that is built anew for each of them.
-/

/-- A post that is over. -/
structure Posting (σ : Type) where
  request : Request
  result : Except TransportError Response
  /-- The transport and the network as the post found them. -/
  before : Transport × σ
  /-- The transport and the network as the post left them. -/
  after : Transport × σ

variable {σ : Type}

namespace Transport

/-- Post requests one after another. -/
def postAll
    (library : Library σ) :
    Transport → List Request → σ → List (Posting σ)
  | _, [], _ => []
  | transport, request :: later, state =>
      let (result, after) := transport.post library request state
      ⟨request, result, (transport, state), after⟩ :: after.1.postAll library later after.2

end Transport

namespace Request

/-- Post a request with a client that is built for it alone. -/
def postAnew
    (library : Library σ)
    (settings : HttpSettings)
    (request : Request)
    (state : σ) :
    Except TransportError Response × σ :=
  match Client.build library settings request.proxy with
  | .error error => (.error error, state)
  | .ok client => client.post library request state

/-- Post requests one after another, each with a client that is built for it alone. -/
def postAllAnew
    (library : Library σ)
    (settings : HttpSettings) :
    List Request → σ → List (Except TransportError Response)
  | [], _ => []
  | request :: later, state =>
      let (result, next) := request.postAnew library settings state
      result :: postAllAnew library settings later next

end Request

end MmsInbox.Http
