import MmsInbox.Http.Wire

namespace MmsInbox.Http

/-!
# The transport

The transport posts requests with clients that it keeps: it builds one for each proxy, and one for
requests without a proxy, when it is first needed. A client that cannot be built is not kept, and a
request whose address cannot be used does not spoil the client.
-/

/-- A transport. -/
structure Transport where
  settings : HttpSettings
  /-- The clients that were built, each under its proxy. -/
  clients : List (Option ProxyAddress × Client)

namespace Transport

variable {σ : Type}

/-- A transport that has not built a client yet. -/
def new (settings : HttpSettings) : Transport :=
  ⟨settings, []⟩

/-- The number of clients that are kept. -/
def cachedClients (transport : Transport) : Nat :=
  transport.clients.length

/-- The client for a proxy, which is built unless it is there already. -/
def clientFor
    (library : Library σ)
    (transport : Transport)
    (proxy : Option ProxyAddress) :
    Except TransportError (Client × Transport) :=
  match transport.clients.lookup proxy with
  | some client => .ok (client, transport)
  | none =>
      (Client.build library transport.settings proxy).map fun client =>
        (client, { transport with clients := (proxy, client) :: transport.clients })

/-- Post a request. -/
def post
    (library : Library σ)
    (transport : Transport)
    (request : Request)
    (state : σ) :
    Except TransportError Response × Transport × σ :=
  match transport.clientFor library request.proxy with
  | .error error => (.error error, transport, state)
  | .ok (client, later) =>
      let (result, state) := client.post library request state
      (result, later, state)

end Transport

end MmsInbox.Http
