import Mathlib.Data.List.Dedup
import Mathlib.Data.List.Perm.Basic
import MmsInbox.Http.Posting

namespace MmsInbox.Http

/-!
# Clients that are kept make no difference

A transport keeps each client under the proxy that it was built for. So a request is sent as if its client
were built for it alone, and there are as many clients as different proxies for which one could be built
(`Transport.cache_transparent`). That takes a lawful library, as the one in use is
(`Library.onWire_lawful`).
-/

namespace Library

variable {σ : Type}

/-- What the engine relies on of the library. -/
structure Lawful (library : Library σ) : Prop where
  /-- A client is bound to the proxy that it was built for. -/
  bound
    {settings : HttpSettings}
    {proxy : Option ProxyAddress}
    {client : Client}
    (built : library.build settings proxy = .ok client) :
    client.proxy = proxy
  /-- What goes wrong when a client is built is called so, and nothing else. -/
  named
    {settings : HttpSettings}
    {proxy : Option ProxyAddress}
    {error : LibraryError}
    (failed : library.build settings proxy = .error error) :
    error.isBuilder = true ∧ error.isTimeout = false ∧ error.isConnect = false

/-- The library in use is lawful, whatever comes of exchanges on the wire. -/
theorem onWire_lawful (wire : Wire σ) : (onWire wire).Lawful where
  bound {settings proxy client} built := by
    simp only [onWire] at built
    split at built
    · obtain rfl := Except.ok.inj built
      rfl
    · cases built
  named {settings proxy error} failed := by
    simp only [onWire] at failed
    split at failed
    · cases failed
    · obtain rfl := Except.error.inj failed
      exact ⟨rfl, rfl, rfl⟩

end Library

variable
  {σ : Type}
  {library : Library σ}
  {settings : HttpSettings}

namespace Client

/-- A client that was built is bound to its proxy. -/
theorem proxy_of_build
    (lawful : library.Lawful)
    {proxy : Option ProxyAddress}
    {client : Client}
    (built : build library settings proxy = .ok client) :
    client.proxy = proxy := by
  unfold build at built
  split at built
  · cases built
  · cases made : library.build settings proxy with
    | error error =>
        rw [made] at built
        cases built
    | ok other =>
        rw [made] at built
        obtain rfl := Except.ok.inj built
        exact lawful.bound made

/-- A client that cannot be built is reported as such. -/
theorem error_of_build
    (lawful : library.Lawful)
    {proxy : Option ProxyAddress}
    {error : TransportError}
    (failed : build library settings proxy = .error error) :
    ∃ text, error = .client text := by
  unfold build at failed
  split at failed
  case h_1 cause _ => exact ⟨cause.text, (Except.error.inj failed).symm⟩
  case h_2 =>
    cases made : library.build settings proxy with
    | error cause =>
        rw [made] at failed
        obtain ⟨builder, notTimeout, notConnect⟩ := lawful.named made
        refine ⟨cause.text, (Except.error.inj failed).symm.trans ?_⟩
        simp [LibraryError.classified, builder, notTimeout, notConnect]
    | ok client =>
        rw [made] at failed
        cases failed

end Client

namespace Transport

variable
  {transport : Transport}
  {proxies : List (Option ProxyAddress)}
  {proxy : Option ProxyAddress}
  {client : Client}

/-- After posts with some proxies, the transport keeps under each of them the client that is built for it, if
one can be built, and nothing else. -/
structure Sound
    (transport : Transport)
    (library : Library σ)
    (settings : HttpSettings)
    (proxies : List (Option ProxyAddress)) :
    Prop where
  settings_eq : transport.settings = settings
  lookup_eq (proxy : Option ProxyAddress) :
    transport.clients.lookup proxy =
      if proxy ∈ proxies then (Client.build library settings proxy).toOption else none
  distinct : (transport.clients.map Prod.fst).Nodup

/-- A proxy has no client exactly if none is found under it. -/
theorem lookup_eq_none_iff :
    transport.clients.lookup proxy = none ↔ proxy ∉ transport.clients.map Prod.fst := by
  rw [List.lookup_eq_none_iff, List.mem_map]
  constructor
  · rintro missing ⟨entry, there, rfl⟩
    simpa using missing entry there
  · intro missing entry there
    exact bne_iff_ne.mpr fun same => missing ⟨entry, there, same.symm⟩

namespace Sound

theorem new
    (library : Library σ)
    (settings : HttpSettings) :
    (Transport.new settings).Sound library settings [] where
  settings_eq := rfl
  lookup_eq _ := rfl
  distinct := List.nodup_nil

/-- Clients are kept under the proxies for which one could be built. -/
theorem mem_keys_iff (sound : transport.Sound library settings proxies) :
    proxy ∈ transport.clients.map Prod.fst ↔
      proxy ∈ proxies ∧ (Client.build library settings proxy).isOk = true := by
  rw [← not_iff_not, ← lookup_eq_none_iff, sound.lookup_eq]
  cases Client.build library settings proxy with
  | error error => simp [Except.toOption, Except.isOk, Except.toBool]
  | ok client => simp [Except.toOption, Except.isOk, Except.toBool]

/-- There are as many clients as different proxies for which one could be built. -/
theorem cachedClients_eq (sound : transport.Sound library settings proxies) :
    transport.cachedClients =
      (proxies.filter fun proxy => (Client.build library settings proxy).isOk).dedup.length := by
  have same :
      (transport.clients.map Prod.fst).Perm
        (proxies.filter fun proxy => (Client.build library settings proxy).isOk).dedup := by
    refine (List.perm_ext_iff_of_nodup sound.distinct (List.nodup_dedup _)).mpr fun proxy => ?_
    rw [sound.mem_keys_iff, List.mem_dedup, List.mem_filter]
  rw [cachedClients, ← List.length_map Prod.fst, same.length_eq]

/-- A transport under whose proxy there is already what can be built for it goes on as it is. -/
theorem again
    (sound : transport.Sound library settings proxies)
    (kept :
      transport.clients.lookup proxy = (Client.build library settings proxy).toOption) :
    transport.Sound library settings (proxies ++ [proxy]) where
  settings_eq := sound.settings_eq
  lookup_eq other := by
    by_cases here : other = proxy
    · rw [here, kept, if_pos (by simp)]
    · simp [sound.lookup_eq, here]
  distinct := sound.distinct

/-- A transport that has built a client keeps it besides the others. -/
theorem kept
    (sound : transport.Sound library settings proxies)
    (missing : transport.clients.lookup proxy = none)
    (built : Client.build library settings proxy = .ok client) :
    Sound { transport with clients := (proxy, client) :: transport.clients } library settings
      (proxies ++ [proxy]) where
  settings_eq := sound.settings_eq
  lookup_eq other := by
    by_cases here : other = proxy
    · simp [here, built, Except.toOption]
    · have elsewhere : (other == proxy) = false := beq_false_of_ne here
      simp [List.lookup_cons, elsewhere, sound.lookup_eq, here]
  distinct := List.nodup_cons.mpr ⟨lookup_eq_none_iff.mp missing, sound.distinct⟩

/-- A request whose client cannot be built leaves everything as it was. -/
theorem post_of_refused
    (sound : transport.Sound library settings proxies)
    {request : Request}
    {error : TransportError}
    (failed : Client.build library settings request.proxy = .error error)
    (state : σ) :
    transport.post library request state = (.error error, transport, state) := by
  have missing : transport.clients.lookup request.proxy = none := by
    rw [sound.lookup_eq, failed]
    exact ite_self none
  simp only [post, clientFor, missing, sound.settings_eq, failed, Except.map]

/-- A request whose client can be built is posted with that client. -/
theorem post_of_built
    (sound : transport.Sound library settings proxies)
    {request : Request}
    (built : Client.build library settings request.proxy = .ok client)
    (state : σ) :
    ∃ next : Transport,
      transport.post library request state =
          ((client.post library request state).1, next,
            (client.post library request state).2) ∧
        next.Sound library settings (proxies ++ [request.proxy]) := by
  cases found : transport.clients.lookup request.proxy with
  | some other =>
      have same : other = client := by
        have lookup := sound.lookup_eq request.proxy
        rw [found, built] at lookup
        split at lookup
        · exact Option.some.inj lookup
        · cases lookup
      subst same
      refine ⟨transport, ?_, sound.again (by rw [found, built]; rfl)⟩
      simp only [post, clientFor, found]
  | none =>
      refine ⟨_, ?_, sound.kept found built⟩
      simp only [post, clientFor, found, sound.settings_eq, built, Except.map]

/-- A post ends as with a client that is built for it alone, and the transport stays sound. -/
theorem post
    (sound : transport.Sound library settings proxies)
    (request : Request)
    (state : σ) :
    ∃ next : Transport,
      transport.post library request state =
          ((request.postAnew library settings state).1, next,
            (request.postAnew library settings state).2) ∧
        next.Sound library settings (proxies ++ [request.proxy]) := by
  cases made : Client.build library settings request.proxy with
  | error error =>
      have unkept :
          transport.clients.lookup request.proxy =
            (Client.build library settings request.proxy).toOption := by
        rw [sound.lookup_eq, made]
        exact ite_self none
      refine ⟨transport, ?_, sound.again unkept⟩
      rw [sound.post_of_refused made, Request.postAnew, made]
  | ok client =>
      obtain ⟨next, posted, soundNext⟩ := sound.post_of_built made state
      refine ⟨next, ?_, soundNext⟩
      rw [posted, Request.postAnew, made]

/-- Requests that are posted in a row end as with clients that are built for each alone. -/
theorem results_eq
    (sound : transport.Sound library settings proxies)
    (requests : List Request)
    (state : σ) :
    (transport.postAll library requests state).map Posting.result =
      Request.postAllAnew library settings requests state := by
  induction requests generalizing transport proxies state with
  | nil => rfl
  | cons request later inductionHypothesis =>
      obtain ⟨next, posted, soundNext⟩ := sound.post request state
      rw [postAll, posted, List.map_cons, inductionHypothesis soundNext]
      rfl

/-- Each request of a row is posted with a transport that has been used with the proxies of those before. -/
theorem split
    (sound : transport.Sound library settings proxies)
    {requests : List Request}
    {state : σ}
    {earlier later : List (Posting σ)}
    {posting : Posting σ}
    (postings : transport.postAll library requests state = earlier ++ posting :: later) :
    posting.before.1.Sound library settings (proxies ++ earlier.map (·.request.proxy)) ∧
      posting.before.1.post library posting.request posting.before.2 =
        (posting.result, posting.after) := by
  induction requests generalizing transport proxies state earlier with
  | nil => simp [postAll] at postings
  | cons request rest inductionHypothesis =>
      obtain ⟨next, posted, soundNext⟩ := sound.post request state
      rw [postAll, posted] at postings
      cases earlier with
      | nil =>
          obtain ⟨rfl, _⟩ := List.cons.inj postings
          exact ⟨by simpa using sound, posted⟩
      | cons first others =>
          obtain ⟨rfl, postingsLater⟩ := List.cons.inj postings
          simpa using inductionHypothesis soundNext postingsLater

end Sound

theorem map_request_postAll
    (library : Library σ)
    (transport : Transport)
    (requests : List Request)
    (state : σ) :
    (transport.postAll library requests state).map Posting.request = requests := by
  induction requests generalizing transport state with
  | nil => rfl
  | cons request later inductionHypothesis =>
      rw [postAll, List.map_cons, inductionHypothesis]

/-- Requests that were posted in a row with a new transport give no sign of the clients that it keeps, but
for their number. -/
structure Transparent
    (library : Library σ)
    (settings : HttpSettings)
    (postings : List (Posting σ)) :
    Prop where
  /-- A request whose client can be built is sent by a client for its proxy: the result and what becomes of
  the network are those of this client. -/
  sent
    {posting : Posting σ}
    (member : posting ∈ postings)
    {client : Client}
    (built : Client.build library settings posting.request.proxy = .ok client) :
    client.proxy = posting.request.proxy ∧
      (posting.result, posting.after.2) = client.post library posting.request posting.before.2
  /-- A request whose client cannot be built is told so, and leaves the transport and the network as they
  were. -/
  refused
    {posting : Posting σ}
    (member : posting ∈ postings)
    {error : TransportError}
    (failed : Client.build library settings posting.request.proxy = .error error) :
    posting.result = .error error ∧
      (∃ text, error = .client text) ∧ posting.after = posting.before
  /-- After each post there are as many clients as different proxies so far for which one could be built. -/
  counted
    {earlier later : List (Posting σ)}
    {posting : Posting σ}
    (split : postings = earlier ++ posting :: later) :
    posting.after.1.cachedClients =
      (((earlier ++ [posting]).map (·.request.proxy)).filter fun proxy =>
        (Client.build library settings proxy).isOk).dedup.length

/-- The clients that a transport keeps make no difference to what it posts. -/
theorem cache_transparent
    (lawful : library.Lawful)
    (settings : HttpSettings)
    (requests : List Request)
    (state : σ) :
    ((Transport.new settings).postAll library requests state).map Posting.request = requests ∧
      ((Transport.new settings).postAll library requests state).map Posting.result =
        Request.postAllAnew library settings requests state ∧
      Transparent library settings
        ((Transport.new settings).postAll library requests state) := by
  have sound := Sound.new library settings
  refine ⟨map_request_postAll _ _ _ _, sound.results_eq _ _, ?_⟩
  constructor
  case sent =>
    intro posting member client built
    obtain ⟨earlier, later, postings⟩ := List.append_of_mem member
    obtain ⟨soundBefore, posted⟩ := sound.split postings
    obtain ⟨next, ends, _⟩ := soundBefore.post_of_built built posting.before.2
    rw [posted] at ends
    obtain ⟨result, after⟩ := Prod.mk.inj ends
    have network : posting.after.2 = (client.post library posting.request posting.before.2).2 := by
      rw [after]
    exact ⟨Client.proxy_of_build lawful built, Prod.ext result network⟩
  case refused =>
    intro posting member error failed
    obtain ⟨earlier, later, postings⟩ := List.append_of_mem member
    obtain ⟨soundBefore, posted⟩ := sound.split postings
    have ends := soundBefore.post_of_refused failed posting.before.2
    rw [posted] at ends
    obtain ⟨result, after⟩ := Prod.mk.inj ends
    exact ⟨result, Client.error_of_build lawful failed, after⟩
  case counted =>
    intro earlier later posting postings
    obtain ⟨soundBefore, posted⟩ := sound.split postings
    obtain ⟨next, ends, soundNext⟩ := soundBefore.post posting.request posting.before.2
    rw [posted] at ends
    have after : posting.after.1 = next := congrArg (·.2.1) ends
    rw [after, soundNext.cachedClients_eq]
    simp

/-- A library that answers everything and records the proxy of each client that sends. Two addresses cannot
be used: one of a proxy, with two colons in a row, and one of a request, with a foreign scheme. -/
def watchedLibrary : Library (List (Option ProxyAddress)) where
  admitProxy address :=
    if address = "http://10.0.0.1::8080" then .error (.ofBuilder "builder error") else .ok ()
  build settings proxy := .ok ⟨settings, proxy⟩
  send client request proxies :=
    if request.url = "ftp://mmsc.example/" then
      (.error (.ofBuilder "builder error for url (ftp://mmsc.example/)"), proxies)
    else (.ok ⟨200, []⟩, proxies ++ [client.proxy])

theorem watchedLibrary_lawful : watchedLibrary.Lawful where
  bound {settings proxy client} built := by
    obtain rfl := Except.ok.inj built
    rfl
  named failed := nomatch failed

/-- Posts through a proxy, directly, through one whose address cannot be used, and again. -/
def mixedRequests : List Request :=
  [⟨"http://mmsc.example/mms", [1], some ⟨"10.0.0.1", 8080⟩⟩,
    ⟨"http://mmsc.example/mms", [2], none⟩,
    ⟨"http://mmsc.example/mms", [3], some ⟨"10.0.0.1:", 8080⟩⟩,
    ⟨"ftp://mmsc.example/", [4], some ⟨"10.0.0.2", 8080⟩⟩,
    ⟨"http://mmsc.example/mms", [5], some ⟨"10.0.0.1", 8080⟩⟩]

/-- The third request is refused for its proxy, and the fourth for its address once its client is built. -/
theorem cache_transparent_mixedRequests :
    watchedLibrary.Lawful ∧
      ((new .standard).postAll watchedLibrary mixedRequests []).map
          (fun posting => (posting.after.1.cachedClients, posting.after.2)) =
        [(1, [some ⟨"10.0.0.1", 8080⟩]),
          (2, [some ⟨"10.0.0.1", 8080⟩, none]),
          (2, [some ⟨"10.0.0.1", 8080⟩, none]),
          (3, [some ⟨"10.0.0.1", 8080⟩, none]),
          (3, [some ⟨"10.0.0.1", 8080⟩, none, some ⟨"10.0.0.1", 8080⟩])] ∧
      ((new .standard).postAll watchedLibrary mixedRequests []).map Posting.request =
        mixedRequests ∧
      ((new .standard).postAll watchedLibrary mixedRequests []).map Posting.result =
        Request.postAllAnew watchedLibrary .standard mixedRequests [] ∧
      Transparent watchedLibrary .standard
        ((new .standard).postAll watchedLibrary mixedRequests []) :=
  ⟨watchedLibrary_lawful, by decide +kernel,
    cache_transparent watchedLibrary_lawful .standard mixedRequests []⟩

end Transport

end MmsInbox.Http
