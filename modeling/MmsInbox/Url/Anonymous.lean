import MmsInbox.Url.Parse

namespace MmsInbox.Url

/-!
# Addresses without credentials

Before a request is sent, the credentials are taken from its address and go into the request itself.
-/

/-- The credentials name somebody, once their percent encoding is undone. A user name that is no text
names nobody. -/
def Credentials.nameSomebody (credentials : Credentials) : Bool :=
  match percentDecodedText? credentials.userName.toList with
  | none => false
  | some userName =>
      !userName.isEmpty ||
        (credentials.password.bind fun password => percentDecodedText? password.toList).isSome

/-- The address without its credentials, if they name somebody. -/
def withoutCredentials (url : Url) : Url :=
  if url.credentials.nameSomebody then { url with credentials := .nobody } else url

end MmsInbox.Url
