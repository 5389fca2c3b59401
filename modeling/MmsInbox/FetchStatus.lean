namespace MmsInbox

/-!
# Fetch status

The HTTP status that the download step reports. Two of its values say that the content will
never be retrievable, which makes the pending notification for it stale.
-/

/-- The HTTP status of a fetch; `0` stands for a fetch that reported none. -/
structure FetchStatus where
  code : UInt16
  deriving Repr, DecidableEq

namespace FetchStatus

/-- The relay answered with a failure. -/
def isError (status : FetchStatus) : Bool :=
  400 ≤ status.code

/-- The relay says that the content is gone or the request malformed. -/
def isStale (status : FetchStatus) : Bool :=
  status.code == 400 || status.code == 404

/-- A fetch is stale if its status is 400 or 404. -/
theorem isStale_iff {status : FetchStatus} :
    status.isStale = true ↔ status = ⟨400⟩ ∨ status = ⟨404⟩ := by
  cases status
  simp [isStale]

/-- The code, followed by its phrase where the engine gives it a meaning. -/
def text (status : FetchStatus) : String :=
  if status.code = 200 then "200 OK"
  else if status.code = 400 then "400 Bad Request"
  else if status.code = 404 then "404 Not Found"
  else toString status.code

end FetchStatus

end MmsInbox
