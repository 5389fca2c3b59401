import MmsInbox.Audit
import MmsInbox.Subscription

namespace MmsInbox

/-!
# Configuration

The settings of the engine and their values when nothing is configured.
-/

/-- How the HTTP client behaves. -/
structure HttpSettings where
  /-- Seconds to establish a connection. -/
  connectTimeout : UInt64
  /-- Seconds for the whole exchange. -/
  requestTimeout : UInt64
  /-- How the engine names itself to the relay. -/
  userAgent : String
  deriving Repr, DecidableEq

namespace HttpSettings

def standardConnectTimeout : UInt64 := 30

def standardRequestTimeout : UInt64 := 60

def standardUserAgent : String := "mmsrx/0.0.1"

/-- The settings used when nothing is configured. -/
def standard : HttpSettings :=
  ⟨standardConnectTimeout, standardRequestTimeout, standardUserAgent⟩

end HttpSettings

/-- How acknowledgments are sent. -/
structure AckSettings where
  /-- Post to the content location of the message instead of the relay. -/
  toContentLocation : Bool
  /-- Leave out the proxy. -/
  preferDirectPath : Bool
  http : HttpSettings
  deriving Repr, DecidableEq

namespace AckSettings

/-- The settings used when nothing is configured. -/
def standard : AckSettings :=
  ⟨false, false, .standard⟩

end AckSettings

/-- The configuration of the engine. -/
structure Config where
  /-- The subscription of a download that names none. -/
  defaultSubscription : Subscription
  /-- The greatest number of runs at once; unbounded if absent or zero. -/
  maxConcurrentRuns : Option UInt64
  acknowledgment : AckSettings
  audit : AuditSettings
  deriving Repr, DecidableEq

namespace Config

/-- The configuration used when nothing is configured. -/
def standard : Config :=
  ⟨.standard, none, .standard, .standard⟩

end Config

end MmsInbox
