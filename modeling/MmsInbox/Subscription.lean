namespace MmsInbox

/-!
# Subscriptions

Relay settings and the device's own number are kept per subscription.
-/

/-- The subscription (SIM) a message arrived on. -/
structure Subscription where
  number : Int32
  deriving Repr, DecidableEq

namespace Subscription

/-- The subscription used when neither the download nor the configuration names one. -/
def standard : Subscription := ⟨1⟩

/-- The number in decimal, with a sign if it is negative. -/
def text (subscription : Subscription) : String :=
  toString subscription.number.toInt

end Subscription

end MmsInbox
