import QueryWatch.Failure
import QueryWatch.Text.Blank

/-!
How the dashboard steers its feed: it posts a switch and goes on. Whatever reads the feed looks at
the switches that were posted and does as the last one says.
-/

set_option autoImplicit false

namespace QueryWatch

/-- What can be asked of the feed: that it is on, or that it is off. -/
inductive FeedSwitch
  | on
  | off
  deriving DecidableEq, Repr

/-- What comes of asking for the feed to be on and to be off: a switch to be posted, nothing, or a
failure. -/
structure FeedSteering where
  switchingOn : Except Failure (Option FeedSwitch)
  switchingOff : Except Failure (Option FeedSwitch)

namespace FeedSteering

/-- Steering without a feed behind it. -/
def idle : FeedSteering := ⟨.ok none, .ok none⟩

/-- The address of a feed, if it says something. -/
def feedAddress (address : Option String) : Option String :=
  (address.map Text.trim).filter (· ≠ "")

/-- Steering of the feed at an address, which is read or is `gone`. -/
def ofFeed (address : Option String) (gone : Bool) : FeedSteering :=
  let post (switch : FeedSwitch) : Except Failure (Option FeedSwitch) :=
    if gone then .error (.transport "feed thread is not running") else .ok (some switch)
  match feedAddress address with
  | none => ⟨.error (.transport "no feed address configured"), .ok none⟩
  | some _ => ⟨post .on, post .off⟩

end FeedSteering
end QueryWatch
