import QueryWatch.Focus

/-!
What can be set: how the dashboard behaves, where the daemon listens, where the feed comes from, and
what executes queries. Times are in milliseconds.
-/

set_option autoImplicit false

namespace QueryWatch

structure DashboardSettings where
  filterDelay : Nat := 500
  focusPolicy : FocusPolicy := .firstSessionWins
  expandByDefault : Bool := true
  orphanCapacity : Nat := 256
  deriving DecidableEq, Repr

structure DaemonSettings where
  socketPath : Option String := none
  tickInterval : Nat := 50
  deriving DecidableEq, Repr

structure FeedSettings where
  address : Option String := none
  autoConnect : Bool := true
  reconnectInitial : Nat := 250
  reconnectMax : Nat := 5000
  deriving DecidableEq, Repr

structure ExecutorSettings where
  program : Option String := none
  args : List String := []
  timeout : Nat := 10000
  deriving DecidableEq, Repr

structure Settings where
  dashboard : DashboardSettings := {}
  daemon : DaemonSettings := {}
  feed : FeedSettings := {}
  executor : ExecutorSettings := {}
  deriving DecidableEq, Repr

end QueryWatch
