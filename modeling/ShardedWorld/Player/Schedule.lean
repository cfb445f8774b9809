import ShardedWorld.Player.TimerGroup

/-!
A group of timers with its scopes, driven by a clock of its own that counts whole milliseconds.
-/

set_option autoImplicit false

namespace ShardedWorld

/-- `scopes` tells of every scope that was ever opened whether it still is. -/
structure Schedule where
  group : TimerGroup
  scopes : List Bool
  timers : List Timer
  now : Instant
  deriving DecidableEq

namespace Schedule

def empty : Schedule := ⟨.running, [], [], .start⟩

def openScope (s : Schedule) : Schedule :=
  { s with group := s.group.openScope, scopes := s.scopes ++ [true] }

/-- Closes a scope; nothing happens if it is closed already. -/
def closeScope (s : Schedule) (scope : Nat) : Schedule :=
  if s.scopes[scope]? = some true then
    { s with group := s.group.closeScope, scopes := s.scopes.set scope false }
  else s

def startTimer (s : Schedule) (every : Duration) : Schedule :=
  { s with timers := s.timers ++ [Timer.started every s.now] }

def stopTimer (s : Schedule) (timer : Nat) : Schedule :=
  { s with timers := s.timers.modify timer Timer.stop }

/-- The first whole millisecond from `t` on. -/
def wakeAt (t : Instant) : Instant := ⟨(t.nanos + 999999) / 1000000 * 1000000⟩

/-- Lets time pass, up to the millisecond in which it is over. -/
def sleep (s : Schedule) (time : Duration) : Schedule :=
  let stop := wakeAt (s.now.after time)
  { s with
    now := stop
    timers := s.timers.map fun t => t.elapse s.now stop s.group.isPaused }

end Schedule

end ShardedWorld
