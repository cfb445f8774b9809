import ShardedWorld.Time

/-!
Timers that are paused together.

A scope pauses the group from when it is opened until it is closed; scopes may nest and overlap,
and the timers run again when the last one is closed. A timer that comes due in a pause waits for
its end and fires then, once.
-/

set_option autoImplicit false

namespace ShardedWorld

/-- `depth` scopes are open; the counters tell how often the group stopped and went on. -/
structure TimerGroup where
  paused : Bool
  depth : UInt32
  pauses : Nat
  resumes : Nat
  deriving DecidableEq

namespace TimerGroup

def running : TimerGroup := ⟨false, 0, 0, 0⟩

def isPaused (g : TimerGroup) : Bool := g.paused

def openScope (g : TimerGroup) : TimerGroup :=
  let deeper := { g with depth := g.depth + 1 }
  if deeper.depth = 1 then { deeper with paused := true, pauses := g.pauses + 1 } else deeper

def closeScope (g : TimerGroup) : TimerGroup :=
  if g.depth = 0 then g
  else
    let higher := { g with depth := g.depth - 1 }
    if higher.depth = 0 then { higher with paused := false, resumes := g.resumes + 1 } else higher

end TimerGroup

/-- A timer of the group. `waiting` tells that it came due in a pause. One that has no period or
was stopped never fires. -/
structure Timer where
  every : Duration
  due : Instant
  waiting : Bool
  stopped : Bool
  fired : Nat
  deriving DecidableEq

namespace Timer

def started (every : Duration) (now : Instant) : Timer where
  every
  due := now.after every
  waiting := false
  stopped := decide (every = .zero)
  fired := 0

def stop (t : Timer) : Timer := { t with stopped := true }

def tolerance : Duration := .ofMillis 5

/-- Takes a tick at the time `now`: the next one follows in the old beat, or a period from now if
this one is late. -/
def take (t : Timer) (now : Instant) (paused : Bool) : Timer :=
  let t := { t with
    due := if tolerance < now.since t.due then now.after t.every else t.due.after t.every }
  if paused then { t with waiting := true } else { t with fired := t.fired + 1 }

/-- Takes the ticks that are due by the time `stop`, at most `steps` of them. -/
def takeDue (now stop : Instant) (paused : Bool) : Nat → Timer → Timer
  | 0, t => t
  | steps + 1, t =>
    if t.waiting || stop < t.due then t
    else takeDue now stop paused steps (t.take (now.max t.due) paused)

/-- Lets the time from `now` to `stop` pass. Each tick moves the next one by a period, which bounds
their number. -/
def elapse (t : Timer) (now stop : Instant) (paused : Bool) : Timer :=
  if t.stopped then t
  else
    let t := if t.waiting && !paused then { t with waiting := false, fired := t.fired + 1 } else t
    t.takeDue now stop paused ((stop.nanos - t.due.nanos) / t.every.nanos + 2)

end Timer

end ShardedWorld
