import Redial.Call.Transport
import Redial.Log.Report
import Redial.Metrics.Registry

/-!
What happens during a call, in order and with the time of each event: timers
and counters, log entries, calls to the transport and calls that were given
up. A registry is kept up to date by following the events.

Starting the timer of an attempt gives the stop that will record it, and the
timer keeps that stop until it is called: when the timer is stopped, or at
the latest when it goes out of scope. So a timer that was stopped has
nothing left to call.
-/

namespace Redial

/-- What stops one timer and records it, under the labels with which the
timer was started. The number tells it from the stops of the other
timers of a call. -/
structure TimerStop extends Labels where
  number : Nat
  deriving DecidableEq, Repr, Inhabited

inductive Event (α : Type) where
  | timerStarted (stop : TimerStop)
  | timerStopped (stop : TimerStop)
  | incremented (family : Metrics.Family) (labels : Labels)
  | logged (entry : Log.Entry)
  | traced (record : Log.Record)
  | called (invocation : Invocation α)
  | abandoned
  deriving DecidableEq, Repr, Inhabited

/-- An event with its time in milliseconds. -/
structure TimedEvent (α : Type) where
  time : Nat
  event : Event α
  deriving DecidableEq, Repr, Inhabited

def allAt {α : Type} (time : Nat) (events : List (Event α)) :
    List (TimedEvent α) :=
  events.map (TimedEvent.mk time)

namespace Event

variable {α : Type}

def isCall : Event α → Bool
  | .called _ => true
  | _ => false

def recordIn (registry : Metrics.Registry) : Event α → Metrics.Registry
  | .timerStarted stop =>
    registry.startTimer Metrics.Family.duration.name stop.toLabels
  | .timerStopped stop =>
    registry.stopTimer Metrics.Family.duration.name stop.toLabels
  | .incremented family labels => registry.increment family.name labels
  | _ => registry

/-- The record that is traced for an event, if logs go the same way. -/
def record? : Event α → Option Log.Record
  | .logged entry => some entry.toRecord
  | .traced record => some record
  | _ => none

end Event

def Metrics.Registry.follow {α : Type} (registry : Metrics.Registry)
    (events : List (TimedEvent α)) : Metrics.Registry :=
  events.foldl (fun registry timed => timed.event.recordIn registry) registry

/-- A timer, with the stop that is still to be called. -/
structure Timer where
  stop? : Option TimerStop
  deriving DecidableEq, Repr, Inhabited

namespace Timer

variable {α : Type}

def running (number : Nat) (labels : Labels) : Timer :=
  ⟨some { labels with number }⟩

def stopped : Timer := ⟨none⟩

def start (number : Nat) (labels : Labels) : List (Event α) × Timer :=
  ([.timerStarted { labels with number }], running number labels)

/-- Stops a timer: calls the stop that it has kept, and keeps it no longer. -/
def stop (timer : Timer) : List (Event α) × Timer :=
  (timer.stop?.toList.map .timerStopped, stopped)

/-- What happens when a timer goes out of scope: it is stopped, if it still
runs. -/
def leave (timer : Timer) : List (Event α) := timer.stop.1

/-- Puts a new timer in the place of another. The new one starts before the
other one goes out of scope. -/
def replace (timer : Timer) (number : Nat) (labels : Labels) :
    List (Event α) × Timer :=
  let (started, next) := start number labels
  (started ++ timer.leave, next)

@[simp] theorem stop_running (number : Nat) (labels : Labels) :
    (running number labels).stop (α := α) =
      ([.timerStopped { labels with number }], stopped) := rfl

@[simp] theorem stop_stopped : stopped.stop (α := α) = ([], stopped) := rfl

@[simp] theorem leave_running (number : Nat) (labels : Labels) :
    (running number labels).leave (α := α) =
      [.timerStopped { labels with number }] := rfl

@[simp] theorem leave_stopped : stopped.leave (α := α) = [] := rfl

end Timer

end Redial
