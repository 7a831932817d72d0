import Geolocation.Telemetry
import Mathlib.Data.List.DropRight

/-!
# Recent entries

The buffers of counters and of faults hold the last hundred entries of their history, whatever has
happened. An entry gives way only when its buffer is exactly full. That is enough, because a buffer
starts empty and grows by one entry at a time, so that no buffer gets past that length.

What events keep is `Recent.Keeps`: the entries are the end of the history. One more entry moves both
on by one place; clearing the counters starts a new history of counters.

Main result: `Telemetry.keeps_most_recent`.
-/

namespace Geolocation

namespace Recent

variable {α : Type} {recent : Recent α} {history : List α}

/-- The entries are the last ones of a history, as many as there are places. -/
def Keeps (recent : Recent α) (history : List α) : Prop :=
  recent.entries = history.rtake recentCapacity

theorem Keeps.empty : (empty : Recent α).Keeps [] := rfl

theorem Keeps.length (keeps : recent.Keeps history) :
    recent.entries.length = min history.length recentCapacity := by
  rw [keeps, List.rtake, List.length_drop]
  omega

/-- The last entries of a longer history are one more entry and those before it. -/
theorem rtake_concat (history : List α) (entry : α) :
    (history ++ [entry]).rtake recentCapacity =
      history.drop (history.length + 1 - recentCapacity) ++ [entry] := by
  rw [List.rtake, List.length_append, List.length_singleton, List.drop_append_of_le_length]
  simp only [recentCapacity]
  omega

theorem entries_push (recent : Recent α) (entry : α) :
    (recent.push entry).entries =
      (if recent.entries.length = recentCapacity then recent.entries.tail else recent.entries) ++
        [entry] := by
  rw [push]
  split <;> rfl

theorem Keeps.push (keeps : recent.Keeps history) (entry : α) :
    (recent.push entry).Keeps (history ++ [entry]) := by
  have size := keeps.length
  rw [Keeps, entries_push, rtake_concat]
  split
  next full =>
    -- All places are taken, so the window moves on.
    have next : history.length - recentCapacity + 1 = history.length + 1 - recentCapacity := by omega
    rw [keeps, List.rtake, List.tail_drop, next]
  next free =>
    -- The history is so short that nothing of it has been given up.
    have whole : history.length - recentCapacity = history.length + 1 - recentCapacity := by omega
    rw [keeps, List.rtake, whole]

theorem Keeps.append (keeps : recent.Keeps history) (entries : List α) :
    (recent.append entries).Keeps (history ++ entries) := by
  induction entries generalizing recent history with
  | nil => rwa [List.append_nil]
  | cons entry rest ih =>
    rw [List.append_cons]
    exact ih (keeps.push entry)

end Recent

namespace Telemetry

/-! ### Events -/

/-- What happens to telemetry. -/
inductive Event where
  | counted (metric : String)
  | reported (fault : Fault)
  | searched (outcome : Outcome)
  /-- The counters are cleared. -/
  | cleared
  deriving DecidableEq, Repr

namespace Event

/-- The names that an event counts. -/
def metrics : Event → List String
  | .counted metric => [metric]
  | .searched outcome => outcome.metrics.map Metric.name
  | .reported _ | .cleared => []

def faults : Event → List Fault
  | .reported fault => [fault]
  | .searched outcome => outcome.faults
  | .counted _ | .cleared => []

end Event

def step (telemetry : Telemetry) : Event → Telemetry
  | .counted metric => { telemetry with metrics := telemetry.metrics.push metric }
  | .reported fault => { telemetry with faults := telemetry.faults.push fault }
  | .searched outcome => telemetry.record outcome
  | .cleared => telemetry.clearMetrics

def after (events : List Event) : Telemetry := events.foldl step empty

theorem after_concat (events : List Event) (event : Event) :
    after (events ++ [event]) = (after events).step event := by
  rw [after, List.foldl_concat]
  rfl

/-- The names that have been counted since the counters were last cleared. -/
def countedSinceCleared (events : List Event) : List String :=
  (events.rtakeWhile (· ≠ .cleared)).flatMap Event.metrics

theorem countedSinceCleared_concat (events : List Event) (event : Event) :
    countedSinceCleared (events ++ [event]) =
      if event = .cleared then [] else countedSinceCleared events ++ event.metrics := by
  rw [countedSinceCleared, List.rtakeWhile_concat]
  by_cases cleared : event = .cleared <;> simp [cleared, countedSinceCleared]

/-! ### What events keep -/

variable {telemetry : Telemetry}

theorem metrics_step {counted : List String} (keeps : telemetry.metrics.Keeps counted)
    (event : Event) : (telemetry.step event).metrics.Keeps
      (if event = .cleared then [] else counted ++ event.metrics) := by
  cases event with
  | counted metric => exact keeps.push metric
  | reported fault => simpa [Event.metrics, step] using keeps
  | searched outcome => exact keeps.append _
  | cleared => exact .empty

theorem faults_step {reported : List Fault} (keeps : telemetry.faults.Keeps reported)
    (event : Event) : (telemetry.step event).faults.Keeps (reported ++ event.faults) := by
  cases event with
  | counted metric => simpa [Event.faults, step] using keeps
  | reported fault => exact keeps.push fault
  | searched outcome => exact keeps.append _
  | cleared => simpa [Event.faults, step, clearMetrics] using keeps

theorem metrics_after (events : List Event) :
    (after events).metrics.Keeps (countedSinceCleared events) := by
  induction events using List.reverseRecOn with
  | nil => exact .empty
  | append_singleton events event ih =>
    rw [after_concat, countedSinceCleared_concat]
    exact metrics_step ih event

theorem faults_after (events : List Event) :
    (after events).faults.Keeps (events.flatMap Event.faults) := by
  induction events using List.reverseRecOn with
  | nil => exact .empty
  | append_singleton events event ih =>
    rw [after_concat, List.flatMap_append, List.flatMap_singleton]
    exact faults_step ih event

/-- After any events the counters are the last hundred names counted since they were cleared, and the
faults are the last hundred ones reported. Each name is found as often as it is among those. -/
theorem keeps_most_recent (events : List Event) :
    let counted := countedSinceCleared events
    let reported := events.flatMap Event.faults
    ((after events).metrics.entries = counted.rtake 100 ∧
      (after events).metrics.entries.length = min counted.length 100 ∧
      ∀ metric, (after events).metrics.count metric = (counted.rtake 100).count metric) ∧
    (after events).faults.entries = reported.rtake 100 ∧
      (after events).faults.entries.length = min reported.length 100 := by
  intro counted reported
  have metrics : (after events).metrics.Keeps counted := metrics_after events
  have faults : (after events).faults.Keeps reported := faults_after events
  refine ⟨⟨metrics, metrics.length, ?_⟩, faults, faults.length⟩
  intro metric
  exact congrArg (List.count metric) metrics

end Telemetry

end Geolocation
