import Geolocation.Search.Basic
import Geolocation.Text.Blank

/-!
# Telemetry

The most recent counters and faults of a run of searches, and the lines in which counters are sent to a
statsd server.
-/

namespace Geolocation

def recentCapacity : Nat := 100

/-- The most recent entries, the oldest first. -/
structure Recent (α : Type) where
  entries : List α
  bounded : entries.length ≤ recentCapacity

namespace Recent

def empty {α : Type} : Recent α := ⟨[], Nat.zero_le _⟩

/-- Adds an entry; when all places are taken, the oldest entry gives way. -/
def push {α : Type} (recent : Recent α) (entry : α) : Recent α :=
  if full : recent.entries.length = recentCapacity then
    ⟨recent.entries.tail ++ [entry], by
      simp only [List.length_append, List.length_tail, List.length_singleton, full, recentCapacity]
      omega⟩
  else
    ⟨recent.entries ++ [entry], by
      have bound := recent.bounded
      simp only [List.length_append, List.length_singleton]
      omega⟩

def append {α : Type} (recent : Recent α) (entries : List α) : Recent α := entries.foldl push recent

def count {α : Type} [BEq α] (recent : Recent α) (entry : α) : Nat := recent.entries.count entry

end Recent

/-- The recent counters, by their names, and the recent faults. -/
structure Telemetry where
  metrics : Recent String
  faults : Recent Fault

namespace Telemetry

def empty : Telemetry := ⟨.empty, .empty⟩

/-- Takes in the outcome of a search. -/
def record (telemetry : Telemetry) (outcome : Outcome) : Telemetry where
  metrics := telemetry.metrics.append (outcome.metrics.map Metric.name)
  faults := telemetry.faults.append outcome.faults

def clearMetrics (telemetry : Telemetry) : Telemetry := { telemetry with metrics := .empty }

end Telemetry

/-! ### Lines for statsd -/

/-- What comes before each name: the scope without white space around it and dots behind it, and one
dot. An empty scope puts nothing before a name. -/
def statsdScope (scope : String) : String :=
  let scope := Text.trimmed scope.toList
  if scope.isEmpty then ""
  else String.ofList ((scope.reverse.dropWhile (· = '.')).reverse ++ ['.'])

/-- The line that counts a metric once. -/
def statsdLine (scope metric : String) : String := statsdScope scope ++ metric ++ ":1|c"

end Geolocation
