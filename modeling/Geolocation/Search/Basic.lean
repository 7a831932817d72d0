import Geolocation.Provider.Basic
import Geolocation.Settings

/-!
# Searches

A search visits the providers of a chain in order and keeps the best of the locations they answer. A
visit that ends in an outage, by its own fault or by taking longer than its limit, leaves no candidate;
any other fault counts as a search that found nothing. The search ends early at a position of the
engine's own that is accurate enough. It never fails: at worst its location is empty.

What a search did is the list of its visits. The location, the counters and the reported faults are all
read off that list.
-/

namespace Geolocation

/-- How a visit ended. -/
inductive Verdict where
  /-- The gate was closed. -/
  | skipped
  /-- The provider could not answer, for this fault. -/
  | unavailable (fault : Fault)
  /-- The provider failed with a fault that is no outage. -/
  | faulted (fault : Fault)
  | answered (location : Location)
  deriving DecidableEq, Repr

structure Visit where
  profile : Profile
  /-- What the gate reported. -/
  gateFault : Option Fault
  verdict : Verdict
  sent : List ServiceRequest
  deriving DecidableEq, Repr

namespace Verdict

def ofOutcome : Except Fault Location → Verdict
  | .ok location => .answered location
  | .error fault => if fault.isOutage then .unavailable fault else .faulted fault

/-- The location that a verdict puts up for comparison. -/
def candidate? : Verdict → Option Location
  | .skipped => none
  | .unavailable _ => none
  | .faulted _ => some (.empty true)
  | .answered location => some location

def fault? : Verdict → Option Fault
  | .skipped => none
  | .unavailable fault => some fault
  | .faulted fault => some fault
  | .answered _ => none

end Verdict

namespace Provider

/-- The limit in milliseconds that holds for an attempt of the provider. -/
def limitIn (provider : Provider) (settings : Settings.Search) : Nat :=
  provider.limit.getD settings.timeLimit

/-- The fault of an attempt that takes longer than its limit. -/
def timeout (provider : Provider) (settings : Settings.Search) : Fault :=
  provider.profile.unavailable
    ("timed out after " ++ toString (provider.limitIn settings) ++ "ms")

/-- What an attempt comes to within the time limit. -/
def timely (provider : Provider) (settings : Settings.Search) (attempt : Attempt) :
    Except Fault Location :=
  -- An attempt that ends just at its limit is in time.
  if provider.limitIn settings < attempt.delay then .error (provider.timeout settings)
  else attempt.outcome

def visit (provider : Provider) (settings : Settings.Search) (query : Query) (best : Location) :
    Visit :=
  let gate := provider.gate query best
  if gate.isOpen then
    let attempt := provider.attempt query
    ⟨provider.profile, gate.fault, .ofOutcome (provider.timely settings attempt), attempt.sent⟩
  else ⟨provider.profile, gate.fault, .skipped, []⟩

end Provider

namespace Search

/-- Is the location accurate enough to end a search? -/
def isEnough (settings : Settings.Search) (best : Location) : Bool :=
  -- What the external service found never ends a search.
  match settings.earlyExit, best.source?, best.accuracy? with
  | some threshold, some .internal, some accuracy => accuracy ≤ threshold
  | _, _, _ => false

/-- The best location after one more verdict. -/
def improve (best : Location) (verdict : Verdict) : Location :=
  match verdict.candidate? with
  | none => best
  | some candidate => best.merge candidate

def endsWith (settings : Settings.Search) (best : Location) (verdict : Verdict) : Bool :=
  verdict.candidate?.isSome && isEnough settings (improve best verdict)

/-- The visits of a search that goes on with the best location so far. -/
def visitsFrom (settings : Settings.Search) (query : Query) (best : Location) :
    List Provider → List Visit
  | [] => []
  | provider :: rest =>
    let visit := provider.visit settings query best
    -- The visit that ends a search belongs to it.
    if endsWith settings best visit.verdict then [visit]
    else visit :: visitsFrom settings query (improve best visit.verdict) rest

def visits (settings : Settings.Search) (chain : List Provider) (query : Query) : List Visit :=
  visitsFrom settings query (.empty false) chain

/-- The best location after a list of visits. -/
def locationOf (visits : List Visit) : Location :=
  visits.foldl (fun best visit => improve best visit.verdict) (.empty false)

end Search

/-! ### Counters and reports -/

inductive Metric where
  /-- The provider found a location. -/
  | hit (provider : String)
  | unavailable (provider : String)
  /-- The provider found a location for a caller. -/
  | callerHit (caller provider : String)
  /-- The provider looked for a location for a caller and found none. -/
  | callerMiss (caller provider : String)
  deriving DecidableEq, Repr

def Metric.name : Metric → String
  | .hit provider => provider ++ "_hit"
  | .unavailable provider => provider ++ "_unavailable"
  | .callerHit caller provider => "api_log." ++ caller ++ "." ++ provider ++ "_hit"
  | .callerMiss caller provider => "api_log." ++ caller ++ "." ++ provider ++ "_miss"

namespace Visit

def hitMetrics (caller : Caller) (provider : String) : List Metric :=
  .hit provider :: if caller.logged then [.callerHit caller.name provider] else []

/-- The counters of an attempt that looked for a location and found none. -/
def missMetrics (caller : Caller) (provider : String) : List Metric :=
  if caller.logged then [.callerMiss caller.name provider] else []

def metrics (caller : Caller) (visit : Visit) : List Metric :=
  let provider := visit.profile.name
  match visit.verdict with
  | .skipped => []
  -- An outage is no miss: nothing was looked for.
  | .unavailable _ => [.unavailable provider]
  | .faulted _ => missMetrics caller provider
  | .answered location =>
    if location.isFound then hitMetrics caller provider
    else if location.wasSearched then missMetrics caller provider
    else []

/-- The faults that a visit reports, those of the gate first. -/
def faults (visit : Visit) : List Fault := visit.gateFault.toList ++ visit.verdict.fault?.toList

end Visit

structure Outcome where
  location : Location
  metrics : List Metric
  faults : List Fault
  sent : List ServiceRequest
  deriving DecidableEq, Repr

def Outcome.ofVisits (caller : Caller) (visits : List Visit) : Outcome where
  location := Search.locationOf visits
  metrics := visits.flatMap (Visit.metrics caller)
  faults := visits.flatMap Visit.faults
  sent := visits.flatMap (·.sent)

def Search.run (settings : Settings.Search) (caller : Caller) (chain : List Provider)
    (query : Query) : Outcome :=
  .ofVisits caller (visits settings chain query)

end Geolocation
