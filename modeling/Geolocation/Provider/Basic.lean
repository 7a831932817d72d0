import Geolocation.Location
import Geolocation.Query.Basic
import Geolocation.Service.Request

/-!
# Providers

A provider estimates a location from one kind of evidence. It has a gate, which decides from the query
and the best location so far whether it runs at all, and an attempt, which takes some time and may
fail. A provider that has a policy flag is closed by that flag being literally false and by nothing
else; flags that are malformed are reported and do not close it.
-/

namespace Geolocation

inductive Yield where
  | position
  | country
  deriving DecidableEq, Repr

/-- What is fixed about a provider. -/
structure Profile where
  /-- The name in counters and faults. -/
  name : String
  yields : Yield
  /-- The policy flag that can close it. -/
  flag : Option String
  source : Source
  deriving DecidableEq, Repr

namespace Profile

def provenance (profile : Profile) : Provenance := ⟨profile.source, profile.flag⟩

def position (profile : Profile) (place : Coordinate) (accuracy : Float) : Location :=
  .position ⟨place, accuracy, profile.provenance⟩

def country (profile : Profile) (code name : String) : Location :=
  .country ⟨code, name, profile.provenance⟩

def unavailable (profile : Profile) (reason : String) : Fault := .unavailable profile.name reason

end Profile

/-- The decision whether a provider runs, and what is reported in making it. -/
structure Gate where
  isOpen : Bool
  fault : Option Fault
  deriving DecidableEq, Repr

/-- The decision that the policy flags of a query make on a provider. -/
def Profile.policyGate (profile : Profile) (query : Query) : Gate :=
  match profile.flag with
  | none => ⟨true, none⟩
  | some name =>
    match query.flag name with
    | .ok (some (.bool false)) => ⟨false, none⟩
    | .ok _ => ⟨true, none⟩
    | .error fault => ⟨true, some fault⟩

/-- What a backend answers, and after how many milliseconds. -/
structure Reply (α : Type) where
  answer : Except Fault α
  delay : Nat

def Reply.now {α : Type} (answer : Except Fault α) : Reply α := ⟨answer, 0⟩

/-- What a provider makes of a query, after how many milliseconds, and what it sends to the external
service. -/
structure Attempt where
  outcome : Except Fault Location
  delay : Nat
  sent : List ServiceRequest

namespace Attempt

def now (location : Location) : Attempt := ⟨.ok location, 0, []⟩

/-- The attempt that asks a backend and goes on with its answer. A fault of the backend is an outage
of the provider. -/
def asking {α : Type} (profile : Profile) (reply : Reply α) (next : α → Except Fault Location) :
    Attempt :=
  match reply.answer with
  | .ok answer => ⟨next answer, reply.delay, []⟩
  | .error fault => ⟨.error (profile.unavailable fault.message), reply.delay, []⟩

end Attempt

/-- A provider as a search sees it. -/
structure Provider where
  profile : Profile
  /-- Its own time limit in milliseconds, if it has one. -/
  limit : Option Nat
  gate : Query → Location → Gate
  attempt : Query → Attempt

/-- A provider that comes to the same outcome after the same time for every query. -/
def Provider.fixed (profile : Profile) (limit : Option Nat) (outcome : Except Fault Location)
    (delay : Nat) : Provider where
  profile := profile
  limit := limit
  gate query _ := profile.policyGate query
  attempt _ := ⟨outcome, delay, []⟩

end Geolocation
