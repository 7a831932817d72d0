import Geolocation.Decimal.Layout

/-!
# Faults

What can go wrong while a location is looked for, and the text that says so. Of these only an
unavailable provider is an outage; all others point at bad data.
-/

namespace Geolocation

/-- A cause for which a step of a search gives no location. -/
inductive Fault where
  /-- A latitude or longitude is not a number or out of range. -/
  | invalidCoordinate (lat lon : Float)
  /-- An estimate was asked for without any network. -/
  | emptyCluster
  /-- A provider could not use its backend. -/
  | unavailable (provider reason : String)
  /-- The policy flags of a query are not a JSON object. -/
  | malformedPolicy (text : String)
  | store (text : String)
  deriving DecidableEq, Repr

namespace Fault

def message : Fault → String
  | .invalidCoordinate lat lon =>
    "invalid coordinate (" ++ Decimal.messageText lat ++ ", " ++ Decimal.messageText lon ++ ")"
  | .emptyCluster => "accuracy estimate requested for an empty cluster"
  | .unavailable provider reason => "provider '" ++ provider ++ "' unavailable: " ++ reason
  | .malformedPolicy text => "malformed fallbacks: " ++ text
  | .store text => "network store error: " ++ text

def isOutage : Fault → Bool
  | .unavailable _ _ => true
  | _ => false

theorem isOutage_iff {fault : Fault} :
    fault.isOutage = true ↔ ∃ name reason, fault = .unavailable name reason := by
  cases fault <;> simp [isOutage]

theorem isOutage_eq_false_iff {fault : Fault} :
    fault.isOutage = false ↔ ∀ name reason, fault ≠ .unavailable name reason := by
  cases fault <;> simp [isOutage]

end Fault

/-- What succeeds in two steps succeeds in both of them. -/
theorem ok_of_bind {ε α β : Type} {first : Except ε α} {next : α → Except ε β} {result : β}
    (succeeds : (first >>= next) = .ok result) :
    ∃ middle, first = .ok middle ∧ next middle = .ok result := by
  cases first with
  | error fault => cases succeeds
  | ok middle => exact ⟨middle, rfl, succeeds⟩

/-- What fails in two steps fails in one of them. -/
theorem error_of_bind {ε α β : Type} {first : Except ε α} {next : α → Except ε β} {fault : ε}
    (failed : (first >>= next) = .error fault) :
    first = .error fault ∨ ∃ middle, first = .ok middle ∧ next middle = .error fault := by
  cases first with
  | error cause =>
    cases failed
    exact Or.inl rfl
  | ok middle => exact Or.inr ⟨middle, rfl, failed⟩

end Geolocation
