import Geolocation.Search.Basic
import Mathlib.Data.List.Basic

/-!
# Names of counters

A counter is known by its name alone, although callers may be called anything. The names of providers
have no dots, so what follows the last dot of a name tells the provider and what happened, and what
stands before it tells the caller.

Main result: `Metric.name_inj`.
-/

namespace Geolocation

namespace Metric

def provider : Metric → String
  | .hit provider | .unavailable provider | .callerHit _ provider | .callerMiss _ provider => provider

def caller? : Metric → Option String
  | .hit _ | .unavailable _ => none
  | .callerHit caller _ | .callerMiss caller _ => some caller

/-- What happened, as the name of the counter says it. -/
def suffix : Metric → String
  | .hit _ | .callerHit _ _ => "_hit"
  | .unavailable _ => "_unavailable"
  | .callerMiss _ _ => "_miss"

def scope : Option String → String
  | none => ""
  | some caller => "api_log." ++ caller ++ "."

theorem name_eq (metric : Metric) :
    metric.name = scope metric.caller? ++ (metric.provider ++ metric.suffix) := by
  cases metric <;> simp [name, scope, caller?, provider, suffix, String.append_assoc]

theorem eq_of_parts {a b : Metric} (callers : a.caller? = b.caller?)
    (providers : a.provider = b.provider) (suffixes : a.suffix = b.suffix) : a = b := by
  cases a <;> cases b <;> simp_all [caller?, provider, suffix]

/-- The last dot of a name ends the scope. -/
theorem scope_append_inj {s t : Option String} {x y : String} (left : '.' ∉ x.toList)
    (right : '.' ∉ y.toList) (same : scope s ++ x = scope t ++ y) : s = t ∧ x = y := by
  have letters := congrArg String.toList same
  rw [String.toList_append, String.toList_append] at letters
  match s, t with
  | none, none => exact ⟨rfl, String.toList_inj.mp (by simpa [scope] using letters)⟩
  | none, some caller =>
    have dotted : '.' ∈ (scope none).toList ++ x.toList := letters ▸ by simp [scope]
    exact absurd (by simpa [scope] using dotted) left
  | some caller, none =>
    have dotted : '.' ∈ (scope none).toList ++ y.toList := letters ▸ by simp [scope]
    exact absurd (by simpa [scope] using dotted) right
  | some first, some second =>
    have names : first.toList ++ '.' :: x.toList = second.toList ++ '.' :: y.toList := by
      simpa [scope] using letters
    -- One caller's name begins the other one. What the longer one has more would put a dot behind
    -- the last dot of the shorter one.
    rcases List.append_eq_append_iff.mp names with ⟨more, longer, rest⟩ | ⟨more, longer, rest⟩
    · cases more with
      | nil =>
        have callers : first = second := String.toList_inj.mp (by simpa using longer.symm)
        exact ⟨congrArg some callers, String.toList_inj.mp (by simpa using rest)⟩
      | cons c more =>
        have dotted : x.toList = more ++ '.' :: y.toList := (List.cons.inj rest).2
        exact absurd (dotted ▸ by simp) left
    · cases more with
      | nil =>
        have callers : first = second := String.toList_inj.mp (by simpa using longer)
        exact ⟨congrArg some callers, String.toList_inj.mp (by simpa using rest.symm)⟩
      | cons c more =>
        have dotted : y.toList = more ++ '.' :: x.toList := (List.cons.inj rest).2
        exact absurd (dotted ▸ by simp) right

theorem suffix_eq_of_append {a b : Metric} {x y : String} (same : x ++ a.suffix = y ++ b.suffix) :
    a.suffix = b.suffix := by
  -- The last letters of the three suffixes differ.
  have letters := congrArg (fun name => name.toList.getLast?) same
  cases a <;> cases b <;> first | rfl | simp [suffix] at letters

theorem name_inj {a b : Metric} (left : '.' ∉ a.provider.toList) (right : '.' ∉ b.provider.toList)
    (same : a.name = b.name) : a = b := by
  have dotless (metric : Metric) (plain : '.' ∉ metric.provider.toList) :
      '.' ∉ (metric.provider ++ metric.suffix).toList := by
    cases metric <;> simpa [suffix, provider] using plain
  rw [name_eq, name_eq] at same
  obtain ⟨callers, endings⟩ := scope_append_inj (dotless a left) (dotless b right) same
  have suffixes := suffix_eq_of_append endings
  rw [suffixes] at endings
  have providers : a.provider = b.provider := by simpa using endings
  exact eq_of_parts callers providers suffixes

end Metric

end Geolocation
