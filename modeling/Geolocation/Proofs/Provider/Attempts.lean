import Geolocation.Provider.Address
import Geolocation.Provider.Evidence

/-!
# Attempts to locate

When a provider asks its backend, and what comes of the answer. Without enough evidence in the query
nobody is asked, and what the backend would have said makes no difference. A fault of the backend is an
outage of the provider, and everything else is decided by what the provider makes of the answer.
-/

namespace Geolocation

theorem Query.numberedCells_eq_nil_iff (query : Query) :
    query.numberedCells = [] ↔ ¬ ∃ sighting ∈ query.cells, sighting.cid.isSome = true := by
  simp [Query.numberedCells, CellSighting.cell?]

theorem Query.areas_eq_nil_iff (query : Query) : query.areas = [] ↔ query.cells = [] := by
  cases seen : query.cells with
  | nil => simp [Query.areas, seen, distinctBy]
  | cons first rest => simp [Query.areas, seen, distinctBy]

namespace Attempt

variable {α : Type} {profile : Profile} {reply : Reply α} {next : α → Except Fault Location}

theorem outcome_asking_of_ok {answer : α} (known : reply.answer = .ok answer) :
    (asking profile reply next).outcome = next answer := by
  simp only [asking, known]

theorem outcome_asking_of_error {cause : Fault} (failed : reply.answer = .error cause) :
    (asking profile reply next).outcome = .error (profile.unavailable cause.message) := by
  simp only [asking, failed]

end Attempt

namespace Provider

variable {settings : Settings} {query : Query}

theorem enoughWifis_iff (settings : Settings) (query : Query) :
    enoughWifis settings query = true ↔
      max 1 settings.wifi.queryMinimum ≤ query.wifis.length := by
  rw [Nat.max_le]
  cases keyed : query.wifis with
  | nil => simp [enoughWifis, keyed]
  | cons first rest => simp [enoughWifis, keyed]

theorem attempt_wifi_of_few (lookup : List WifiKey → Reply (List Network))
    (few : query.wifis.length < max 1 settings.wifi.queryMinimum) :
    (wifi settings lookup).attempt query = .now (.empty false) := by
  apply if_neg
  rw [enoughWifis_iff]
  exact Nat.not_le_of_lt few

theorem attempt_wifi_of_enough (lookup : List WifiKey → Reply (List Network))
    (enough : max 1 settings.wifi.queryMinimum ≤ query.wifis.length) :
    (wifi settings lookup).attempt query =
      .asking wifiProfile (lookup query.wifiKeys) (locateWifis settings) :=
  if_pos ((enoughWifis_iff settings query).mpr enough)

theorem attempt_cell_of_nil (settings : Settings) (lookup : List Cell → Reply (List Network))
    (nothing : query.numberedCells = []) :
    (cell settings lookup).attempt query = .now (.empty false) :=
  if_pos (List.isEmpty_iff.mpr nothing)

theorem attempt_cell_of_some (settings : Settings) (lookup : List Cell → Reply (List Network))
    (some : query.numberedCells ≠ []) :
    (cell settings lookup).attempt query =
      .asking cellProfile (lookup query.numberedCells) (locateCells settings query.numberedCells) :=
  if_neg fun nothing => some (List.isEmpty_iff.mp nothing)

theorem attempt_area_of_nil (settings : Settings) (lookup : List CellArea → Reply (List Network))
    (nothing : query.areas = []) :
    (area settings lookup).attempt query = .now (.empty false) :=
  if_pos (List.isEmpty_iff.mpr nothing)

theorem attempt_area_of_some (settings : Settings) (lookup : List CellArea → Reply (List Network))
    (some : query.areas ≠ []) :
    (area settings lookup).attempt query =
      .asking areaProfile (lookup query.areas) (locateArea settings) :=
  if_neg fun nothing => some (List.isEmpty_iff.mp nothing)

theorem attempt_address_of_none (settings : Settings) (yields : Yield)
    (lookup : IpAddress → Reply (Option AddressRecord)) (nothing : query.ip = none) :
    (address settings yields lookup).attempt query = .now (.empty false) := by
  simp only [address, nothing]

theorem attempt_address_of_some {ip : IpAddress} (settings : Settings) (yields : Yield)
    (lookup : IpAddress → Reply (Option AddressRecord)) (parsed : query.ip = some ip) :
    (address settings yields lookup).attempt query =
      .asking (addressProfile yields) (lookup ip) (locateAddress settings yields ip) := by
  simp only [address, parsed]

/-- A group that has members has a centre, and everything else depends on the radius. -/
theorem locateGroup_of_ne_nil {members : List Network} (profile : Profile) (minimum : Float)
    (some : members ≠ []) :
    ∃ centre, Coordinate.mean? (members.map (·.place)) = .some centre ∧
      locateGroup profile minimum members =
        (Network.accuracy centre members minimum).map (profile.position centre) := by
  obtain ⟨centre, mean⟩ : ∃ centre, Coordinate.mean? (members.map (·.place)) = .some centre :=
    ⟨_, if_neg (by simpa using some)⟩
  refine ⟨centre, mean, ?_⟩
  simp only [locateGroup, Network.estimate, Network.centre, mean, bind, Except.bind]
  cases Network.accuracy centre members minimum <;> rfl

end Provider

end Geolocation
