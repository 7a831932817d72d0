import Geolocation.Proofs.Search.Origin
import Mathlib.Data.List.Basic
import Mathlib.Data.List.Forall2

/-!
# What a search depends on

Two worlds that agree on what a search may look at give one outcome, counters, faults and requests
included. It may look at the policy flags, at the access points and the numbered cells, and at what the
backends answer to just these; and unless the flags forbid it, at the areas of all cells and at the
address, and at the answers to these.

The proof runs the two worlds side by side. Their providers agree one by one: whatever the best location
is, they make the same visit. Where a flag forbids a kind of evidence its provider is skipped in both
worlds, so that what it would have asked does not matter.

Main result: `Locator.locate_eq_of_sameEvidence`.
-/

namespace Geolocation

/-! ### Two worlds -/

def Query.Forbids (query : Query) (flag : String) : Prop :=
  query.flag flag = .ok (some (.bool false))

/-- Only an object of policy flags can forbid anything, by mapping a flag to false. -/
theorem Query.forbids_iff (query : Query) (name : String) :
    query.Forbids name ↔
      ∃ flags, query.policy = some (.object flags) ∧ Json.field? name flags = some (.bool false) := by
  unfold Forbids flag
  split
  next missing => simp [missing]
  next null => simp [null]
  next flags object => simp [object]
  next other _ noObject given =>
    simp only [given, reduceCtorEq, Option.some.injEq, false_iff, not_exists, not_and]
    exact fun flags object => absurd object (noObject flags)

/-- What a search may look at in a query is the same in both. -/
structure Query.SameEvidence (q r : Query) : Prop where
  policy : q.policy = r.policy
  wifis : q.wifis = r.wifis
  /-- Cells without a number only count for their areas. -/
  cells : q.cells.filter (·.cid.isSome) = r.cells.filter (·.cid.isSome)
  areas : ¬ q.Forbids "lacf" → q.areas = r.areas
  ip : ¬ q.Forbids "ipf" → q.ip = r.ip

/-- Backends answer the same to what a query asks for. -/
structure Backends.SameAnswers (left right : Backends) (query : Query) : Prop where
  wifis : query.wifiKeys ≠ [] → left.wifis query.wifiKeys = right.wifis query.wifiKeys
  cells : query.numberedCells ≠ [] → left.cells query.numberedCells = right.cells query.numberedCells
  areas : ¬ query.Forbids "lacf" → query.areas ≠ [] → left.areas query.areas = right.areas query.areas
  address : ¬ query.Forbids "ipf" → ∀ ip, query.ip = some ip → left.address ip = right.address ip
  service : left.service = right.service

/-- Stores have the same records of what a query asks for. -/
structure Store.SameRecords (left right : Store) (query : Query) : Prop where
  wifis : ∀ key ∈ query.wifiKeys, left.wifis[key]? = right.wifis[key]?
  cells : ∀ cell ∈ query.numberedCells, left.cells[cell]? = right.cells[cell]?
  areas : ¬ query.Forbids "lacf" → ∀ area ∈ query.areas, left.areas[area]? = right.areas[area]?
  address : ¬ query.Forbids "ipf" →
    ∀ ip, query.ip = some ip → left.addresses[ip]? = right.addresses[ip]?

variable {q r : Query}

namespace Query.SameEvidence

variable (same : q.SameEvidence r)
include same

theorem wifiKeys : q.wifiKeys = r.wifiKeys := by
  rw [Query.wifiKeys, Query.wifiKeys, same.wifis]

theorem filterMap_cells {α : Type} (f : CellSighting → Option α)
    (unnumbered : ∀ sighting, sighting.cid = none → f sighting = none) :
    q.cells.filterMap f = r.cells.filterMap f := by
  have numbered (query : Query) :
      query.cells.filterMap f = (query.cells.filter (·.cid.isSome)).filterMap f := by
    rw [List.filterMap_filter]
    refine List.filterMap_congr fun sighting _ => ?_
    cases known : sighting.cid with
    | none => exact unnumbered sighting known
    | some cid => rfl
  rw [numbered q, numbered r, same.cells]

theorem numberedCells : q.numberedCells = r.numberedCells :=
  same.filterMap_cells _ fun sighting none => by rw [CellSighting.cell?, none, Option.map_none]

theorem serviceRequest : ServiceRequest.ofQuery q = .ofQuery r := by
  rw [ServiceRequest.ofQuery, ServiceRequest.ofQuery, same.wifis, same.filterMap_cells]
  intro sighting none
  rw [CellSighting.cell?, none, Option.map_none, Option.map_none]

theorem policyGate (profile : Profile) : profile.policyGate q = profile.policyGate r := by
  simp only [Profile.policyGate, Query.flag, same.policy]

end Query.SameEvidence

theorem Store.SameRecords.sameAnswers {left right : Store} {query : Query}
    (same : left.SameRecords right query) (service : Option Service) :
    Backends.SameAnswers { left.backends with service } { right.backends with service } query where
  wifis _ := by
    refine congrArg (fun found => Reply.now (.ok found)) (List.filterMap_congr ?_)
    intro key asked
    rw [same.wifis key asked]
  cells _ := by
    refine congrArg (fun found => Reply.now (.ok found)) (List.filterMap_congr ?_)
    intro cell asked
    rw [same.cells cell asked]
  areas permitted _ := by
    refine congrArg (fun found => Reply.now (.ok found)) (List.filterMap_congr ?_)
    intro area asked
    rw [same.areas permitted area asked]
  address permitted ip asked :=
    congrArg (fun found => Reply.now (.ok found)) (same.address permitted ip asked)
  service := rfl

/-! ### Providers side by side -/

namespace Provider

/-- The providers make the same visits, one for one query and one for the other. -/
def Agree (settings : Settings.Search) (q r : Query) (first second : Provider) : Prop :=
  ∀ best, first.visit settings q best = second.visit settings r best

variable {settings : Settings.Search}

theorem Agree.of_gates {first second : Provider} (profile : first.profile = second.profile)
    (limit : first.limit = second.limit) (gate : ∀ best, first.gate q best = second.gate r best)
    (attempt : ∀ best, (first.gate q best).isOpen = true → first.attempt q = second.attempt r) :
    Agree settings q r first second := by
  intro best
  cases opened : (first.gate q best).isOpen with
  | false =>
    -- A closed gate keeps the provider from looking at anything.
    have closed : (second.gate r best).isOpen = false := gate best ▸ opened
    rw [visit_of_closed opened, visit_of_closed closed, profile, gate]
  | true =>
    have alike : (second.gate r best).isOpen = true := gate best ▸ opened
    have limitIn : first.limitIn settings = second.limitIn settings := by
      rw [Provider.limitIn, Provider.limitIn, limit]
    have timely (attempt : Attempt) :
        first.timely settings attempt = second.timely settings attempt := by
      rw [Provider.timely, Provider.timely, timeout, timeout, limitIn, profile]
    rw [visit_of_open opened, visit_of_open alike, profile, gate, attempt best opened, timely]

theorem permitted_of_open {profile : Profile} {name : String} (flagged : profile.flag = some name)
    (opened : (profile.policyGate q).isOpen = true) : ¬ q.Forbids name := by
  intro forbidden
  simp [Profile.policyGate, flagged, show q.flag name = _ from forbidden] at opened

section

variable {left right : Backends} (same : q.SameEvidence r) (answers : left.SameAnswers right q)
include same answers

theorem agree_wifi (settings : Settings) :
    Agree settings.search q r (wifi settings left.wifis) (wifi settings right.wifis) := by
  refine .of_gates rfl rfl (fun _ => same.policyGate wifiProfile) fun _ _ => ?_
  have enough : enoughWifis settings r = enoughWifis settings q := by
    rw [enoughWifis, enoughWifis, same.wifis]
  simp only [wifi]
  rw [enough, ← same.wifiKeys]
  by_cases asks : enoughWifis settings q
  · have some : q.wifiKeys ≠ [] := by
      have nonempty : q.wifis ≠ [] := by
        rintro none
        simp [enoughWifis, none] at asks
      simpa [Query.wifiKeys] using nonempty
    rw [if_pos asks, if_pos asks, answers.wifis some]
  · rw [if_neg asks, if_neg asks]

theorem agree_cell (settings : Settings) :
    Agree settings.search q r (cell settings left.cells) (cell settings right.cells) := by
  refine .of_gates rfl rfl (fun _ => same.policyGate cellProfile) fun _ _ => ?_
  simp only [cell]
  rw [← same.numberedCells]
  by_cases none : q.numberedCells.isEmpty
  · rw [if_pos none, if_pos none]
  · have some : q.numberedCells ≠ [] := by simpa using none
    rw [if_neg none, if_neg none, answers.cells some]

theorem agree_area (settings : Settings) :
    Agree settings.search q r (area settings left.areas) (area settings right.areas) := by
  refine .of_gates rfl rfl (fun _ => same.policyGate areaProfile) fun _ opened => ?_
  have permitted : ¬ q.Forbids "lacf" := permitted_of_open rfl opened
  simp only [area]
  rw [← same.areas permitted]
  by_cases none : q.areas.isEmpty
  · rw [if_pos none, if_pos none]
  · have some : q.areas ≠ [] := by simpa using none
    rw [if_neg none, if_neg none, answers.areas permitted some]

theorem agree_address (settings : Settings) (yields : Yield) :
    Agree settings.search q r (address settings yields left.address)
      (address settings yields right.address) := by
  refine .of_gates rfl rfl (fun _ => same.policyGate (addressProfile yields)) fun _ opened => ?_
  have permitted : ¬ q.Forbids "ipf" := permitted_of_open rfl opened
  simp only [address]
  rw [← same.ip permitted]
  cases asked : q.ip with
  | none => rfl
  | some ip =>
    have answer := answers.address permitted ip asked
    simp only [answer]

end

theorem agree_service (same : q.SameEvidence r) (settings : Settings) (caller : Caller)
    (ask : Service) :
    Agree settings.search q r (service settings caller ask) (service settings caller ask) := by
  refine .of_gates rfl rfl (fun best => ?_) fun _ _ => ?_
  · simp only [service, same.policyGate serviceProfile]
  · simp only [service, same.serviceRequest]

end Provider

namespace Search

theorem visitsFrom_of_agree {settings : Settings.Search} {first second : List Provider}
    (agree : List.Forall₂ (Provider.Agree settings q r) first second) (best : Location) :
    visitsFrom settings q best first = visitsFrom settings r best second := by
  -- Equal visits leave equal best locations, so the rest of both chains starts alike.
  induction agree generalizing best with
  | nil => rfl
  | cons here _ ih => simp only [visitsFrom, here best, ih]

end Search

namespace Locator

variable {left right : Backends}

theorem agree_chain (same : q.SameEvidence r) (answers : left.SameAnswers right q)
    (settings : Settings) (caller : Caller) (wanted : Yield) :
    List.Forall₂ (Provider.Agree settings.search q r) ((Locator.mk settings left).chain caller wanted)
      ((Locator.mk settings right).chain caller wanted) := by
  have address (yields : Yield) := Provider.agree_address same answers settings yields
  cases wanted with
  | country => exact .cons (address .country) .nil
  | position =>
    have services : List.Forall₂ (Provider.Agree settings.search q r)
        (left.service.toList.map (Provider.service settings caller))
        (right.service.toList.map (Provider.service settings caller)) := by
      rw [answers.service]
      exact List.forall₂_same.mpr fun provider member => by
        obtain ⟨ask, _, rfl⟩ := List.mem_map.mp member
        exact Provider.agree_service same settings caller ask
    exact .cons (Provider.agree_wifi same answers settings)
      (.cons (Provider.agree_cell same answers settings)
        (.cons (Provider.agree_area same answers settings)
          (.cons (address .position) services)))

/-- Nothing but the evidence that a search may look at has an influence on its outcome: worlds that
agree on it cannot be told apart, be they backends that answer the same or stores that have the same
records of what is asked for. -/
theorem locate_eq_of_sameEvidence (same : q.SameEvidence r) (settings : Settings) (caller : Caller)
    (wanted : Yield) :
    (∀ left right : Backends, left.SameAnswers right q →
      (Locator.mk settings left).locate caller wanted q =
        (Locator.mk settings right).locate caller wanted r) ∧
      ∀ (left right : Store) (service : Option Service), left.SameRecords right q →
        (Locator.mk settings { left.backends with service }).locate caller wanted q =
          (Locator.mk settings { right.backends with service }).locate caller wanted r := by
  have alike (left right : Backends) (answers : left.SameAnswers right q) :
      (Locator.mk settings left).locate caller wanted q =
        (Locator.mk settings right).locate caller wanted r :=
    congrArg (Outcome.ofVisits caller)
      (Search.visitsFrom_of_agree (agree_chain same answers settings caller wanted) (.empty false))
  refine ⟨alike, ?_⟩
  intro left right service records
  exact alike _ _ (records.sameAnswers service)

/-- A world that knows one cell, with these answers about areas and addresses. -/
def knowingCell (areas : Reply (List Network)) (address : Reply (Option AddressRecord)) : Backends where
  wifis _ := .now (.ok [])
  cells _ := .now (.ok [⟨"gsm:262:1:5:7", ⟨50.0, 8.0⟩, some 3000.0⟩])
  areas _ := areas
  address _ := address
  service := none

/-- The cell that is known, with other sightings, from this address. Neither areas nor the address may
be looked at. -/
def cellSeen (others : List CellSighting) (ip : Option IpAddress) : Query :=
  ⟨⟨⟨.gsm, 262, 1, 5⟩, some 7, none⟩ :: others, [], ip,
    some (.object [("ipf", .bool false), ("lacf", .bool false)])⟩

theorem located_alike_of_cell :
    let plain := cellSeen [] none
    let other := cellSeen [⟨⟨.lte, 262, 2, 9⟩, none, none⟩] (some (.v4 0x01020304))
    let here := knowingCell (.now (.ok [])) (.now (.ok none))
    let there := knowingCell ⟨.error (.store "broken"), 9000⟩ (.now (.error (.store "broken")))
    plain.areas ≠ other.areas ∧ plain.ip ≠ other.ip ∧
      (Locator.mk {} here).locate stranger .position plain =
        (Locator.mk {} there).locate stranger .position other := by
  intro plain other here there
  have noAreas : plain.Forbids "lacf" := rfl
  have noAddress : plain.Forbids "ipf" := rfl
  have same : plain.SameEvidence other :=
    ⟨rfl, rfl, rfl, fun permitted => absurd noAreas permitted,
      fun permitted => absurd noAddress permitted⟩
  have answers : here.SameAnswers there plain :=
    ⟨fun _ => rfl, fun _ => rfl, fun permitted => absurd noAreas permitted,
      fun permitted => absurd noAddress permitted, rfl⟩
  exact ⟨by decide, by decide,
    (locate_eq_of_sameEvidence same {} stranger .position).1 here there answers⟩

end Locator

end Geolocation
