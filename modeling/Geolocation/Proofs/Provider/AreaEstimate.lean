import Geolocation.Proofs.Provider.Attempts
import Geolocation.Proofs.Query.Normal
import Geolocation.Proofs.Store.LastRecord
import Geolocation.Search.Locator

/-!
# The estimate from cell areas

What the cells of a request come to in a store that is read from a document, by their areas alone. The
areas are made distinct twice on the way, with the numbers of the cells and without them, which leaves
each area where it is first reported. Of those the first one that has a record is the estimate, with the
last record that it has.

Main result: `Provider.area_estimate`.
-/

namespace Geolocation

open Store (Records last?)

/-! ### First occurrences -/

/-- Items that are left out for their whole key are left out for a part of it, too. -/
theorem distinctBy_map_distinctBy {α β κ : Type} [DecidableEq β] [DecidableEq κ] {key : α → κ}
    {part : α → β} (determined : ∀ a b, key a = key b → part a = part b) (items : List α) :
    distinctBy id ((distinctBy key items).map part) = distinctBy id (items.map part) := by
  induction items using List.reverseRecOn with
  | nil => rfl
  | append_singleton items last ih =>
    rw [List.map_append, List.map_singleton]
    by_cases seen : ∃ earlier ∈ items, key earlier = key last
    · obtain ⟨earlier, member, same⟩ := seen
      rw [distinctBy_insert member same,
        distinctBy_insert (List.mem_map_of_mem member) (determined earlier last same)]
      simpa using ih
    rw [distinctBy_concat (by simpa using seen), List.map_append, List.map_singleton]
    -- The part may have been seen with another key, and then the first item with that key is kept.
    by_cases seen : ∃ earlier ∈ items, part earlier = part last
    · obtain ⟨earlier, member, same⟩ := seen
      obtain ⟨kept, present, again⟩ := exists_mem_distinctBy key member
      rw [distinctBy_insert (List.mem_map_of_mem present) ((determined kept earlier again).trans same),
        distinctBy_insert (List.mem_map_of_mem member) same]
      simpa using ih
    · have unseen : ∀ earlier ∈ items, part earlier ≠ part last := by simpa using seen
      have subset := (distinctBy_sublist key items).subset
      rw [distinctBy_concat, distinctBy_concat, ih]
      · simpa using unseen
      · simpa using fun earlier member => unseen earlier (subset member)

theorem findSome?_filter_of_none {α β : Type} {f : α → Option β} {keep : α → Bool} {items : List α}
    (none : ∀ item ∈ items, keep item = false → f item = none) :
    (items.filter keep).findSome? f = items.findSome? f := by
  induction items with
  | nil => rfl
  | cons item rest ih =>
    have later := ih fun other member => none other (List.mem_cons_of_mem item member)
    cases kept : keep item with
    | true => rw [List.filter_cons_of_pos kept, List.findSome?_cons, List.findSome?_cons, later]
    | false =>
      rw [List.filter_cons_of_neg (by simp [kept]), later, List.findSome?_cons,
        none item List.mem_cons_self kept]

/-- What is left out comes too late to be the first that tells something. -/
theorem findSome?_distinctBy {α β : Type} [DecidableEq α] (f : α → Option β) (items : List α) :
    (distinctBy id items).findSome? f = items.findSome? f := by
  induction items with
  | nil => rfl
  | cons item rest ih =>
    rw [distinctBy, List.findSome?_cons, List.findSome?_cons, ← ih]
    cases first : f item with
    | some found => rfl
    | none =>
      refine findSome?_filter_of_none fun other _ dropped => ?_
      obtain rfl : other = item := by simpa using dropped
      exact first

/-! ### Reports and their areas -/

/-- The report is valid, with or without the number of the cell, and the cell lies in this area. -/
def CellReport.LiesIn (report : CellReport) (area : CellArea) : Prop :=
  ∃ sighting, report.Reads sighting ∧ sighting.area = area

def CellReport.area? (report : CellReport) : Option CellArea := report.sighting?.map (·.area)

theorem CellReport.area?_eq_some_iff (report : CellReport) (area : CellArea) :
    report.area? = some area ↔ report.LiesIn area := by
  simp only [area?, Option.map_eq_some_iff, sighting?_eq_some_iff, LiesIn]

theorem CellReport.area?_eq_none_iff (report : CellReport) :
    report.area? = none ↔ ∀ area, ¬report.LiesIn area := by
  simp only [Option.eq_none_iff_forall_ne_some, ne_eq, area?_eq_some_iff]

/-- The reports are valid for the same areas, whatever cells they tell. -/
def CellReport.SameArea (report other : CellReport) : Prop :=
  ∀ area, report.LiesIn area ↔ other.LiesIn area

theorem CellReport.filterMap_area?_of_sameArea {reports others : List CellReport}
    (alike : List.Forall₂ CellReport.SameArea reports others) :
    others.filterMap area? = reports.filterMap area? := by
  induction alike with
  | nil => rfl
  | @cons report other _ _ same _ ih =>
    have area : report.area? = other.area? := Option.ext fun area => by
      rw [area?_eq_some_iff, area?_eq_some_iff, same area]
    rw [List.filterMap_cons, List.filterMap_cons, area, ih]

theorem Query.areas_ofRequest (request : Request) :
    (ofRequest request).areas = distinctBy id (request.cells.filterMap CellReport.area?) := by
  have determined (a b : CellSighting) (same : a.key = b.key) : a.area = b.area :=
    congrArg Prod.fst same
  rw [areas, ofRequest, distinctBy_map_distinctBy determined, List.map_filterMap]
  rfl

namespace Provider

/-! ### The first area with a record -/

variable {settings : Settings} {records : Records} {reports : List CellReport} {spot : Spot}

/-- The spot is the last record of an area in which a report lies, and the reports before that one lie
in areas without a record, if they are valid. -/
def IsFirstKnown (records : Records) (reports : List CellReport) (spot : Spot) : Prop :=
  ∃ before report after area, reports = before ++ report :: after ∧ report.LiesIn area ∧
    last? Eq records.areas area = some spot ∧
    ∀ earlier ∈ before, ∀ other, earlier.LiesIn other → last? Eq records.areas other = none

theorem findSome?_areas_eq_some_iff {request : Request} :
    (Query.ofRequest request).areas.findSome? (last? Eq records.areas) = some spot ↔
      IsFirstKnown records request.cells spot := by
  -- The reports are looked through themselves, each for the record of its area.
  rw [Query.areas_ofRequest, findSome?_distinctBy, ← List.head?_filterMap, List.filterMap_filterMap,
    List.head?_filterMap, List.findSome?_eq_some_iff]
  simp only [Option.bind_eq_some_iff, Option.bind_eq_none_iff, CellReport.area?_eq_some_iff]
  constructor
  · rintro ⟨before, report, after, split, ⟨area, inside, known⟩, unknown⟩
    exact ⟨before, report, after, area, split, inside, known, unknown⟩
  · rintro ⟨before, report, after, area, split, inside, known, unknown⟩
    exact ⟨before, report, after, split, ⟨area, inside, known⟩, unknown⟩

theorem findSome?_areas_eq_none_iff {request : Request} :
    (Query.ofRequest request).areas.findSome? (last? Eq records.areas) = none ↔
      ∀ report ∈ request.cells, ∀ area, report.LiesIn area → last? Eq records.areas area = none := by
  rw [Query.areas_ofRequest, findSome?_distinctBy, List.findSome?_eq_none_iff]
  simp only [List.mem_filterMap, CellReport.area?_eq_some_iff]
  constructor
  · exact fun unknown report member area inside => unknown area ⟨report, member, inside⟩
  · rintro unknown area ⟨report, member, inside⟩
    exact unknown report member area inside

theorem areas_eq_nil_iff {request : Request} :
    (Query.ofRequest request).areas = [] ↔ ∀ report ∈ request.cells, ∀ area, ¬report.LiesIn area := by
  rw [Query.areas_ofRequest]
  constructor
  · intro nothing report member area inside
    have reported := List.mem_filterMap.mpr
      ⟨report, member, (report.area?_eq_some_iff area).mpr inside⟩
    obtain ⟨kept, present, -⟩ := exists_mem_distinctBy id reported
    simp [nothing] at present
  · intro invalid
    rw [List.filterMap_eq_nil_iff.mpr fun report member =>
      report.area?_eq_none_iff.mpr (invalid report member)]
    rfl

theorem exists_liesIn_iff {request : Request} :
    (∃ report ∈ request.cells, ∃ area, report.LiesIn area) ↔ (Query.ofRequest request).areas ≠ [] := by
  rw [ne_eq, areas_eq_nil_iff]
  simp only [not_forall, not_not, exists_prop]

/-! ### The estimate -/

/-- The position of the record of an area. -/
def areaPosition (settings : Settings) (spot : Spot) : Position where
  place := spot.place
  accuracy := spot.range.elim settings.accuracy.area fun range => larger range settings.accuracy.area
  provenance := ⟨.internal, some "lacf"⟩

/-- What is located by the areas that are known of those asked for. -/
def areaEstimate (settings : Settings) (known? : CellArea → Option Spot) (asked : List CellArea) :
    Location :=
  if asked = [] then .empty false
  else (asked.findSome? known?).elim (.empty true) fun spot => .position (areaPosition settings spot)

section Estimate

variable {known? : CellArea → Option Spot} {asked : List CellArea}

theorem areaEstimate_eq_unsearched_iff :
    areaEstimate settings known? asked = .empty false ↔ asked = [] := by
  unfold areaEstimate
  cases asked.findSome? known? <;> simp

theorem areaEstimate_eq_searched_iff :
    areaEstimate settings known? asked = .empty true ↔ asked ≠ [] ∧ asked.findSome? known? = none := by
  by_cases nothing : asked = []
  · simp [areaEstimate, nothing]
  · rw [areaEstimate, if_neg nothing]
    cases asked.findSome? known? <;> simp [nothing]

theorem areaEstimate_of_known (known : asked.findSome? known? = some spot) :
    areaEstimate settings known? asked = .position (areaPosition settings spot) := by
  have some : asked ≠ [] := by
    rintro rfl
    cases known
  rw [areaEstimate, if_neg some, known, Option.elim_some]

theorem locateArea_known (settings : Settings) (known? : CellArea → Option Spot)
    (asked : List CellArea) :
    locateArea settings (asked.filterMap fun area => (known? area).map (Spot.network area.text)) =
      .ok ((asked.findSome? known?).elim (.empty true) fun spot =>
        .position (areaPosition settings spot)) := by
  induction asked with
  | nil => rfl
  | cons area rest ih =>
    rw [List.findSome?_cons]
    cases known : known? area with
    | none =>
      rw [List.filterMap_cons_none (by rw [known, Option.map_none])]
      exact ih
    | some spot =>
      rw [List.filterMap_cons_some (by rw [known, Option.map_some])]
      rfl

end Estimate

/-- What a request comes to by the areas that a store knows. -/
def areaOutcome (settings : Settings) (store : Store) (request : Request) : Except Fault Location :=
  ((area settings store.backends.areas).attempt (.ofRequest request)).outcome

theorem areaOutcome_ofRecords (settings : Settings) (records : Records) (request : Request) :
    areaOutcome settings (.ofRecords records) request =
      .ok (areaEstimate settings (last? Eq records.areas) (Query.ofRequest request).areas) := by
  rw [areaOutcome, areaEstimate, Store.backends_ofRecords]
  split
  next nothing => rw [attempt_area_of_nil settings _ nothing, Attempt.now]
  next some =>
    rw [attempt_area_of_some settings _ some, Attempt.outcome_asking_of_ok rfl, locateArea_known]

/-- What a request comes to by the areas that a store knows which is read from a text: nothing that was
looked for if no report is valid, nothing that was found if no area of a valid report has a record, and
else the last record of the first area that has one, never a fault. A report counts by its area alone,
whatever is known about its cell, and reports that are invalid, of an earlier area or behind a known area
change nothing. -/
theorem area_estimate (settings : Settings) {text : String} {records : Records}
    (written : Records.read? text = some records) :
    ∃ store, Store.read? text = some store ∧ ∀ request : Request,
      let outcome := areaOutcome settings store request
      (outcome = .ok (.empty false) ∨ outcome = .ok (.empty true) ∨
        ∃ spot, IsFirstKnown records request.cells spot) ∧
      (outcome = .ok (.empty false) ↔ ∀ report ∈ request.cells, ∀ area, ¬report.LiesIn area) ∧
      (outcome = .ok (.empty true) ↔ (∃ report ∈ request.cells, ∃ area, report.LiesIn area) ∧
        ∀ report ∈ request.cells, ∀ area, report.LiesIn area → last? Eq records.areas area = none) ∧
      (∀ spot, IsFirstKnown records request.cells spot →
        outcome = .ok (.position (areaPosition settings spot)) ∧
        ∀ later, areaOutcome settings store { request with cells := request.cells ++ later } = outcome) ∧
      (∀ reports, Relation.ReflTransGen (Inserts CellReport.LiesIn id) request.cells reports →
        areaOutcome settings store { request with cells := reports } = outcome) ∧
      ∀ (other : Request) (others : Records), others.areas = records.areas →
        List.Forall₂ CellReport.SameArea request.cells other.cells →
        areaOutcome settings (.ofRecords others) other = outcome := by
  have built : Store.read? text = some (.ofRecords records) := congrArg (Option.map _) written
  refine ⟨.ofRecords records, built, fun request => ?_⟩
  intro outcome
  have estimated : outcome = .ok (areaEstimate settings (last? Eq records.areas)
      (Query.ofRequest request).areas) := areaOutcome_ofRecords settings records request
  have located {spot : Spot} (first : IsFirstKnown records request.cells spot) :
      outcome = .ok (.position (areaPosition settings spot)) := by
    rw [estimated, areaEstimate_of_known (findSome?_areas_eq_some_iff.mpr first)]
  refine ⟨?_, ?_, ?_, ?_, ?_, ?_⟩
  · rw [estimated, Except.ok.injEq, Except.ok.injEq, areaEstimate_eq_unsearched_iff,
      areaEstimate_eq_searched_iff]
    by_cases nothing : (Query.ofRequest request).areas = []
    · exact Or.inl nothing
    cases known : (Query.ofRequest request).areas.findSome? (last? Eq records.areas) with
    | none => exact Or.inr (Or.inl ⟨nothing, rfl⟩)
    | some spot => exact Or.inr (Or.inr ⟨spot, findSome?_areas_eq_some_iff.mp known⟩)
  · rw [estimated, Except.ok.injEq, areaEstimate_eq_unsearched_iff, areas_eq_nil_iff]
  · rw [estimated, Except.ok.injEq, areaEstimate_eq_searched_iff, exists_liesIn_iff,
      findSome?_areas_eq_none_iff]
  · intro spot first
    refine ⟨located first, fun later => ?_⟩
    obtain ⟨before, report, after, area, split, reported⟩ := first
    have still : IsFirstKnown records (request.cells ++ later) spot :=
      ⟨before, report, after ++ later, area, by rw [split, List.append_assoc, List.cons_append],
        reported⟩
    rw [areaOutcome_ofRecords, areaEstimate_of_known (findSome?_areas_eq_some_iff.mpr still),
      located ⟨before, report, after, area, split, reported⟩]
  · intro reports inserted
    rw [estimated, areaOutcome_ofRecords, Query.areas_ofRequest, Query.areas_ofRequest,
      distinctBy_filterMap_insertions CellReport.area?_eq_some_iff inserted]
  · intro other others same alike
    rw [estimated, areaOutcome_ofRecords, Query.areas_ofRequest, Query.areas_ofRequest, same,
      CellReport.filterMap_area?_of_sameArea alike]

/-- Two records of one area, and one of another between them. -/
def writtenAreas : String :=
  "\x7b\"cell_area\":[" ++
    "\x7b\"radio\":\"gsm\",\"mcc\":262,\"mnc\":1,\"lac\":5,\"lat\":48,\"lon\":8\x7d," ++
    "\x7b\"radio\":\"lte\",\"mcc\":262,\"mnc\":1,\"lac\":6,\"lat\":52,\"lon\":13\x7d," ++
    "\x7b\"radio\":\"gsm\",\"mcc\":262,\"mnc\":1,\"lac\":5,\"lat\":50,\"lon\":8,\"range\":25000\x7d]\x7d"

/-- The first report is of an unknown area. The second one is of the area with two records, so that the
last of these counts and the third report does not. -/
theorem estimate_of_second_report :
    let reports : List CellReport := [⟨"gsm", 262, 1, 9, none, none⟩, ⟨"GSM", 262, 1, 5, some 99, none⟩,
      ⟨"lte", 262, 1, 6, none, none⟩]
    ∃ store, Store.read? writtenAreas = some store ∧
      areaOutcome {} store ⟨reports, [], none, none⟩ =
        .ok (.position ⟨⟨50.0, 8.0⟩, 25000.0, ⟨.internal, some "lacf"⟩⟩) := by
  intro reports
  have document : Json.read? writtenAreas = some (.table [("cell_area", .list [
      .table [("radio", .text "gsm"), ("mcc", .int 262), ("mnc", .int 1), ("lac", .int 5),
        ("lat", .int 48), ("lon", .int 8)],
      .table [("radio", .text "lte"), ("mcc", .int 262), ("mnc", .int 1), ("lac", .int 6),
        ("lat", .int 52), ("lon", .int 13)],
      .table [("radio", .text "gsm"), ("mcc", .int 262), ("mnc", .int 1), ("lac", .int 5),
        ("lat", .int 50), ("lon", .int 8), ("range", .int 25000)]])]) := by
    cbv
  have written : Records.read? writtenAreas = some ⟨[], [],
      [(⟨.gsm, 262, 1, 5⟩, ⟨⟨Float.ofInt 48, Float.ofInt 8⟩, none⟩),
        (⟨.lte, 262, 1, 6⟩, ⟨⟨Float.ofInt 52, Float.ofInt 13⟩, none⟩),
        (⟨.gsm, 262, 1, 5⟩, ⟨⟨Float.ofInt 50, Float.ofInt 8⟩, some (Float.ofInt 25000)⟩)], []⟩ := by
    rw [Records.read?, document]
    rfl
  have unknown (area : CellArea) (inside : CellReport.LiesIn ⟨"gsm", 262, 1, 9, none, none⟩ area) :
      area = ⟨.gsm, 262, 1, 9⟩ := by
    rw [← CellReport.area?_eq_some_iff] at inside
    exact (Option.some.inj inside).symm
  obtain ⟨store, read, estimate⟩ := area_estimate {} written
  refine ⟨store, read, ?_⟩
  obtain ⟨-, -, -, known, -⟩ := estimate ⟨reports, [], none, none⟩
  obtain ⟨located, -⟩ := known ⟨⟨Float.ofInt 50, Float.ofInt 8⟩, some (Float.ofInt 25000)⟩
    ⟨[⟨"gsm", 262, 1, 9, none, none⟩], ⟨"GSM", 262, 1, 5, some 99, none⟩,
      [⟨"lte", 262, 1, 6, none, none⟩], ⟨.gsm, 262, 1, 5⟩, rfl,
      (CellReport.area?_eq_some_iff _ _).mp (by decide), by decide, by
        intro earlier member other inside
        obtain rfl := List.mem_singleton.mp member
        rw [unknown other inside]
        decide⟩
  rw [located]
  decide +kernel

end Provider

end Geolocation
