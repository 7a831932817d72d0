import Geolocation.Proofs.Query.Normal
import Geolocation.Service.Request

/-!
# What the body of a service request says

The body that is sent to the external service is read back as a request and made a query again. It
carries the access points of the query it was made from and those cells whose number is known, with
their signals and in their order. Each of its records is read by the name of its fields, and none of
them is dropped, since every report in it is valid and no two of them have the same key.
-/

namespace Geolocation

namespace ServiceRequest

open Document

/-! ### Reading a body -/

/-- A whole number of any size. -/
def toWhole? : Document → Option Int
  | .int value => some value
  | _ => none

/-- The cell that a record of the body reports. -/
def toCellReport? (d : Document) : Option CellReport := do
  match ← d.fields? .exact ["radioType", "mobileCountryCode", "mobileNetworkCode",
      "locationAreaCode", "cellId", "signalStrength"] with
  | [radio, mcc, mnc, lac, cid, signal] =>
    return {
      radio := ← required toText? radio
      mcc := ← required toWhole? mcc
      mnc := ← required toWhole? mnc
      lac := ← required toWhole? lac
      cid := some (← required toWhole? cid)
      signal := ← defaulted none (toOption? toWhole?) signal
    }
  | _ => none

/-- The access point that a record of the body reports. -/
def toWifiReport? (d : Document) : Option WifiReport := do
  match ← d.fields? .exact ["macAddress", "signalStrength"] with
  | [address, signal] =>
    return {
      key := ← required toText? address
      signal := ← defaulted none (toOption? toWhole?) signal
    }
  | _ => none

/-- The request that a body makes, without an address and policy flags. -/
def toRequest? (d : Document) : Option Request := do
  match ← d.fields? .exact ["cellTowers", "wifiAccessPoints"] with
  | [cells, wifis] =>
    return {
      cells := ← required (toList? toCellReport?) cells
      wifis := ← required (toList? toWifiReport?) wifis
      ip := none
      policy := none
    }
  | _ => none

/-! ### What is read back -/

def cellReport (report : ServiceCell) : CellReport where
  radio := report.cell.area.radio.name
  mcc := report.cell.area.mcc
  mnc := report.cell.area.mnc
  lac := report.cell.area.lac
  cid := some report.cell.cid
  signal := report.signal

def wifiReport (report : ServiceWifi) : WifiReport := ⟨report.address, report.signal⟩

/-- The request whose reports are the records of a body. -/
def reported (request : ServiceRequest) : Request where
  cells := request.cells.map cellReport
  wifis := request.wifis.map wifiReport
  ip := none
  policy := none

theorem toCellReport?_cellJson (report : ServiceCell) :
    toCellReport? (ofJson (cellJson report)) = some (cellReport report) := by
  cases report with
  | mk cell signal => cases signal <;> rfl

theorem toWifiReport?_wifiJson (report : ServiceWifi) :
    toWifiReport? (ofJson (wifiJson report)) = some (wifiReport report) := by
  cases report with
  | mk address signal => cases signal <;> rfl

theorem itemsOfJson_eq_map (items : List Json) : itemsOfJson items = items.map ofJson := by
  induction items with
  | nil => rfl
  | cons item rest ih => rw [itemsOfJson, ih, List.map_cons]

theorem toList?_map {α β : Type} {encode : α → Json} {decode : Document → Option β} {value : α → β}
    (reads : ∀ item, decode (ofJson (encode item)) = some (value item)) (items : List α) :
    toList? decode (ofJson (.array (items.map encode))) = some (items.map value) := by
  -- Since every item is read back, the reader never fails and only maps.
  have each : decode ∘ ofJson ∘ encode = fun item => pure (value item) := funext reads
  rw [ofJson, itemsOfJson_eq_map, toList?, List.map_map, List.mapM_map, each, List.mapM_pure]
  rfl

theorem toRequest?_toJson (request : ServiceRequest) :
    toRequest? (ofJson request.toJson) = some request.reported := by
  -- The third field of a body is not asked for.
  have fields : fields? .exact ["cellTowers", "wifiAccessPoints"] (ofJson request.toJson)
      = some [some (ofJson (.array (request.cells.map cellJson))),
          some (ofJson (.array (request.wifis.map wifiJson)))] := rfl
  simp [toRequest?, fields, required, toList?_map toCellReport?_cellJson,
    toList?_map toWifiReport?_wifiJson, reported]

/-- Only observations with the number of a cell are reported, each as the observation would be. -/
theorem cells_reported_ofQuery (query : Query) :
    (ofQuery query).reported.cells = (query.cells.filter (·.cid.isSome)).map CellSighting.report := by
  rw [reported, ofQuery]
  induction query.cells with
  | nil => rfl
  | cons sighting rest ih =>
    obtain ⟨area, cid, signal⟩ := sighting
    cases cid with
    | none => simpa [CellSighting.cell?] using ih
    | some cid => simpa [CellSighting.cell?, CellSighting.report, cellReport] using ih

/-! ### The query of what is read back -/

theorem cells_reported_reads (request : Request) :
    List.Forall₂ CellReport.Reads (ofQuery (.ofRequest request)).reported.cells
      ((Query.ofRequest request).cells.filter (·.cid.isSome)) := by
  rw [cells_reported_ofQuery, List.forall₂_map_left_iff, List.forall₂_same]
  exact fun sighting member => Query.report_reads_of_mem_cells (List.mem_of_mem_filter member)

theorem wifis_reported_reads (query : Query) :
    List.Forall₂ WifiReport.Reads (ofQuery query).reported.wifis query.wifis := by
  rw [reported, ofQuery, List.map_map, List.forall₂_map_left_iff, List.forall₂_same]
  exact fun sighting _ => ⟨sighting.key.spells_address, rfl⟩

theorem address_reported (query : Query) {report : WifiReport}
    (member : report ∈ (ofQuery query).reported.wifis) : WifiKey.IsColonAddress report.key := by
  simp only [reported, ofQuery, List.map_map, List.mem_map] at member
  obtain ⟨sighting, -, rfl⟩ := member
  exact sighting.key.isColonAddress_address

/-- The body of a query is read back as reports that are all valid and whose query has the access points
of the first one and its cells with a number. It has no reports exactly if there is neither. -/
theorem body_carries_query (request : Request) :
    (∃ back, toRequest? (ofJson (ofQuery (.ofRequest request)).toJson) = some back ∧
      (Query.ofRequest back).wifis = (Query.ofRequest request).wifis ∧
      (Query.ofRequest back).cells = (Query.ofRequest request).cells.filter (·.cid.isSome) ∧
      List.Forall₂ WifiReport.Reads back.wifis (Query.ofRequest back).wifis ∧
      List.Forall₂ CellReport.Reads back.cells (Query.ofRequest back).cells ∧
      ∀ report ∈ back.wifis, WifiKey.IsColonAddress report.key) ∧
    ((ofQuery (.ofRequest request)).isEmpty = true ↔
      (Query.ofRequest request).wifis = [] ∧
        ∀ sighting ∈ (Query.ofRequest request).cells, sighting.cid = none) := by
  -- What is left of a query has its keys once, so that each report of it is a first occurrence.
  have wifisRead := wifis_reported_reads (.ofRequest request)
  have cellsRead := cells_reported_reads request
  have wifis : (Query.ofRequest (ofQuery (.ofRequest request)).reported).wifis
      = (Query.ofRequest request).wifis :=
    distinctBy_filterMap_of_reads WifiReport.sighting?_eq_some_iff wifisRead (distinctBy_pairwise _ _)
  have cells : (Query.ofRequest (ofQuery (.ofRequest request)).reported).cells
      = (Query.ofRequest request).cells.filter (·.cid.isSome) :=
    distinctBy_filterMap_of_reads CellReport.sighting?_eq_some_iff cellsRead
      ((distinctBy_pairwise _ _).filter _)
  constructor
  · refine ⟨(ofQuery (.ofRequest request)).reported, toRequest?_toJson _, wifis, cells, ?_, ?_, ?_⟩
    · rw [wifis]
      exact wifisRead
    · rw [cells]
      exact cellsRead
    · exact fun report member => address_reported _ member
  · simp [isEmpty, ofQuery, CellSighting.cell?, and_comm]

/-- The cell without a number stays behind, the other one and the access point are read back. -/
theorem body_of_cell_and_wifi :
    let request : Request := ⟨[⟨" UMTS", 262, 2, 801, some 86355, some (-95)⟩,
      ⟨"gsm", 262, 2, 801, none, none⟩], [⟨"A4-08-F5-1C-33-7E", some (-48)⟩], none, none⟩
    ∃ back, toRequest? (ofJson (ofQuery (.ofRequest request)).toJson) = some back ∧
      (Query.ofRequest back).cells = [⟨⟨.wcdma, 262, 2, 801⟩, some 86355, some (-95)⟩] ∧
      back.wifis = [⟨"a4:08:f5:1c:33:7e", some (-48)⟩] ∧
      WifiKey.IsColonAddress "a4:08:f5:1c:33:7e" ∧
      (ofQuery (.ofRequest request)).isEmpty = false := by
  intro request
  obtain ⟨⟨back, read, -, cells, -, -, addresses⟩, empty⟩ := body_carries_query request
  have known : (Query.ofRequest request).cells.filter (·.cid.isSome)
      = [⟨⟨.wcdma, 262, 2, 801⟩, some 86355, some (-95)⟩] := by
    decide
  have wifis : back.wifis = [⟨"a4:08:f5:1c:33:7e", some (-48)⟩] := by
    obtain rfl : (ofQuery (.ofRequest request)).reported = back :=
      Option.some.inj ((toRequest?_toJson _).symm.trans read)
    decide
  refine ⟨back, read, cells.trans known, wifis, ?_, ?_⟩
  · exact addresses ⟨"a4:08:f5:1c:33:7e", some (-48)⟩ (by simp [wifis])
  · rw [Bool.eq_false_iff, Ne, empty]
    exact fun nothing => absurd nothing.1 (by decide)

end ServiceRequest

end Geolocation
