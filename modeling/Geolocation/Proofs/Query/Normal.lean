import Geolocation.Proofs.Query.FirstOccurrence
import Geolocation.Proofs.Query.WifiSpelling
import Geolocation.Proofs.Text.IpAddress
import Geolocation.Query.Basic

/-!
# Normal queries

A query has the valid reports of a request in their order, each cell, access point and area at its first
occurrence. What a valid report says is said here by its fields and their ranges, without the steps that
find it out. A request rebuilt from a query reads as the same query again, since every observation has a
report that reads as it and no two observations of a query share their key.
-/

namespace Geolocation

/-- The report is valid and makes this observation. -/
structure CellReport.Reads (report : CellReport) (sighting : CellSighting) : Prop where
  radio : Radio.read report.radio = .ok sighting.area.radio
  mcc : report.mcc = sighting.area.mcc ∧ 1 ≤ report.mcc ∧ report.mcc ≤ 999
  mnc : report.mnc = sighting.area.mnc ∧ 0 ≤ report.mnc ∧ report.mnc ≤ 32767
  lac : report.lac = sighting.area.lac ∧ 1 ≤ report.lac ∧ report.lac ≤ 65535
  cid : report.cid = sighting.cid.map Int.ofNat ∧ ∀ cid ∈ report.cid, 1 ≤ cid ∧ cid ≤ 268435455
  signal : report.signal = sighting.signal

/-- The key is valid, in any spelling, and the report makes this observation. -/
structure WifiReport.Reads (report : WifiReport) (sighting : WifiSighting) : Prop where
  key : WifiKey.Spells report.key sighting.key
  signal : report.signal = sighting.signal

/-! ### Reading reports -/

theorem CellReport.inRange_iff (report : CellReport) : report.inRange = true ↔
    (1 ≤ report.mcc ∧ report.mcc ≤ 999) ∧ (0 ≤ report.mnc ∧ report.mnc ≤ 32767) ∧
      (1 ≤ report.lac ∧ report.lac ≤ 65535) ∧
      ∀ cid ∈ report.cid, 1 ≤ cid ∧ cid ≤ 268435455 := by
  have largest : (largestCid : Int) = 268435455 := rfl
  simp only [inRange, largest]
  cases report.cid <;> simp [and_assoc]

theorem CellReport.sighting?_eq_some_iff (report : CellReport) (sighting : CellSighting) :
    report.sighting? = some sighting ↔ report.Reads sighting := by
  constructor
  · intro read
    unfold sighting? at read
    split at read
    · cases read
    next radio known =>
      split at read
      next valid =>
        obtain ⟨mcc, mnc, lac, cid⟩ := report.inRange_iff.mp valid
        cases read
        -- Within the ranges no number is negative, so that the natural numbers are the same.
        refine ⟨known, ⟨?_, mcc⟩, ⟨?_, mnc⟩, ⟨?_, lac⟩, ⟨?_, cid⟩, rfl⟩
        · exact (Int.toNat_of_nonneg (by omega)).symm
        · exact (Int.toNat_of_nonneg (by omega)).symm
        · exact (Int.toNat_of_nonneg (by omega)).symm
        · cases number : report.cid with
          | none => rfl
          | some n =>
            have positive := (cid n number).1
            simp only [Option.map_some, Option.some.injEq, Int.ofNat_eq_natCast]
            exact (Int.toNat_of_nonneg (by omega)).symm
      · cases read
  · rintro ⟨radio, ⟨mcc, mccRange⟩, ⟨mnc, mncRange⟩, ⟨lac, lacRange⟩, ⟨cid, cidRange⟩, signal⟩
    have valid := report.inRange_iff.mpr ⟨mccRange, mncRange, lacRange, cidRange⟩
    rw [sighting?, radio]
    have number : report.cid.map Int.toNat = sighting.cid := by
      rw [cid, Option.map_map]
      exact Option.map_id_apply
    simp only [valid, if_true, mcc, mnc, lac, number, signal, Int.toNat_natCast]

theorem WifiReport.sighting?_eq_some_iff (report : WifiReport) (sighting : WifiSighting) :
    report.sighting? = some sighting ↔ report.Reads sighting := by
  rw [sighting?, Option.map_eq_some_iff]
  constructor
  · rintro ⟨key, read, rfl⟩
    exact ⟨(WifiKey.read?_eq_some_iff _ _).mp read, rfl⟩
  · rintro ⟨spelled, signal⟩
    exact ⟨sighting.key, (WifiKey.read?_eq_some_iff _ _).mpr spelled, by rw [signal]⟩

/-! ### Writing reports -/

theorem Radio.read_name (radio : Radio) : Radio.read radio.name = .ok radio := by
  cases radio <;> decide

def CellSighting.report (sighting : CellSighting) : CellReport where
  radio := sighting.area.radio.name
  mcc := sighting.area.mcc
  mnc := sighting.area.mnc
  lac := sighting.area.lac
  cid := sighting.cid.map Int.ofNat
  signal := sighting.signal

def WifiSighting.report (sighting : WifiSighting) : WifiReport := ⟨sighting.key.text, sighting.signal⟩

/-- The request that reports what a query looks for. -/
def Query.request (query : Query) : Request where
  cells := query.cells.map CellSighting.report
  wifis := query.wifis.map WifiSighting.report
  ip := query.ip.map IpAddress.text
  policy := query.policy

/-- The numbers of the area lie within the ranges of a query. -/
structure CellArea.IsValid (area : CellArea) : Prop where
  mcc : 1 ≤ area.mcc ∧ area.mcc ≤ 999
  mnc : area.mnc ≤ 32767
  lac : 1 ≤ area.lac ∧ area.lac ≤ 65535

/-- The numbers of the observation lie within the ranges of a query. -/
structure CellSighting.IsValid (sighting : CellSighting) : Prop where
  area : sighting.area.IsValid
  cid : ∀ cid ∈ sighting.cid, 1 ≤ cid ∧ cid ≤ 268435455

theorem CellReport.Reads.isValid {report : CellReport} {sighting : CellSighting}
    (reads : report.Reads sighting) : sighting.IsValid := by
  obtain ⟨-, mcc, mnc, lac, ⟨cid, range⟩, -⟩ := reads
  refine ⟨⟨by omega, by omega, by omega⟩, fun number present => ?_⟩
  have within := range number (by rw [cid, present]; rfl)
  omega

theorem CellSighting.IsValid.report_reads {sighting : CellSighting} (valid : sighting.IsValid) :
    sighting.report.Reads sighting := by
  obtain ⟨⟨mcc, mnc, lac⟩, cid⟩ := valid
  refine ⟨Radio.read_name _, ⟨rfl, ?_⟩, ⟨rfl, ?_⟩, ⟨rfl, ?_⟩, ⟨rfl, ?_⟩, rfl⟩
  · simp only [report]
    omega
  · simp only [report]
    omega
  · simp only [report]
    omega
  · intro number member
    obtain ⟨n, present, rfl⟩ := Option.map_eq_some_iff.mp member
    have range := cid n present
    simp only [Int.ofNat_eq_natCast]
    omega

theorem WifiSighting.report_reads (sighting : WifiSighting) : sighting.report.Reads sighting :=
  ⟨sighting.key.spells_text, rfl⟩

/-! ### Queries -/

namespace Query

/-- What a query looks for can be reported, since some report has told it. -/
theorem report_reads_of_mem_cells {request : Request} {sighting : CellSighting}
    (member : sighting ∈ (ofRequest request).cells) : sighting.report.Reads sighting := by
  obtain ⟨report, -, read⟩ := List.mem_filterMap.mp ((distinctBy_sublist _ _).subset member)
  exact ((report.sighting?_eq_some_iff sighting).mp read).isValid.report_reads

theorem ofRequest_request (request : Request) :
    ofRequest (ofRequest request).request = ofRequest request := by
  -- Each observation has a report of its own, and none of these comes too late.
  generalize known : ofRequest request = query
  have cells : (ofRequest query.request).cells = query.cells := by
    subst known
    refine distinctBy_filterMap_of_reads CellReport.sighting?_eq_some_iff ?_ (distinctBy_pairwise _ _)
    rw [Query.request, List.forall₂_map_left_iff, List.forall₂_same]
    exact fun sighting member => report_reads_of_mem_cells member
  have wifis : (ofRequest query.request).wifis = query.wifis := by
    subst known
    refine distinctBy_filterMap_of_reads WifiReport.sighting?_eq_some_iff ?_ (distinctBy_pairwise _ _)
    rw [Query.request, List.forall₂_map_left_iff, List.forall₂_same]
    exact fun sighting _ => sighting.report_reads
  -- The text of an address has no white space to trim and is read as that address.
  have ip : (ofRequest query.request).ip = query.ip := by
    cases address : query.ip with
    | none => simp [ofRequest, Query.request, address]
    | some ip => simp [ofRequest, Query.request, address, IpAddress.trim_text, IpAddress.read?_text]
  calc ofRequest query.request
      = ⟨(ofRequest query.request).cells, (ofRequest query.request).wifis,
          (ofRequest query.request).ip, query.policy⟩ := rfl
    _ = query := by rw [cells, wifis, ip]

/-- The cells and access points of a query are the valid reports, each at its first occurrence and with
the numbers of the report; its areas are the areas of its cells, each at its first occurrence. Further
reports that are invalid or come too late change nothing, and the query of what a query reports is that
query. -/
theorem ofRequest_normal (request : Request) :
    KeepsFirsts CellReport.Reads CellSighting.key request.cells (ofRequest request).cells ∧
      KeepsFirsts WifiReport.Reads WifiSighting.key request.wifis (ofRequest request).wifis ∧
      KeepsFirsts (fun sighting area => sighting.area = area) id (ofRequest request).cells
        (ofRequest request).areas ∧
      (∀ cells wifis,
        Relation.ReflTransGen (Inserts CellReport.Reads CellSighting.key) request.cells cells →
        Relation.ReflTransGen (Inserts WifiReport.Reads WifiSighting.key) request.wifis wifis →
        ofRequest { request with cells := cells, wifis := wifis } = ofRequest request) ∧
      ofRequest (ofRequest request).request = ofRequest request := by
  refine ⟨?_, ?_, ?_, ?_, ofRequest_request request⟩
  · exact keepsFirsts_distinctBy CellReport.sighting?_eq_some_iff request.cells
  · exact keepsFirsts_distinctBy WifiReport.sighting?_eq_some_iff request.wifis
  · rw [areas, ← List.filterMap_eq_map']
    exact keepsFirsts_distinctBy (fun sighting area => Option.some_inj) (ofRequest request).cells
  · intro cells wifis moreCells moreWifis
    simp only [ofRequest]
    rw [distinctBy_filterMap_insertions CellReport.sighting?_eq_some_iff moreCells,
      distinctBy_filterMap_insertions WifiReport.sighting?_eq_some_iff moreWifis]

/-- A cell without a country and a second report of an access point change nothing. -/
theorem ofRequest_insertions :
    ofRequest ⟨[⟨"gsm", 262, 2, 801, some 11, none⟩, ⟨"gsm", 0, 2, 801, some 12, none⟩],
        [⟨"a4:08:f5:1c:33:7e", some (-48)⟩, ⟨"A408F51C337E", some (-70)⟩], none, none⟩
      = ofRequest ⟨[⟨"gsm", 262, 2, 801, some 11, none⟩], [⟨"a4:08:f5:1c:33:7e", some (-48)⟩],
        none, none⟩ := by
  let key : WifiKey := ⟨"a408f51c337e".toList, by decide⟩
  have first : WifiReport.Reads ⟨"a4:08:f5:1c:33:7e", some (-48)⟩ ⟨key, some (-48)⟩ :=
    ⟨by decide, rfl⟩
  have second : WifiReport.Reads ⟨"A408F51C337E", some (-70)⟩ ⟨key, some (-70)⟩ :=
    ⟨by decide, rfl⟩
  refine (ofRequest_normal ⟨[⟨"gsm", 262, 2, 801, some 11, none⟩],
    [⟨"a4:08:f5:1c:33:7e", some (-48)⟩], none, none⟩).2.2.2.1 _ _ (.single ?_) (.single ?_)
  · exact ⟨[_], _, [], rfl, rfl, Or.inl fun sighting reads => absurd reads.mcc.2.1 (by decide)⟩
  · exact ⟨[_], _, [], rfl, rfl, Or.inr ⟨_, List.mem_singleton_self _, _, _, first, second, rfl⟩⟩

end Query

end Geolocation
