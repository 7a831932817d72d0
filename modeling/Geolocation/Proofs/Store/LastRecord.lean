import Geolocation.Proofs.Query.WifiSpelling
import Geolocation.Query.Basic
import Geolocation.Search.Locator
import Mathlib

/-!
# The last record of each key

A store is read from lists of records and answers from maps. What it answers is said here by the lists
alone: for a key it tells the content of the last record that names the key, where an access point may
be spelled in any way. So a record may change places with records of other keys, and a record that names
nothing or is followed by another one with its key may as well be missing.
-/

namespace Geolocation.Store

/-! ### Sections -/

section Sections

variable {ρ κ α : Type} (Names : ρ → κ → Prop) [DecidableRel Names]

/-- The content of the last record that names the key. -/
def last? (records : List (ρ × α)) (key : κ) : Option α :=
  ((records.filter fun record => Names record.1 key).getLast?).map (·.2)

/-- A change of the list of records of one kind. -/
inductive Edit : List (ρ × α) → List (ρ × α) → Prop
  /-- Records with different keys change places; those with one key keep their order. -/
  | reorder {records others : List (ρ × α)} (permuted : records.Perm others)
      (ordered : ∀ key, (records.filter fun record => Names record.1 key)
        = others.filter fun record => Names record.1 key) : Edit records others
  /-- A record that names nothing is removed. -/
  | removeInvalid {before after : List (ρ × α)} {record : ρ × α}
      (invalid : ∀ key, ¬Names record.1 key) :
      Edit (before ++ record :: after) (before ++ after)
  /-- A record is removed whose key a later record names, too. -/
  | removeOverwritten {before after : List (ρ × α)} {record later : ρ × α} {key : κ}
      (named : Names record.1 key) (follows : later ∈ after) (again : Names later.1 key) :
      Edit (before ++ record :: after) (before ++ after)

variable {Names}

theorem last?_cons (record : ρ × α) (rest : List (ρ × α)) (key : κ) :
    last? Names (record :: rest) key
      = (last? Names rest key).or (if Names record.1 key then some record.2 else none) := by
  unfold last?
  split
  next named =>
    rw [List.filter_cons_of_pos (by simpa using named), List.getLast?_cons]
    cases (rest.filter fun record => Names record.1 key).getLast? <;> rfl
  next unnamed =>
    rw [List.filter_cons_of_neg (by simpa using unnamed), Option.or_none]

theorem last?_append (before after : List (ρ × α)) (key : κ) :
    last? Names (before ++ after) key = (last? Names after key).or (last? Names before key) := by
  simp only [last?, List.filter_append, List.getLast?_append]
  cases (after.filter fun record => Names record.1 key).getLast? <;> rfl

theorem last?_isSome_iff (records : List (ρ × α)) (key : κ) :
    (last? Names records key).isSome ↔ ∃ record ∈ records, Names record.1 key := by
  simp [last?]

theorem last?_map {β : Type} (content : α → β) (records : List (ρ × α)) (key : κ) :
    last? Names (records.map fun record => (record.1, content record.2)) key
      = (last? Names records key).map content := by
  simp only [last?, List.filter_map, List.getLast?_map, Option.map_map]
  rfl

/-- A change leaves the last record of every key, if no text names two keys. -/
theorem Edit.last?_eq {records others : List (ρ × α)} (edit : Edit Names records others)
    (one : ∀ text key other, Names text key → Names text other → key = other) (key : κ) :
    last? Names records key = last? Names others key := by
  cases edit with
  | reorder permuted ordered => rw [last?, last?, ordered key]
  | removeInvalid invalid =>
    rw [last?_append, last?_append, last?_cons, if_neg (invalid key), Option.or_none]
  | @removeOverwritten before after record later own named follows again =>
    rw [last?_append, last?_append, last?_cons]
    split
    next here =>
      -- The later record names the same key, so that the removed one is not the last.
      have same : own = key := one record.1 own key named here
      have some := (last?_isSome_iff after key).mpr ⟨later, follows, same ▸ again⟩
      obtain ⟨content, found⟩ := Option.isSome_iff_exists.mp some
      rw [found]
      rfl
    next elsewhere => rw [Option.or_none]

theorem last?_eq_of_edits {records others : List (ρ × α)}
    (edits : Relation.EqvGen (Edit Names) records others)
    (one : ∀ text key other, Names text key → Names text other → key = other) (key : κ) :
    last? Names records key = last? Names others key := by
  induction edits with
  | rel records others edit => exact edit.last?_eq one key
  | refl records => rfl
  | symm records others _ ih => exact ih.symm
  | trans records middle others _ _ first second => exact first.trans second

theorem last?_filterMap [DecidableEq κ] {read? : ρ → Option κ}
    (reads : ∀ text key, read? text = some key ↔ Names text key) (records : List (ρ × α)) (key : κ) :
    last? Eq (records.filterMap fun record => (read? record.1).map (·, record.2)) key
      = last? Names records key := by
  induction records with
  | nil => rfl
  | cons record rest ih =>
    rw [last?_cons, List.filterMap_cons]
    cases read : read? record.1 with
    | none =>
      have unnamed : ¬Names record.1 key := by simp [← reads, read]
      rw [if_neg unnamed, Option.or_none]
      exact ih
    | some own =>
      have named : Names record.1 key ↔ own = key := by simp [← reads, read]
      simp only [Option.map_some, last?_cons, ih, named]

end Sections

/-! ### Maps -/

section Maps

variable {κ α : Type} [DecidableEq κ] [Hashable κ]

theorem getElem?_lastOfEach (records : List (κ × α)) (key : κ) :
    (lastOfEach records)[key]? = last? Eq records key := by
  -- The map that is built upon is read where the records say nothing.
  have from_map (map : Std.HashMap κ α) :
      (records.foldl (fun map record => map.insert record.1 record.2) map)[key]?
        = (last? Eq records key).or map[key]? := by
    induction records generalizing map with
    | nil => rfl
    | cons record rest ih =>
      rw [List.foldl_cons, ih, Std.HashMap.getElem?_insert, last?_cons, Option.or_assoc]
      by_cases named : record.1 = key <;> simp [named]
  simpa [lastOfEach] using from_map ∅

theorem getElem?_lastOfEach_of_edits {records others : List (κ × α)}
    (edits : Relation.EqvGen (Edit Eq) records others) (key : κ) :
    (lastOfEach records)[key]? = (lastOfEach others)[key]? := by
  rw [getElem?_lastOfEach, getElem?_lastOfEach]
  exact last?_eq_of_edits edits (fun text own other first second => first.symm.trans second) key

theorem size_lastOfEach (records : List (κ × α)) :
    (lastOfEach records).size = (records.map (·.1)).toFinset.card := by
  -- The set of the keys grows with the map.
  have from_map (map : Std.HashMap κ α) (keys : Finset κ) (known : ∀ key, key ∈ map ↔ key ∈ keys)
      (size : map.size = keys.card) :
      (records.foldl (fun map record => map.insert record.1 record.2) map).size
        = (keys ∪ (records.map (·.1)).toFinset).card := by
    induction records generalizing map keys with
    | nil => simpa using size
    | cons record rest ih =>
      have inserted := ih (map.insert record.1 record.2) (insert record.1 keys)
        (fun key => by rw [Std.HashMap.mem_insert, Finset.mem_insert, known, beq_iff_eq, eq_comm]) ?_
      · rw [List.foldl_cons, inserted]
        simp
      · rw [Std.HashMap.size_insert, size]
        split
        next old => rw [Finset.card_insert_of_mem ((known _).mp old)]
        next new => rw [Finset.card_insert_of_notMem (fun old => new ((known _).mpr old))]
  simpa [lastOfEach] using from_map ∅ ∅ (by simp) rfl

end Maps

/-! ### Stores -/

/-- Stores answer every question in the same way. -/
structure SameAnswers (left right : Store) : Prop where
  wifis : ∀ keys, left.lookupWifis keys = right.lookupWifis keys
  cells : ∀ cells, left.lookupCells cells = right.lookupCells cells
  areas : ∀ areas, left.lookupAreas areas = right.lookupAreas areas
  address : ∀ address, left.lookupAddress address = right.lookupAddress address
  size : left.size = right.size

/-- The records that a JSON text writes. -/
def Records.read? (text : String) : Option Records := (Json.read? text).bind Records.ofDocument?

/-- The lists of records differ by changes that no answer shows. -/
structure Records.Edited (left right : Records) : Prop where
  wifis : Relation.EqvGen (Edit WifiKey.Spells) left.wifis right.wifis
  cells : Relation.EqvGen (Edit Eq) left.cells right.cells
  areas : Relation.EqvGen (Edit Eq) left.areas right.areas
  addresses : Relation.EqvGen (Edit Eq) left.addresses right.addresses

theorem wifis_ofRecords (records : Records) (key : WifiKey) :
    (ofRecords records).wifis[key]? = last? WifiKey.Spells records.wifis key :=
  (getElem?_lastOfEach _ key).trans (last?_filterMap WifiKey.read?_eq_some_iff records.wifis key)

theorem cells_ofRecords (records : Records) (cell : Cell) :
    (ofRecords records).cells[cell]? = last? Eq records.cells cell :=
  getElem?_lastOfEach records.cells cell

theorem areas_ofRecords (records : Records) (area : CellArea) :
    (ofRecords records).areas[area]? = last? Eq records.areas area :=
  getElem?_lastOfEach records.areas area

theorem addresses_ofRecords (records : Records) (address : IpAddress) :
    (ofRecords records).addresses[address]? = last? Eq records.addresses address :=
  getElem?_lastOfEach records.addresses address

/-- The answers of a store by the lists of its records alone. -/
def Records.backends (records : Records) : Backends where
  wifis keys := .now (.ok (keys.filterMap fun key =>
    (last? WifiKey.Spells records.wifis key).map (Spot.network key.text)))
  cells cells := .now (.ok (cells.filterMap fun cell =>
    (last? Eq records.cells cell).map (Spot.network cell.text)))
  areas areas := .now (.ok (areas.filterMap fun area =>
    (last? Eq records.areas area).map (Spot.network area.text)))
  address ip := .now (.ok (last? Eq records.addresses ip))
  service := none

theorem backends_ofRecords (records : Records) : (ofRecords records).backends = records.backends := by
  simp only [backends, Records.backends, lookupWifis, lookupCells, lookupAreas, lookupAddress,
    wifis_ofRecords, cells_ofRecords, areas_ofRecords, addresses_ofRecords]

theorem size_ofRecords (records : Records) : (ofRecords records).size
    = (records.wifis.filterMap fun record => WifiKey.read? record.1).toFinset.card
      + (records.cells.map (·.1)).toFinset.card + (records.areas.map (·.1)).toFinset.card := by
  simp [size, ofRecords, size_lastOfEach, List.map_filterMap, Function.comp_def]

theorem Records.Edited.sameAnswers {left right : Records} (edited : left.Edited right) :
    (ofRecords left).SameAnswers (ofRecords right) := by
  have wifis (key : WifiKey) : (ofRecords left).wifis[key]? = (ofRecords right).wifis[key]? := by
    rw [wifis_ofRecords, wifis_ofRecords]
    refine last?_eq_of_edits edited.wifis ?_ key
    exact fun text own other first second => WifiKey.ext (first.symm.trans second)
  have cells (cell : Cell) : (ofRecords left).cells[cell]? = (ofRecords right).cells[cell]? :=
    getElem?_lastOfEach_of_edits edited.cells cell
  have areas (area : CellArea) : (ofRecords left).areas[area]? = (ofRecords right).areas[area]? :=
    getElem?_lastOfEach_of_edits edited.areas area
  have address (ip : IpAddress) :
      (ofRecords left).addresses[ip]? = (ofRecords right).addresses[ip]? :=
    getElem?_lastOfEach_of_edits edited.addresses ip
  refine ⟨?_, ?_, ?_, address, ?_⟩
  · simp [lookupWifis, wifis]
  · simp [lookupCells, cells]
  · simp [lookupAreas, areas]
  · -- Maps that agree on every key have the same number of keys.
    rw [size, size, (Std.HashMap.Equiv.of_forall_getElem?_eq wifis).size_eq,
      (Std.HashMap.Equiv.of_forall_getElem?_eq cells).size_eq,
      (Std.HashMap.Equiv.of_forall_getElem?_eq areas).size_eq]

theorem mem_wifiKeys {request : Request} {report : WifiReport} {key : WifiKey}
    (member : report ∈ request.wifis) (spelled : WifiKey.Spells report.key key) :
    key ∈ (Query.ofRequest request).wifiKeys := by
  have read : report.sighting? = some ⟨key, report.signal⟩ := by
    rw [WifiReport.sighting?, (WifiKey.read?_eq_some_iff _ _).mpr spelled, Option.map_some]
  -- If the report comes too late, an earlier one with the same key is kept.
  obtain ⟨kept, present, same⟩ :=
    exists_mem_distinctBy WifiSighting.key (List.mem_filterMap.mpr ⟨report, member, read⟩)
  exact List.mem_map.mpr ⟨kept, present, same⟩

/-- An access point is found exactly if there is a record of it. -/
theorem found_iff (records : Records) {keys : List WifiKey} {key : WifiKey} (asked : key ∈ keys) :
    (∃ network ∈ (ofRecords records).lookupWifis keys, network.key = key.text) ↔
      ∃ record ∈ records.wifis, WifiKey.Spells record.1 key := by
  rw [← last?_isSome_iff, ← wifis_ofRecords, Option.isSome_iff_exists]
  constructor
  · rintro ⟨network, found, named⟩
    obtain ⟨other, -, answer⟩ := List.mem_filterMap.mp found
    obtain ⟨spot, known, rfl⟩ := Option.map_eq_some_iff.mp answer
    obtain rfl : other = key := WifiKey.eq_of_text named
    exact ⟨spot, known⟩
  · rintro ⟨spot, known⟩
    refine ⟨spot.network key.text, List.mem_filterMap.mpr ⟨key, asked, ?_⟩, rfl⟩
    rw [known, Option.map_some]

/-- A store whose text can be read answers with the last record of each key: in the order of the
question, without what is unknown, and under the name that was asked for. Its size is the number of
distinct keys. An access point of a request is found exactly if the text has a record of it, however
both are spelled, and no answer shows the changes of `Edit`. -/
theorem last_record_wins {text : String} {records : Records}
    (written : Records.read? text = some records) :
    ∃ store, read? text = some store ∧
      (∀ keys, store.lookupWifis keys = keys.filterMap fun key =>
        (last? WifiKey.Spells records.wifis key).map (Spot.network key.text)) ∧
      (∀ cells, store.lookupCells cells = cells.filterMap fun cell =>
        (last? Eq records.cells cell).map (Spot.network cell.text)) ∧
      (∀ areas, store.lookupAreas areas = areas.filterMap fun area =>
        (last? Eq records.areas area).map (Spot.network area.text)) ∧
      (∀ address, store.lookupAddress address = last? Eq records.addresses address) ∧
      store.size = (records.wifis.filterMap fun record => WifiKey.read? record.1).toFinset.card
        + (records.cells.map (·.1)).toFinset.card + (records.areas.map (·.1)).toFinset.card ∧
      (∀ (request : Request), ∀ report ∈ request.wifis, ∀ key : WifiKey, WifiKey.Spells report.key key →
        ((∃ network ∈ store.lookupWifis (Query.ofRequest request).wifiKeys, network.key = key.text) ↔
          ∃ record ∈ records.wifis, WifiKey.Spells record.1 key)) ∧
      ∀ otherText others, Records.read? otherText = some others → records.Edited others →
        ∃ other, read? otherText = some other ∧ store.SameAnswers other := by
  have built (text : String) : read? text = (Records.read? text).map ofRecords := rfl
  refine ⟨ofRecords records, by rw [built, written, Option.map_some], ?_, ?_, ?_, ?_,
    size_ofRecords records, ?_, ?_⟩
  · intro keys
    simp only [lookupWifis, wifis_ofRecords]
  · intro cells
    simp only [lookupCells, cells_ofRecords]
  · intro areas
    simp only [lookupAreas, areas_ofRecords]
  · exact addresses_ofRecords records
  · intro request report member key spelled
    exact found_iff records (mem_wifiKeys member spelled)
  · intro otherText others writtenToo edited
    exact ⟨ofRecords others, by rw [built, writtenToo, Option.map_some], edited.sameAnswers⟩

/-- Of two records of one access point, spelled differently and written as lists, the later one counts. -/
theorem last_of_two_spellings :
    ∃ store, read? "\x7b\"wifi\":[[\"A4-08-F5-1C-33-7E\",52,13],[\"a408f51c337e\",48,2]]\x7d" = some store ∧
      store.lookupWifis [⟨"a408f51c337e".toList, by decide⟩]
        = [⟨"a408f51c337e", ⟨Float.ofInt 48, Float.ofInt 2⟩, none⟩] ∧
      store.size = 1 := by
  have document : Json.read? "\x7b\"wifi\":[[\"A4-08-F5-1C-33-7E\",52,13],[\"a408f51c337e\",48,2]]\x7d"
      = some (.table [("wifi", .list [.list [.text "A4-08-F5-1C-33-7E", .int 52, .int 13],
          .list [.text "a408f51c337e", .int 48, .int 2]])]) := by
    cbv
  have written :
      Records.read? "\x7b\"wifi\":[[\"A4-08-F5-1C-33-7E\",52,13],[\"a408f51c337e\",48,2]]\x7d"
        = some ⟨[("A4-08-F5-1C-33-7E", ⟨⟨Float.ofInt 52, Float.ofInt 13⟩, none⟩),
            ("a408f51c337e", ⟨⟨Float.ofInt 48, Float.ofInt 2⟩, none⟩)], [], [], []⟩ := by
    rw [Records.read?, document]
    rfl
  obtain ⟨store, read, wifis, -, -, -, size, -⟩ := last_record_wins written
  refine ⟨store, read, ?_, ?_⟩
  · rw [wifis]
    rfl
  · let key : WifiKey := ⟨"a408f51c337e".toList, by decide⟩
    have first : WifiKey.read? "A4-08-F5-1C-33-7E" = some key :=
      (WifiKey.read?_eq_some_iff _ key).mpr (by decide)
    have second : WifiKey.read? "a408f51c337e" = some key :=
      (WifiKey.read?_eq_some_iff _ key).mpr (by decide)
    rw [size]
    simp [first, second]

end Geolocation.Store
