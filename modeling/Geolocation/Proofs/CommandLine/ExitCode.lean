import Geolocation.Proofs.CommandLine.World
import Geolocation.Proofs.Json.Documents
import Geolocation.Proofs.Store.LastRecord

/-!
# What the program fails on

For words that are understood, the program fails only if a file cannot be loaded that is named or lies
at the default path of the store. Whatever the search comes to is printed as one JSON document. Of the
paths in the settings those that the words override are not read, and nothing but these paths decides
about the exit code.

Main result: `CommandLine.run_of_accepted`.
-/

namespace Geolocation

/-! ### Locations in print -/

/-- The text is one JSON document, with the fields of the location. -/
def Location.IsWrittenAs (location : Location) (text : String) : Prop :=
  ∃ fields read, location.toJson = .object fields ∧ Json.read? text = some (.table read) ∧
    List.Forall₂ Json.FieldReadsAs fields read

theorem Json.isPlain_ofString? (text : Option String) : (Json.ofString? text).IsPlain := by
  cases text <;> exact trivial

theorem Location.toJson_plain (location : Location) :
    ∃ fields, location.toJson = .object fields ∧ fields ≠ [] ∧
      ∀ field ∈ fields, field.2.IsPlain := by
  cases location with
  | empty searched => exact ⟨_, rfl, nofun, by simp [Json.IsPlain]⟩
  | position p =>
    have flag := Json.isPlain_ofString? p.provenance.flag
    refine ⟨[("type", .string "position"), ("lat", .float p.place.lat), ("lon", .float p.place.lon),
      ("accuracy", .float p.accuracy), ("source", .string p.provenance.source.name),
      ("fallback", Json.ofString? p.provenance.flag)], rfl, nofun, ?_⟩
    simp only [List.forall_mem_cons]
    exact ⟨trivial, trivial, trivial, trivial, trivial, flag, nofun⟩
  | country c =>
    have flag := Json.isPlain_ofString? c.provenance.flag
    refine ⟨[("type", .string "country"), ("country_code", .string c.code),
      ("country_name", .string c.name), ("source", .string c.provenance.source.name),
      ("fallback", Json.ofString? c.provenance.flag)], rfl, nofun, ?_⟩
    simp only [List.forall_mem_cons]
    exact ⟨trivial, trivial, trivial, trivial, flag, nofun⟩

theorem Location.isWrittenAs_pretty (location : Location) :
    location.IsWrittenAs (location.toJson.pretty ++ "\n") := by
  obtain ⟨fields, json, some, plain⟩ := location.toJson_plain
  obtain ⟨read, same, text⟩ := Json.read?_pretty some plain
  rw [← json] at text
  exact ⟨fields, read, json, text, same⟩

namespace CommandLine

/-! ### Files that can be loaded -/

variable {world : World} {arguments : Arguments}

/-- The file at the path is text in UTF-8. -/
def World.HasText (world : World) (path text : String) : Prop :=
  ∃ bytes, world.files path = .content bytes ∧ String.fromUTF8? bytes = some text

inductive LoadsSettings (world : World) : Option String → Settings → Prop where
  | unnamed : LoadsSettings world none {}
  | named {path text : String} {settings : Settings} (hasText : world.HasText path text)
      (parsed : Settings.read? text = some settings) : LoadsSettings world (some path) settings

/-- The store at a path, or at the default path, where nothing need be. -/
inductive LoadsStore (world : World) : Option String → Store → Prop where
  | missing (nothing : world.files world.defaultStore = .missing) : LoadsStore world none .empty
  | unnamed {text : String} {store : Store} (hasText : world.HasText world.defaultStore text)
      (parsed : Store.read? text = some store) : LoadsStore world none store
  | named {path text : String} {store : Store} (hasText : world.HasText path text)
      (parsed : Store.read? text = some store) : LoadsStore world (some path) store

inductive LoadsAddresses (world : World) (store : Store) :
    Option String → (IpAddress → Reply (Option AddressRecord)) → Prop where
  | unnamed : LoadsAddresses world store none store.backends.address
  | named {path : String} {bytes : ByteArray} {db : MaxMind.Database}
      (content : world.files path = .content bytes) (opened : MaxMind.Database.open? bytes = some db) :
      LoadsAddresses world store (some path) fun address => .now (db.lookup address)

/-- Everything that the arguments need can be loaded, and makes this locator. -/
structure Loads (world : World) (arguments : Arguments) (locator : Locator) : Prop where
  settings : LoadsSettings world arguments.config locator.settings
  backends : ∃ store address,
    LoadsStore world (arguments.networks <|> locator.settings.files.networks) store ∧
      LoadsAddresses world store (arguments.addresses <|> locator.settings.files.addresses) address ∧
      locator.backends =
        { store.backends with
          address
          service := locator.settings.service.url.map (Provider.overHttp world.network) }

theorem bind_text?_eq_some_iff {α : Type} {path : String} {parse : String → Option α} {value : α} :
    (world.files path).text?.bind parse = some value ↔
      ∃ text, world.HasText path text ∧ parse text = some value := by
  rw [Option.bind_eq_some_iff]
  unfold World.HasText
  cases world.files path <;> simp [FileState.text?, FileState.bytes?]

theorem settingsAt_eq_some_iff {path : Option String} {settings : Settings} :
    world.settingsAt path = some settings ↔ LoadsSettings world path settings := by
  cases path with
  | none =>
    constructor
    · rintro ⟨⟩
      exact .unnamed
    · rintro ⟨⟩
      rfl
  | some path =>
    rw [World.settingsAt, bind_text?_eq_some_iff]
    constructor
    · rintro ⟨text, hasText, parsed⟩
      exact .named hasText parsed
    · rintro (_ | ⟨hasText, parsed⟩)
      exact ⟨_, hasText, parsed⟩

theorem storeAt_eq_some_iff {path : Option String} {store : Store} :
    world.storeAt path = some store ↔ LoadsStore world path store := by
  cases path with
  | some path =>
    rw [World.storeAt, bind_text?_eq_some_iff]
    constructor
    · rintro ⟨text, hasText, parsed⟩
      exact .named hasText parsed
    · rintro (_ | _ | ⟨hasText, parsed⟩)
      exact ⟨_, hasText, parsed⟩
  | none =>
    -- At the default path it makes a difference whether there is anything at all.
    cases nothing : world.files world.defaultStore with
    | missing =>
      have empty : world.storeAt none = some .empty := by simp only [World.storeAt, nothing]
      rw [empty]
      constructor
      · rintro ⟨⟩
        exact .missing nothing
      · rintro (_ | ⟨⟨bytes, content, _⟩, _⟩)
        · rfl
        · cases nothing.symm.trans content
    | _ =>
      have there : world.storeAt none =
          (world.files world.defaultStore).text?.bind Store.read? := by
        simp only [World.storeAt, nothing]
      rw [there, bind_text?_eq_some_iff]
      constructor
      · rintro ⟨text, hasText, parsed⟩
        exact .unnamed hasText parsed
      · rintro (missing | ⟨hasText, parsed⟩)
        · cases nothing.symm.trans missing
        · exact ⟨_, hasText, parsed⟩

theorem addressesAt_eq_some_iff {store : Store} {path : Option String}
    {address : IpAddress → Reply (Option AddressRecord)} :
    world.addressesAt store path = some address ↔ LoadsAddresses world store path address := by
  cases path with
  | none =>
    constructor
    · rintro ⟨⟩
      exact .unnamed
    · rintro ⟨⟩
      rfl
  | some path =>
    rw [World.addressesAt, Option.map_eq_some_iff]
    constructor
    · rintro ⟨db, opened, rfl⟩
      obtain ⟨bytes, content, opened⟩ := Option.bind_eq_some_iff.mp opened
      cases known : world.files path with
      | content other =>
        rw [known] at content
        cases content
        exact .named known opened
      | _ =>
        rw [known] at content
        cases content
    · rintro (_ | ⟨content, opened⟩)
      exact ⟨_, by simp [content, FileState.bytes?, opened], rfl⟩

/-! ### Loading in order -/

/-- The locator for the arguments. -/
def World.locatorAt (world : World) (arguments : Arguments) : Option Locator := do
  let settings ← world.settingsAt arguments.config
  let store ← world.storeAt (arguments.networks <|> settings.files.networks)
  let address ← world.addressesAt store (arguments.addresses <|> settings.files.addresses)
  return ⟨settings,
    { store.backends with
      address
      service := settings.service.url.map (Provider.overHttp world.network) }⟩

theorem locatorAt_eq_some_iff {locator : Locator} :
    world.locatorAt arguments = some locator ↔ Loads world arguments locator := by
  simp only [World.locatorAt, bind, Option.bind_eq_some_iff, settingsAt_eq_some_iff,
    storeAt_eq_some_iff, addressesAt_eq_some_iff]
  constructor
  · rintro ⟨settings, loaded, store, stored, address, opened, made⟩
    cases made
    exact ⟨loaded, store, address, stored, opened, rfl⟩
  · rintro ⟨loaded, store, address, stored, opened, backends⟩
    exact ⟨_, loaded, store, stored, address, opened, by rw [← backends]; rfl⟩

/-- The paths that count with these settings. A path in the settings counts if the arguments name no
other one. -/
def pathsFor (world : World) (arguments : Arguments) (settings : Settings) : List String :=
  arguments.config.toList ++
    ((arguments.networks <|> settings.files.networks).getD world.defaultStore ::
      (arguments.addresses <|> settings.files.addresses).toList)

/-- The paths that count are read in order, up to one that cannot be loaded. Without settings it is not
known which ones count, and none but their path is read. -/
def ReadsInOrder (world : World) (arguments : Arguments) (paths : List String) : Prop :=
  (∀ settings, LoadsSettings world arguments.config settings →
    paths <+: pathsFor world arguments settings) ∧
  ((¬ ∃ settings, LoadsSettings world arguments.config settings) → paths = arguments.config.toList)

theorem readsInOrder_of_loads {settings : Settings} {paths : List String}
    (loads : LoadsSettings world arguments.config settings)
    (reads : paths <+: pathsFor world arguments settings) :
    ReadsInOrder world arguments paths := by
  refine ⟨fun other loaded => ?_, fun none => absurd ⟨settings, loads⟩ none⟩
  have same : some settings = some other :=
    (settingsAt_eq_some_iff.mpr loads).symm.trans (settingsAt_eq_some_iff.mpr loaded)
  cases same
  exact reads

theorem does_loadLocator (world : World) (arguments : Arguments) :
    ∃ paths : List String, ReadsInOrder world arguments paths ∧
      Does (loadLocator world.around arguments) (world.locatorAt arguments) (paths.map .read) := by
  have first := world.does_loadSettings arguments
  -- Loading ends with the first file that fails, and then nothing more is read.
  cases loaded : world.settingsAt arguments.config with
  | none =>
    have nothing : world.locatorAt arguments = none := by simp [World.locatorAt, loaded]
    rw [loaded] at first
    rw [nothing]
    refine ⟨arguments.config.toList, ⟨?_, fun _ => rfl⟩, ?_⟩
    · intro settings loads
      cases loaded.symm.trans (settingsAt_eq_some_iff.mpr loads)
    · exact first.last rfl
  | some settings =>
    rw [loaded] at first
    have loads := settingsAt_eq_some_iff.mp loaded
    have second := world.does_loadStore (arguments.networks <|> settings.files.networks)
    cases stored : world.storeAt (arguments.networks <|> settings.files.networks) with
    | none =>
      have nothing : world.locatorAt arguments = none := by
        simp only [World.locatorAt, loaded, stored, bind, Option.bind]
      rw [stored] at second
      rw [nothing]
      refine ⟨arguments.config.toList ++
        [(arguments.networks <|> settings.files.networks).getD world.defaultStore],
        readsInOrder_of_loads loads ?_, ?_⟩
      · exact ⟨(arguments.addresses <|> settings.files.addresses).toList, by simp [pathsFor]⟩
      · rw [List.map_append]
        apply first.bind
        exact second.last rfl
    | some store =>
      rw [stored] at second
      have third := world.does_loadAddresses (arguments.addresses <|> settings.files.addresses) store
      -- From here on all paths have been read, whether or not the last file can be opened.
      refine ⟨_, readsInOrder_of_loads loads (List.prefix_refl _), ?_⟩
      rw [pathsFor, List.map_append, List.map_cons, ← List.singleton_append]
      cases opened : world.addressesAt store (arguments.addresses <|> settings.files.addresses) with
      | none =>
        have nothing : world.locatorAt arguments = none := by
          simp only [World.locatorAt, loaded, stored, opened, bind, Option.bind]
        rw [opened] at third
        rw [nothing]
        apply first.bind
        apply second.bind
        exact third.last rfl
      | some address =>
        have made : world.locatorAt arguments = some ⟨settings, { store.backends with
            address
            service := settings.service.url.map (Provider.overHttp world.network) }⟩ := by
          simp only [World.locatorAt, loaded, stored, opened, bind, Option.bind]
          rfl
        rw [opened] at third
        rw [made]
        apply first.bind
        apply second.bind
        exact third.last rfl

/-! ### Running -/

def Event.path? : Event → Option String
  | .read path => some path
  | .sent _ => none

/-- The report if everything can be loaded, or that something could not be loaded. -/
def reportOf (arguments : Arguments) : Option Locator → Report
  | none => ⟨1, "", none⟩
  | some locator => .ofLocation (locate arguments locator).location

variable {words : List String}

/-- The report hangs on what is loaded, and files are read only to load it. -/
theorem run_eq (world : World) (accepted : Arguments.read words = .ok arguments) :
    (world.run words).1 = reportOf arguments (world.locatorAt arguments) ∧
      ReadsInOrder world arguments ((world.run words).2.filterMap Event.path?) := by
  obtain ⟨paths, inOrder, loads⟩ := does_loadLocator world arguments
  have read : (paths.map Event.read).filterMap Event.path? = paths := by
    simp [List.filterMap_map, Function.comp_def, Event.path?]
  cases loaded : world.locatorAt arguments with
  | none =>
    rw [loaded] at loads
    have does : Does (run world.around words) (reportOf arguments none) (paths.map .read) := by
      simp only [run, accepted]
      exact loads.last rfl
    rw [World.run, does, List.nil_append, read]
    exact ⟨rfl, inOrder⟩
  | some locator =>
    rw [loaded] at loads
    obtain ⟨lines, sends⟩ := world.does_sendCounters locator.settings.statsd
      (locate arguments locator).metrics
    have does : Does (run world.around words) (reportOf arguments (some locator))
        (paths.map .read ++ lines.map .sent) := by
      simp only [run, accepted]
      apply loads.bind
      exact sends.last rfl
    -- Sending lines reads no file.
    have unread : (lines.map Event.sent).filterMap Event.path? = [] := by
      simp [List.filterMap_map, Function.comp_def, Event.path?]
    rw [World.run, does, List.nil_append, List.filterMap_append, read, unread, List.append_nil]
    exact ⟨rfl, inOrder⟩

theorem code_reportOf (arguments : Arguments) (loaded : Option Locator) :
    (reportOf arguments loaded).code = if loaded.isSome then 0 else 1 := by
  cases loaded <;> rfl

/-- Whether everything can be loaded hangs on the files and the paths alone. -/
theorem isSome_locatorAt {other : World} {others : Arguments} (files : other.files = world.files)
    (store : other.defaultStore = world.defaultStore) (config : others.config = arguments.config)
    (networks : others.networks = arguments.networks)
    (addresses : others.addresses = arguments.addresses) :
    (other.locatorAt others).isSome = (world.locatorAt arguments).isSome := by
  have settingsAt : other.settingsAt = world.settingsAt := by
    funext path
    cases path <;> simp [World.settingsAt, files]
  have storeAt : other.storeAt = world.storeAt := by
    funext path
    cases path <;> simp [World.storeAt, files, store]
  have addressesAt : other.addressesAt = world.addressesAt := by
    funext store path
    cases path <;> simp [World.addressesAt, files]
  simp only [World.locatorAt, bind, Option.isSome_bind, settingsAt, storeAt, addressesAt, config,
    networks, addresses]
  rfl

/-- For words that are understood, the program succeeds if and only if everything that it needs can be
loaded, and then it prints what is located for the caller, of the kind and by the evidence in the words. -/
theorem run_of_accepted (world : World) (words : List String) (arguments : Arguments)
    (accepted : Arguments.read words = .ok arguments) :
    let report := (world.run words).1
    (report.code = 0 ↔ ∃ locator, Loads world arguments locator) ∧
    (∀ locator, Loads world arguments locator →
      let caller : Caller :=
        ⟨arguments.caller.getD "cli", .logged ∈ arguments.switches, .askService ∈ arguments.switches⟩
      let wanted : Yield := if .country ∈ arguments.switches then .country else .position
      let policy : Option Json :=
        if arguments.flags.isEmpty then none
        else some (Json.ofFields (arguments.flags.map fun (name, value) => (name, .bool value)))
      let request : Request :=
        ⟨arguments.cells, arguments.wifis.map fun key => ⟨key, none⟩, arguments.ip, policy⟩
      let location := (locator.locate caller wanted (.ofRequest request)).location
      report.code = 0 ∧ report.output = location.toJson.pretty ++ "\n" ∧
        location.IsWrittenAs report.output) ∧
    ((¬ ∃ locator, Loads world arguments locator) → report.code = 1 ∧ report.output = "") ∧
    ReadsInOrder world arguments ((world.run words).2.filterMap Event.path?) ∧
    ∀ (other : World) (otherWords : List String) (others : Arguments),
      other.files = world.files → other.defaultStore = world.defaultStore →
      Arguments.read otherWords = .ok others → others.config = arguments.config →
      others.networks = arguments.networks → others.addresses = arguments.addresses →
      (other.run otherWords).1.code = report.code := by
  intro report
  obtain ⟨made, inOrder⟩ := run_eq world accepted
  have reported : report = reportOf arguments (world.locatorAt arguments) := made
  have loads : (∃ locator, Loads world arguments locator) ↔
      (world.locatorAt arguments).isSome = true := by
    simp only [Option.isSome_iff_exists, locatorAt_eq_some_iff]
  refine ⟨?_, ?_, ?_, inOrder, ?_⟩
  · rw [loads, reported, code_reportOf]
    cases (world.locatorAt arguments).isSome <;> simp
  · intro locator loaded caller wanted policy request location
    rw [reported, locatorAt_eq_some_iff.mpr loaded]
    exact ⟨rfl, rfl, location.isWrittenAs_pretty⟩
  · intro unloaded
    have nothing : world.locatorAt arguments = none := by
      rw [loads, Option.not_isSome_iff_eq_none] at unloaded
      exact unloaded
    rw [reported, nothing]
    exact ⟨rfl, rfl⟩
  · intro other otherWords others files store alike config networks addresses
    rw [(run_eq other alike).1, reported, code_reportOf, code_reportOf,
      isSome_locatorAt files store config networks addresses]

/-- A store of one cell area and one address. -/
def smallStore : String :=
  "\x7b\"cell_area\":[" ++
    "\x7b\"radio\":\"gsm\",\"mcc\":262,\"mnc\":1,\"lac\":5,\"lat\":50,\"lon\":8,\"range\":25000\x7d]," ++
  "\"geoip\":[\x7b\"ip\":\"81.2.69.160\",\"country_code\":\"GB\"\x7d]\x7d"

/-- What is printed is the position of the area or the country of the address, whichever is wanted, and
nothing if a database is named that is missing. -/
theorem run_with_small_store :
    let world : World :=
      ⟨fun path => if path = "n.json" then .content smallStore.toUTF8 else .missing, "networks.json",
        fun _ => (.missing, 0), fun _ => none⟩
    let position := (world.run ["--store", "n.json", "--cell", "GSM:262:1:5"]).1
    let country := (world.run ["--store", "n.json", "--ip", "81.2.69.160", "--country"]).1
    let failed := (world.run ["--store", "n.json", "--geoip", "gone.mmdb"]).1
    (position.code = 0 ∧ position.output =
      "\x7b\n  \"type\": \"position\",\n  \"lat\": 50.0,\n  \"lon\": 8.0,\n  \"accuracy\": 25000.0,\n" ++
        "  \"source\": \"internal\",\n  \"fallback\": \"lacf\"\n\x7d\n") ∧
    (country.code = 0 ∧ country.output =
      "\x7b\n  \"type\": \"country\",\n  \"country_code\": \"GB\",\n  \"country_name\": \"GB\",\n" ++
        "  \"source\": \"internal\",\n  \"fallback\": \"ipf\"\n\x7d\n") ∧
    failed.code = 1 ∧ failed.output = "" := by
  intro world position country failed
  have hasText : world.HasText "n.json" smallStore :=
    ⟨_, rfl, by simpa [String.fromUTF8?] using ⟨String.isValidUTF8 _, rfl⟩⟩
  have document : Json.read? smallStore = some (.table [
      ("cell_area", .list [.table [("radio", .text "gsm"), ("mcc", .int 262), ("mnc", .int 1),
        ("lac", .int 5), ("lat", .int 50), ("lon", .int 8), ("range", .int 25000)]]),
      ("geoip", .list [.table [("ip", .text "81.2.69.160"), ("country_code", .text "GB")]])]) := by
    cbv
  let records : Store.Records := ⟨[], [],
    [(⟨.gsm, 262, 1, 5⟩, ⟨⟨Float.ofInt 50, Float.ofInt 8⟩, some (Float.ofInt 25000)⟩)],
    [(.v4 0x510245a0, ⟨none, none, none, some "GB", none⟩)]⟩
  have parsed : Store.read? smallStore = some (.ofRecords records) := by
    rw [Store.read?, document]
    rfl
  -- A look-up in a map goes through hashes, which no proof evaluates; one in lists of records does not.
  have loads (arguments : Arguments) (config : arguments.config = none)
      (networks : arguments.networks = some "n.json") (addresses : arguments.addresses = none) :
      Loads world arguments ⟨{}, records.backends⟩ := by
    refine ⟨?_, .ofRecords records, (Store.ofRecords records).backends.address, ?_, ?_, ?_⟩
    · rw [config]
      exact .unnamed
    · rw [networks]
      exact .named hasText parsed
    · rw [addresses]
      exact .unnamed
    · rw [Store.backends_ofRecords]
      rfl
  refine ⟨?position, ?country, ?failed⟩
  case position =>
    obtain ⟨-, prints, -⟩ := run_of_accepted world ["--store", "n.json", "--cell", "GSM:262:1:5"]
      { networks := some "n.json", cells := [⟨"GSM", 262, 1, 5, none, none⟩] } rfl
    obtain ⟨code, output, -⟩ := prints _ (loads _ rfl rfl rfl)
    refine ⟨code, output.trans ?_⟩
    decide +kernel
  case country =>
    obtain ⟨-, prints, -⟩ := run_of_accepted world
      ["--store", "n.json", "--ip", "81.2.69.160", "--country"]
      { networks := some "n.json", ip := some "81.2.69.160", switches := [.country] } rfl
    obtain ⟨code, output, -⟩ := prints _ (loads _ rfl rfl rfl)
    refine ⟨code, output.trans ?_⟩
    decide +kernel
  case failed =>
    obtain ⟨-, -, fails, -⟩ := run_of_accepted world ["--store", "n.json", "--geoip", "gone.mmdb"]
      { networks := some "n.json", addresses := some "gone.mmdb" } rfl
    apply fails
    rintro ⟨locator, _, _, _, _, addresses, _⟩
    cases addresses with
    | named content => cases content

end CommandLine

end Geolocation
