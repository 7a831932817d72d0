import Geolocation.CommandLine.Arguments
import Geolocation.MaxMind.Database
import Geolocation.Search.Locator
import Geolocation.Telemetry

/-!
# The program

Locates once and prints the location. Only the words and the files decide whether it fails: words that
are not understood, and files that are named and cannot be loaded. The store has a default path, at which
there need be no file. Files that are not needed are not read. Counters are sent on the side, and nothing
hangs on their arrival.

The program runs in any monad that can read files and send lines, so that it can be run in a pretended
world as well.
-/

namespace Geolocation.CommandLine

/-- What is found at a path. -/
inductive FileState where
  | missing
  /-- There is something that cannot be read, such as a directory. -/
  | unreadable
  | content (bytes : ByteArray)

namespace FileState

def bytes? : FileState → Option ByteArray
  | .content bytes => some bytes
  | _ => none

def text? (file : FileState) : Option String := file.bytes?.bind String.fromUTF8?

end FileState

/-- The world outside of the program. -/
structure Surroundings (m : Type → Type) where
  read : String → m FileState
  /-- The path of the store that is used if no other one is named. -/
  defaultStore : String
  /-- What comes back for a call over HTTP, and after how many milliseconds. -/
  network : HttpPost → HttpResponse × Nat
  /-- The way to a statsd server, if there is one. A line that is sent may get lost. -/
  statsd : Settings.Statsd → Option (String → m Bool) := fun _ => none

/-- What the program leaves behind. -/
structure Report where
  code : Nat
  output : String
  /-- What is said about a value that is refused. -/
  message : Option String
  deriving DecidableEq, Repr

/-! ### Fixed texts -/

def versionText : String := "locus 0.3.0\n"

def helpText : String :=
  "\n".intercalate
    ["Locus: locate a device from the networks it can see",
      "",
      "Usage: locus [OPTIONS]",
      "",
      "Options:",
      "  -c, --config <CONFIG>      TOML settings file",
      "      --store <STORE>        JSON network record store. Overrides [store] path",
      "      --geoip <GEOIP>        MaxMind City database. Overrides [store] geoip_path",
      "  -w, --wifi <WIFI>          Observed WiFi access point (MAC address). Repeatable",
      "      --cell <CELL>          Observed cell as radio:mcc:mnc:lac[:cid]. Repeatable",
      "      --ip <IP>              Client IP address",
      "      --fallback <FALLBACK>  Fallback policy flag as name=bool (e.g. ipf=false). Repeatable",
      "      --api-key <API_KEY>    Caller name used for per-caller counters [default: cli]",
      "      --log-stats            Emit per-caller counters",
      "      --allow-fallback       Allow the external fallback service",
      "      --country              Resolve the country instead of a position",
      "  -h, --help                 Print help",
      "  -V, --version              Print version",
      ""]

/-! ### Loading -/

section

variable {m : Type → Type} [Monad m]

/-- The settings for the arguments; none if their file cannot be loaded. -/
def loadSettings (around : Surroundings m) (arguments : Arguments) : m (Option Settings) :=
  match arguments.config with
  | none => return some {}
  | some path => return (← around.read path).text?.bind Settings.read?

/-- The paths of the stores, of which the arguments count before the settings. -/
def filesFor (arguments : Arguments) (settings : Settings) : Settings.Files where
  networks := arguments.networks <|> settings.files.networks
  addresses := arguments.addresses <|> settings.files.addresses

/-- The store at a path, or at the default path, where it may be missing. -/
def loadStore (around : Surroundings m) (path : Option String) : m (Option Store) :=
  match path with
  | some path => return (← around.read path).text?.bind Store.read?
  -- Nobody has asked for the file at the default path, so that it may be missing.
  | none => do
    match ← around.read around.defaultStore with
    | .missing => return some .empty
    | file => return file.text?.bind Store.read?

/-- The look-up of addresses in the database at a path, or in the store. -/
def loadAddresses (around : Surroundings m) (path : Option String) (store : Store) :
    m (Option (IpAddress → Reply (Option AddressRecord))) :=
  match path with
  | none => return some store.backends.address
  | some path => do
    let file ← around.read path
    return (file.bytes?.bind MaxMind.Database.open?).map fun db address => .now (db.lookup address)

/-- The locator for the arguments; none if a file cannot be loaded. -/
def loadLocator (around : Surroundings m) (arguments : Arguments) : m (Option Locator) := do
  let some settings ← loadSettings around arguments | return none
  let files := filesFor arguments settings
  let some store ← loadStore around files.networks | return none
  let some address ← loadAddresses around files.addresses store | return none
  return some
    { settings
      backends :=
        { store.backends with
          address
          service := settings.service.url.map (Provider.overHttp around.network) } }

/-! ### Running -/

def Arguments.asCaller (arguments : Arguments) : Caller where
  name := arguments.caller.getD "cli"
  logged := .logged ∈ arguments.switches
  mayAskService := .askService ∈ arguments.switches

def Arguments.wanted (arguments : Arguments) : Yield :=
  if .country ∈ arguments.switches then .country else .position

def locate (arguments : Arguments) (locator : Locator) : Outcome :=
  locator.locate arguments.asCaller arguments.wanted (.ofRequest arguments.request)

/-- Sends a line for each counter. -/
def sendCounters (around : Surroundings m) (settings : Settings.Statsd) (metrics : List Metric) :
    m Unit :=
  match if settings.enabled then around.statsd settings else none with
  | none => return ()
  | some send => metrics.forM fun metric => do
    -- Whether the line has been taken makes no difference.
    let _ ← send (statsdLine settings.scope metric.name)

def Report.ofLocation (location : Location) : Report := ⟨0, location.toJson.pretty ++ "\n", none⟩

def Stop.report : Stop → Report
  | .help => ⟨0, helpText, none⟩
  | .version => ⟨0, versionText, none⟩
  | .refused refusal => ⟨2, "", refusal.message?⟩

/-- Runs the program with the words behind its name. -/
def run (around : Surroundings m) (words : List String) : m Report :=
  match Arguments.read words with
  | .error stop => return stop.report
  | .ok arguments => do
    match ← loadLocator around arguments with
    | none => return ⟨1, "", none⟩
    | some locator => do
      let outcome := locate arguments locator
      sendCounters around locator.settings.statsd outcome.metrics
      return .ofLocation outcome.location

end

end Geolocation.CommandLine
