import Geolocation.CommandLine.Values

/-!
# Arguments

The words behind the name of the program: options with a value, which is the next word or is attached,
and switches. A word that starts with a dash is never a value, except the dash alone. Options that are
no lists and switches may be given once.

The value of an option is looked at when the next option begins or the words end, so a word that is not
understood is refused before a bad value that stands earlier.
-/

namespace Geolocation.CommandLine

inductive ValueOption where
  | config
  | networks
  | addresses
  | wifi
  | cell
  | ip
  | flag
  | caller
  deriving DecidableEq, Repr

/-- An option without a value. -/
inductive Switch where
  | logged
  | askService
  | country
  deriving DecidableEq, Repr

/-- What a word that starts with a dash can name. -/
inductive Named where
  | value (option : ValueOption)
  | switch (option : Switch)
  | help
  | version
  deriving DecidableEq, Repr

def Named.ofLong? : String → Option Named
  | "config" => some (.value .config)
  | "store" => some (.value .networks)
  | "geoip" => some (.value .addresses)
  | "wifi" => some (.value .wifi)
  | "cell" => some (.value .cell)
  | "ip" => some (.value .ip)
  | "fallback" => some (.value .flag)
  | "api-key" => some (.value .caller)
  | "log-stats" => some (.switch .logged)
  | "allow-fallback" => some (.switch .askService)
  | "country" => some (.switch .country)
  | "help" => some .help
  | "version" => some .version
  | _ => none

def Named.ofShort? : Char → Option Named
  | 'c' => some (.value .config)
  | 'w' => some (.value .wifi)
  | 'h' => some .help
  | 'V' => some .version
  | _ => none

/-- What the words ask for. -/
structure Arguments where
  config : Option String := none
  networks : Option String := none
  addresses : Option String := none
  wifis : List String := []
  cells : List CellReport := []
  ip : Option String := none
  flags : List (String × Bool) := []
  caller : Option String := none
  switches : List Switch := []
  deriving DecidableEq, Repr

/-- Why words are refused. -/
inductive Refusal where
  /-- They are no options of the program, or one of them is given too often or without its value. -/
  | usage
  | cell (error : CellTextError)
  | flag (error : FlagTextError)
  deriving DecidableEq, Repr

/-- What the readers of values say about a refusal. -/
def Refusal.message? : Refusal → Option String
  | .usage => none
  | .cell error => some error.message
  | .flag error => some error.message

/-- A reason to stop before a search. -/
inductive Stop where
  | help
  | version
  | refused (refusal : Refusal)
  deriving DecidableEq, Repr

namespace Arguments

/-- The value of an option that may be given once. -/
def once (present : Option String) (value : String) : Except Refusal (Option String) :=
  if present.isSome then .error .usage else .ok (some value)

/-- The path of an option that may be given once; it is not empty. -/
def path (present : Option String) (value : String) : Except Refusal (Option String) :=
  if value = "" then .error .usage else once present value

def give (arguments : Arguments) (option : ValueOption) (value : String) :
    Except Refusal Arguments :=
  match option with
  | .config => return { arguments with config := ← path arguments.config value }
  | .networks => return { arguments with networks := ← path arguments.networks value }
  | .addresses => return { arguments with addresses := ← path arguments.addresses value }
  | .wifi => .ok { arguments with wifis := arguments.wifis ++ [value] }
  | .cell =>
    match readCell value with
    | .ok cell => .ok { arguments with cells := arguments.cells ++ [cell] }
    | .error error => .error (.cell error)
  | .ip => return { arguments with ip := ← once arguments.ip value }
  | .flag =>
    match readFlag value with
    | .ok flag => .ok { arguments with flags := arguments.flags ++ [flag] }
    | .error error => .error (.flag error)
  | .caller => return { arguments with caller := ← once arguments.caller value }

def turnOn (arguments : Arguments) (switch : Switch) : Except Refusal Arguments :=
  if switch ∈ arguments.switches then .error .usage
  else .ok { arguments with switches := arguments.switches ++ [switch] }

end Arguments

/-- How far the words have been read. -/
structure Progress where
  arguments : Arguments := {}
  /-- The option that has not been looked at, with its value if that has been met. -/
  pending : Option (ValueOption × Option String) := none
  deriving DecidableEq, Repr

namespace Progress

/-- Takes in the pending option. -/
def settle (progress : Progress) : Except Stop Arguments :=
  match progress.pending with
  | none => .ok progress.arguments
  | some (_, none) => .error (.refused .usage)
  | some (option, some value) => (progress.arguments.give option value).mapError .refused

/-- Goes on with an option and the value attached to it, if there is one. -/
def named (progress : Progress) (name : Named) (attached : Option String) : Except Stop Progress :=
  match name, attached with
  | .value option, none => return { arguments := ← progress.settle, pending := some (option, none) }
  | .value option, some value => do
    let arguments ← progress.settle
    return { arguments := ← (arguments.give option value).mapError .refused }
  | .switch switch, none => do
    let arguments ← progress.settle
    return { arguments := ← (arguments.turnOn switch).mapError .refused }
  | .help, none => do
    let _ ← progress.settle
    throw .help
  | .version, none => do
    let _ ← progress.settle
    throw .version
  | _, some _ => .error (.refused .usage)

/-- The value attached to a letter: what follows it, without an equals sign in front. -/
def attachedTo : List Char → Option String
  | [] => none
  | '=' :: rest => some (String.ofList rest)
  | rest => some (String.ofList rest)

/-- Goes on with a letter that names an option and what follows it. More letters may follow one that
takes no value, but help and version are given before they are looked at. -/
def letter (progress : Progress) (c : Char) (rest : List Char) : Except Stop Progress :=
  match Named.ofShort? c with
  | some (.value option) => progress.named (.value option) (attachedTo rest)
  | some name => progress.named name none
  | none => .error (.refused .usage)

/-- Goes on with the long name of an option and what is attached to it. -/
def long (progress : Progress) (text : List Char) : Except Stop Progress :=
  let (name, attached) := match Text.splitOnce '=' text with
    | some (name, value) => (name, some (String.ofList value))
    | none => (text, none)
  match Named.ofLong? (String.ofList name) with
  | some name => progress.named name attached
  | none => .error (.refused .usage)

def word (progress : Progress) (word : String) : Except Stop Progress :=
  match word.toList with
  | '-' :: '-' :: text => progress.long text
  | '-' :: c :: rest => progress.letter c rest
  -- No dash in front, or nothing but a dash: a value, if an option waits for one.
  | _ =>
    match progress.pending with
    | some (option, none) => .ok { progress with pending := some (option, some word) }
    | _ => .error (.refused .usage)

/-- Reads all words. Two dashes end the options, and nothing may follow them. -/
def words (progress : Progress) : List String → Except Stop Arguments
  | [] => progress.settle
  | word :: rest =>
    if word = "--" then (if rest.isEmpty then progress.settle else .error (.refused .usage))
    else do (← progress.word word).words rest

end Progress

/-- What the words behind the name of the program ask for. -/
def Arguments.read (words : List String) : Except Stop Arguments :=
  ({ : Progress }).words words

namespace Arguments

def request (arguments : Arguments) : Request where
  cells := arguments.cells
  wifis := arguments.wifis.map fun key => ⟨key, none⟩
  ip := arguments.ip
  policy := policyOf arguments.flags

end Arguments

end Geolocation.CommandLine
