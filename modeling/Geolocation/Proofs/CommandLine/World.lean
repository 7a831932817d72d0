import Geolocation.CommandLine.Run

/-!
# Runs in a pretended world

A world whose files stand still, in which everything the program does is noted: the files that it reads
and the lines that it sends. What loading comes to depends on the files alone, and what is read depends
on the paths.
-/

namespace Geolocation.CommandLine

/-- What the program does to the world. -/
inductive Event where
  | read (path : String)
  | sent (line : String)

structure World where
  files : String → FileState
  defaultStore : String
  network : HttpPost → HttpResponse × Nat
  /-- Which lines a statsd server takes, if it can be reached. -/
  statsd : Settings.Statsd → Option (String → Bool)

namespace World

def around (world : World) : Surroundings (StateM (List Event)) where
  read path := modifyGet fun events => (world.files path, events ++ [.read path])
  defaultStore := world.defaultStore
  network := world.network
  statsd settings := (world.statsd settings).map fun takes line =>
    modifyGet fun events => (takes line, events ++ [.sent line])

/-- Runs the program, and tells what it does. -/
def run (world : World) (words : List String) : Report × List Event :=
  (CommandLine.run world.around words).run []

end World

/-! ### Computations and their events -/

/-- The computation comes to a value by some events, whatever has happened before. -/
def Does {α : Type} (computation : StateM (List Event) α) (value : α) (events : List Event) : Prop :=
  ∀ before, computation.run before = (value, before ++ events)

namespace Does

variable {α β : Type}

theorem pure (value : α) : Does (Pure.pure value) value [] := by
  intro before
  rw [List.append_nil]
  rfl

theorem bind {first : StateM (List Event) α} {next : α → StateM (List Event) β} {middle : α}
    {value : β} {events later : List Event} (starts : Does first middle events)
    (goesOn : Does (next middle) value later) : Does (first >>= next) value (events ++ later) := by
  intro before
  -- For the second part, what the first one has done has happened before.
  rw [← List.append_assoc, ← goesOn (before ++ events)]
  change (next (first.run before).1).run (first.run before).2 = _
  rw [starts before]

/-- What is made of the last value adds no events. -/
theorem last {first : StateM (List Event) α} {next : α → StateM (List Event) β} {middle : α}
    {value : β} {events : List Event} (starts : Does first middle events)
    (ends : next middle = Pure.pure value) : Does (first >>= next) value events := by
  rw [← List.append_nil events]
  apply starts.bind
  rw [ends]
  exact .pure value

end Does

/-! ### Loading -/

namespace World

variable (world : World)

theorem does_read (path : String) : Does (world.around.read path) (world.files path) [.read path] :=
  fun _ => rfl

/-- The settings in the file of this path. -/
def settingsAt : Option String → Option Settings
  | none => some {}
  | some path => (world.files path).text?.bind Settings.read?

def storeAt : Option String → Option Store
  | some path => (world.files path).text?.bind Store.read?
  | none =>
    match world.files world.defaultStore with
    | .missing => some .empty
    | file => file.text?.bind Store.read?

def addressesAt (store : Store) : Option String → Option (IpAddress → Reply (Option AddressRecord))
  | none => some store.backends.address
  | some path =>
    ((world.files path).bytes?.bind MaxMind.Database.open?).map fun db address => .now (db.lookup address)

theorem does_loadSettings (arguments : Arguments) :
    Does (loadSettings world.around arguments) (world.settingsAt arguments.config)
      (arguments.config.toList.map .read) := by
  unfold loadSettings
  cases arguments.config with
  | none => exact .pure _
  | some path => exact (world.does_read path).last rfl

theorem does_loadStore (path : Option String) :
    Does (loadStore world.around path) (world.storeAt path) [.read (path.getD world.defaultStore)] := by
  unfold loadStore
  cases path with
  | some path => exact (world.does_read path).last rfl
  | none =>
    apply (world.does_read world.defaultStore).last
    simp only [storeAt]
    cases world.files world.defaultStore with
    | missing => rfl
    | unreadable => rfl
    | content bytes => rfl

theorem does_loadAddresses (path : Option String) (store : Store) :
    Does (loadAddresses world.around path store) (world.addressesAt store path)
      (path.toList.map .read) := by
  unfold loadAddresses
  cases path with
  | none => exact .pure _
  | some path => exact (world.does_read path).last rfl

/-- Nothing but lines are sent, and it makes no difference which of them are taken. -/
theorem does_sendCounters (settings : Settings.Statsd) (metrics : List Metric) :
    ∃ lines : List String, Does (sendCounters world.around settings metrics) () (lines.map .sent) := by
  have unsent : Does (Pure.pure () : StateM (List Event) Unit) () (([] : List String).map .sent) :=
    .pure ()
  unfold sendCounters
  cases settings.enabled with
  | false => exact ⟨[], unsent⟩
  | true =>
    simp only [if_true, around]
    cases world.statsd settings with
    | none => exact ⟨[], unsent⟩
    | some takes =>
      -- One line for each counter, whatever becomes of the lines before it.
      refine ⟨metrics.map fun metric => statsdLine settings.scope metric.name, ?_⟩
      induction metrics with
      | nil => exact unsent
      | cons metric rest ih =>
        let line := statsdLine settings.scope metric.name
        let send : StateM (List Event) Bool :=
          modifyGet fun events => (takes line, events ++ [.sent line])
        have sent : Does send (takes line) [.sent line] := fun _ => rfl
        have counted : Does (send >>= fun _ => Pure.pure ()) () [.sent line] := sent.last rfl
        exact counted.bind ih

end World

end Geolocation.CommandLine
