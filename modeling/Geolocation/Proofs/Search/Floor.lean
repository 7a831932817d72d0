import Geolocation.Proofs.Search.Origin

/-!
# The floor of accuracy

No position of the engine's own claims to be more accurate than the minimum that is set for its kind of
evidence. The radius of a group is only ever raised to the minimum, and where a range or a distance is
not a number the minimum stands in for it, so that a radius is a number whatever the records say. The
external service has no minimum; what it answers is finite and above zero.

Main result: `Locator.accuracy_floor`.
-/

namespace Geolocation

structure Settings.Accuracy.AreNumbers (minima : Settings.Accuracy) : Prop where
  wifi : minima.wifi.isNaN = false
  cell : minima.cell.isNaN = false
  area : minima.area.isNaN = false
  address : minima.address.isNaN = false

namespace Provider

def KeepsFloor (provider : Provider) (minimum : Float) : Prop :=
  ∀ query p, (provider.attempt query).outcome = .ok (.position p) →
    p.accuracy.isNaN = false ∧ minimum ≤ p.accuracy

/-- The engine's own providers with the minima that are set for them, whatever their backends are. -/
inductive HasFloor (settings : Settings) : Provider → Float → Prop where
  | wifi (lookup : List WifiKey → Reply (List Network)) :
      HasFloor settings (.wifi settings lookup) settings.accuracy.wifi
  | cell (lookup : List Cell → Reply (List Network)) :
      HasFloor settings (.cell settings lookup) settings.accuracy.cell
  | area (lookup : List CellArea → Reply (List Network)) :
      HasFloor settings (.area settings lookup) settings.accuracy.area
  | address (yields : Yield) (lookup : IpAddress → Reply (Option AddressRecord)) :
      HasFloor settings (.address settings yields lookup) settings.accuracy.address

def IsKnown (settings : Settings) (provider : Provider) : Prop :=
  (∃ minimum, HasFloor settings provider minimum) ∨
    ∃ caller ask, provider = .service settings caller ask

variable {settings : Settings} {provider : Provider} {minimum : Float}

theorem HasFloor.keepsFloor (floor : HasFloor settings provider minimum)
    (numbers : settings.accuracy.AreNumbers) : provider.KeepsFloor minimum := by
  intro query p answered
  cases floor with
  | wifi lookup =>
    obtain ⟨_, _, _, _, _, _, estimates⟩ := position_of_wifi answered
    exact Network.minimum_le_accuracy numbers.wifi estimates.accuracy
  | cell lookup =>
    obtain ⟨_, _, _, _, estimates⟩ := position_of_cell answered
    exact Network.minimum_le_accuracy numbers.cell estimates.accuracy
  | area lookup =>
    obtain ⟨_, _, _, copies⟩ := position_of_area answered
    exact Network.minimum_le_accuracy numbers.area copies.accuracy
  | address yields lookup =>
    obtain ⟨_, _, _, _, _, _, _, _, _, copies⟩ := position_of_address answered
    exact Network.minimum_le_accuracy numbers.address copies.accuracy

theorem IsKnown.hasFloor {query : Query} {p : Position} (known : IsKnown settings provider)
    (answered : (provider.attempt query).outcome = .ok (.position p))
    (internal : p.provenance.source = .internal) : ∃ minimum, HasFloor settings provider minimum := by
  rcases known with own | ⟨caller, ask, rfl⟩
  · exact own
  · -- The positions of the service are marked as such.
    obtain ⟨answer, _, _, _, _, rfl⟩ := position_of_service answered
    cases internal

end Provider

namespace Locator

theorem isKnown_of_mem_chain {locator : Locator} {caller : Caller} {wanted : Yield}
    {provider : Provider} (member : provider ∈ locator.chain caller wanted) :
    provider.IsKnown locator.settings := by
  rcases provider_of_mem_chain member with rfl | rfl | rfl | ⟨yields, rfl⟩ | ⟨ask, _, rfl⟩
  · exact Or.inl ⟨_, .wifi _⟩
  · exact Or.inl ⟨_, .cell _⟩
  · exact Or.inl ⟨_, .area _⟩
  · exact Or.inl ⟨_, .address yields _⟩
  · exact Or.inr ⟨caller, ask, rfl⟩

end Locator

namespace Search

/-- A provider of the chain answered the position, and the position keeps the floor of that provider. -/
def KeepsFloor (settings : Settings) (search : Settings.Search) (chain : List Provider) (query : Query)
    (p : Position) : Prop :=
  ∃ provider ∈ chain, provider.Answers search query (.position p) ∧
    ∃ minimum, provider.HasFloor settings minimum ∧ p.accuracy.isNaN = false ∧ minimum ≤ p.accuracy

theorem keepsFloor_of_run {settings : Settings} (numbers : settings.accuracy.AreNumbers)
    {search : Settings.Search} {caller : Caller} {chain : List Provider} {query : Query}
    {p : Position} (known : ∀ provider ∈ chain, provider.IsKnown settings)
    (located : (run search caller chain query).location = .position p)
    (internal : p.provenance.source = .internal) : KeepsFloor settings search chain query p := by
  obtain ⟨provider, member, answers⟩ := answers_of_run located
  obtain ⟨minimum, floor⟩ := (known provider member).hasFloor answers.answered internal
  exact ⟨provider, member, answers, minimum, floor,
    floor.keepsFloor numbers query p answers.answered⟩

end Search

namespace Locator

/-- With minima that are numbers, each of the engine's own providers keeps its floor, the service only
answers with finite accuracies above zero, and a search over any of them, the locator's among these,
gives a position of the engine's own only with the floor of a provider that answered it. -/
theorem accuracy_floor (settings : Settings) (numbers : settings.accuracy.AreNumbers) :
    (∀ (provider : Provider) minimum,
        provider.HasFloor settings minimum → provider.KeepsFloor minimum) ∧
      (∀ caller ask query p,
        ((Provider.service settings caller ask).attempt query).outcome = .ok (.position p) →
          p.accuracy.isFinite = true ∧ 0.0 < p.accuracy) ∧
      (∀ search caller chain query p, (∀ provider ∈ chain, provider.IsKnown settings) →
        (Search.run search caller chain query).location = .position p →
          p.provenance.source = .internal → Search.KeepsFloor settings search chain query p) ∧
      ∀ backends caller wanted query p,
        let locator : Locator := ⟨settings, backends⟩
        (locator.locate caller wanted query).location = .position p →
          p.provenance.source = .internal →
            Search.KeepsFloor settings settings.search (locator.chain caller wanted) query p := by
  refine ⟨?_, ?_, ?_, ?_⟩
  · intro provider minimum floor
    exact floor.keepsFloor numbers
  · intro caller ask query p answered
    obtain ⟨answer, _, _, finite, positive, rfl⟩ := Provider.position_of_service answered
    exact ⟨finite, positive⟩
  · intro search caller chain query p known located internal
    exact Search.keepsFloor_of_run numbers known located internal
  · intro backends caller wanted query p locator located internal
    exact Search.keepsFloor_of_run numbers (fun _ => isKnown_of_mem_chain) located internal

/-- A range that is not a number leaves the minimum. -/
theorem located_with_floor :
    let locator := knowingArea ⟨"gsm:262:1:5", ⟨50.0, 8.0⟩, some Float.nan⟩
    let p : Position := ⟨⟨50.0, 8.0⟩, 10000.0, ⟨.internal, some "lacf"⟩⟩
    (locator.locate stranger .position towerSeen).location = .position p ∧
      Search.KeepsFloor locator.settings locator.settings.search (locator.chain stranger .position)
        towerSeen p := by
  intro locator p
  have located : (locator.locate stranger .position towerSeen).location = .position p := by decide
  have numbers : locator.settings.accuracy.AreNumbers := by
    constructor <;> decide
  exact ⟨located, (accuracy_floor locator.settings numbers).2.2.2 _ _ _ _ _ located rfl⟩

end Locator

end Geolocation
