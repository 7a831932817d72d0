import Geolocation.Provider.Address
import Geolocation.Provider.Evidence
import Geolocation.Provider.Service
import Geolocation.Search.Basic
import Geolocation.Store.Basic

/-!
# Locating

The chains of providers that look for a position or a country in given backends. A position is looked
for by the most precise evidence first, and by the external service last.
-/

namespace Geolocation

structure Backends where
  wifis : List WifiKey → Reply (List Network)
  cells : List Cell → Reply (List Network)
  areas : List CellArea → Reply (List Network)
  address : IpAddress → Reply (Option AddressRecord)
  service : Option Service

/-- The store as the backend of everything but the external service. -/
def Store.backends (store : Store) : Backends where
  wifis keys := .now (.ok (store.lookupWifis keys))
  cells cells := .now (.ok (store.lookupCells cells))
  areas areas := .now (.ok (store.lookupAreas areas))
  address ip := .now (.ok (store.lookupAddress ip))
  service := none

structure Locator where
  settings : Settings
  backends : Backends

namespace Locator

/-- The chain that looks for a position in the engine's own stores. -/
def internalChain (locator : Locator) : List Provider :=
  [.wifi locator.settings locator.backends.wifis,
    .cell locator.settings locator.backends.cells,
    .area locator.settings locator.backends.areas,
    .address locator.settings .position locator.backends.address]

/-- The chain that looks for what is wanted by a caller. -/
def chain (locator : Locator) (caller : Caller) : Yield → List Provider
  | .position =>
    locator.internalChain ++
      locator.backends.service.toList.map (Provider.service locator.settings caller)
  | .country => [.address locator.settings .country locator.backends.address]

def locate (locator : Locator) (caller : Caller) (wanted : Yield) (query : Query) : Outcome :=
  Search.run locator.settings.search caller (locator.chain caller wanted) query

end Locator

end Geolocation
