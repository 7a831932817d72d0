import Geolocation.Distinct
import Geolocation.Network.Basic
import Geolocation.Provider.Basic
import Geolocation.Settings

/-!
# Location by networks

Three kinds of evidence are networks that a store knows. Access points are split into places, of which
the one with most access points counts, if it has enough. Cells are grouped by their areas, of which
the one with most cells counts. Of cell areas the first known one counts.
-/

namespace Geolocation

namespace Provider

/-- The position that a group of networks makes. -/
def locateGroup (profile : Profile) (minimum : Float) (members : List Network) :
    Except Fault Location := do
  let (place, accuracy) ← Network.estimate members minimum
  return profile.position place accuracy

/-! ### Access points -/

def wifiProfile : Profile := ⟨"wifi", .position, none, .internal⟩

def locateWifis (settings : Settings) (found : List Network) : Except Fault Location := do
  let places ← Network.clusters settings.wifi.linkDistance found
  match largest? (places.filter fun members => settings.wifi.clusterMinimum ≤ members.length) with
  | none => return .empty true
  | some members => locateGroup wifiProfile settings.accuracy.wifi members

/-- Are there enough access points to ask for? -/
def enoughWifis (settings : Settings) (query : Query) : Bool :=
  !query.wifis.isEmpty && settings.wifi.queryMinimum ≤ query.wifis.length

def wifi (settings : Settings) (lookup : List WifiKey → Reply (List Network)) : Provider where
  profile := wifiProfile
  limit := none
  gate query _ := wifiProfile.policyGate query
  attempt query :=
    if enoughWifis settings query then
      .asking wifiProfile (lookup query.wifiKeys) (locateWifis settings)
    else .now (.empty false)

/-! ### Cells -/

def cellProfile : Profile := ⟨"cell", .position, none, .internal⟩

/-- The area of the asked cell that a network is the answer for. -/
def areaOf? (asked : List Cell) (network : Network) : Option CellArea :=
  (asked.find? fun cell => cell.text = network.key).map (·.area)

/-- The networks that were asked for, in groups of one area. Groups are ordered by their first
networks. -/
def groupByArea (asked : List Cell) (found : List Network) : List (List Network) :=
  (distinctBy id (found.filterMap (areaOf? asked))).map fun area =>
    found.filter fun network => areaOf? asked network = some area

def locateCells (settings : Settings) (asked : List Cell) (found : List Network) :
    Except Fault Location :=
  match largest? (groupByArea asked found) with
  | none => .ok (.empty true)
  | some members => locateGroup cellProfile settings.accuracy.cell members

def cell (settings : Settings) (lookup : List Cell → Reply (List Network)) : Provider where
  profile := cellProfile
  limit := none
  gate query _ := cellProfile.policyGate query
  attempt query :=
    let asked := query.numberedCells
    if asked.isEmpty then .now (.empty false)
    else .asking cellProfile (lookup asked) (locateCells settings asked)

/-! ### Cell areas -/

def areaProfile : Profile := ⟨"cell_lac", .position, some "lacf", .internal⟩

def locateArea (settings : Settings) (found : List Network) : Except Fault Location :=
  match found with
  | [] => .ok (.empty true)
  | first :: _ => do
    let accuracy ← Network.accuracy first.place [first] settings.accuracy.area
    return areaProfile.position first.place accuracy

def area (settings : Settings) (lookup : List CellArea → Reply (List Network)) : Provider where
  profile := areaProfile
  limit := none
  gate query _ := areaProfile.policyGate query
  attempt query :=
    if query.areas.isEmpty then .now (.empty false)
    else .asking areaProfile (lookup query.areas) (locateArea settings)

end Provider

end Geolocation
