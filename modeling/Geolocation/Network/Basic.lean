import Geolocation.Coordinate
import Geolocation.Network.Component

/-!
# Networks

Records of WiFi access points and cell towers that a store knows, and what a group of them says about
the place of a device: where it is, how accurate that is, and which records belong together.
-/

namespace Geolocation

/-- A known access point, cell or cell area. -/
structure Network where
  /-- The text of the key that it was asked for by. -/
  key : String
  place : Coordinate
  /-- The radius in meters within which it has been seen, if known. -/
  range : Option Float
  deriving DecidableEq, Repr

namespace Network

/-- The radius in meters of a group around its centre. One network contributes its own range, several
contribute the largest distance of any of them from the centre, and nothing is below `minimum`. -/
def accuracy (centre : Coordinate) (members : List Network) (minimum : Float) : Except Fault Float :=
  match members with
  | [] => .error .emptyCluster
  | [only] => .ok (only.range.elim minimum fun range => larger range minimum)
  | several => do
    let widest ← several.foldlM
      (fun widest member => do return larger widest (← centre.distance member.place)) 0.0
    return larger widest minimum

def centre (members : List Network) : Except Fault Coordinate :=
  match Coordinate.mean? (members.map (·.place)) with
  | some place => .ok place
  | none => .error .emptyCluster

def estimate (members : List Network) (minimum : Float) : Except Fault (Coordinate × Float) := do
  let centre ← centre members
  return (centre, ← accuracy centre members minimum)

/-- Are two networks at most `limit` meters apart? -/
def within (limit : Float) (a b : Network) : Except Fault Bool := do
  return (← a.place.distance b.place) ≤ limit

/-- The groups of networks that are joined by chains of networks at most `limit` meters apart. Groups
and their members keep the order of the list. A network alone is at no distance from another one, so
its place is never looked at. -/
def clusters (limit : Float) (networks : List Network) : Except Fault (List (List Network)) := do
  let labelling ← Component.Labelling.ofTest fun i j => within limit (networks.get i) (networks.get j)
  return labelling.groups networks

end Network

end Geolocation
