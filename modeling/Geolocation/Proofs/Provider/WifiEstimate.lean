import Geolocation.Proofs.FloatOrder
import Geolocation.Proofs.Network.LargestComponent
import Geolocation.Proofs.Provider.Attempts
import Geolocation.Proofs.Provider.Faults
import Geolocation.Proofs.Search.Origin

/-!
# The estimate from access points

What the access points of a query come to, from the number of them that it takes to ask the store to
the position of the place that is chosen. Places are the components of closeness among the networks
that the store returns. The largest one counts if it has enough members.

Main result: `Provider.wifi_estimate`.
-/

namespace Geolocation

open Component (IsComponent IsLargest isComponent_iff_of_apart)

namespace Network

/-- The distance between two networks of a list is the same from either side. -/
def Symmetric (networks : List Network) : Prop :=
  ∀ a ∈ networks, ∀ b ∈ networks, ∀ meters,
    a.place.distance b.place = .ok meters → b.place.distance a.place = .ok meters

/-- What clusters there are is the division into components, and it is looked at only if the places
have been checked. -/
theorem singleLinkage_of_clusters {limit : Float} {networks : List Network}
    {places : List (List Network)} (symmetric : Symmetric networks)
    (clustered : clusters limit networks = .ok places) :
    ∃ parts, places = parts.map (·.map networks.get) ∧
      Component.SingleLinkage (Near limit networks) parts := by
  have valid (several : 2 ≤ networks.length) := isValid_of_clusters several clustered
  obtain ⟨parts, divided, linkage⟩ := clusters_of_valid limit valid symmetric
  rw [clustered] at divided
  exact ⟨parts, Except.ok.inj divided, linkage⟩

end Network

namespace Provider

variable {settings : Settings} {found : List Network}

/-- What is located comes from the largest component, or there is none that has enough members. -/
theorem locateWifis_cases {location : Location} (symmetric : Network.Symmetric found)
    (located : locateWifis settings found = .ok location) :
    let near := Network.Near settings.wifi.linkDistance found
    (location = .empty true ∧
        ∀ part, IsComponent near part → part.length < max 1 settings.wifi.clusterMinimum) ∨
      ∃ part p, location = .position p ∧ IsLargest near part ∧
        max 1 settings.wifi.clusterMinimum ≤ part.length ∧
        Estimates wifiProfile settings.accuracy.wifi (part.map found.get) p := by
  intro near
  obtain ⟨places, clustered, chosen⟩ := ok_of_bind located
  obtain ⟨parts, rfl, linkage⟩ := Network.singleLinkage_of_clusters symmetric clustered
  -- Groups have the lengths of their parts, so that the same ones are left out and chosen.
  have candidates : (parts.map (·.map found.get)).filter
      (fun members => settings.wifi.clusterMinimum ≤ members.length) =
        (parts.filter fun part => settings.wifi.clusterMinimum ≤ part.length).map
          (·.map found.get) := by
    simp only [List.filter_map, Function.comp_def, List.length_map]
  rw [candidates, largest?_map] at chosen
  cases largest : largest? (parts.filter fun part => settings.wifi.clusterMinimum ≤ part.length) with
  | none =>
    rw [largest] at chosen
    cases chosen
    exact Or.inl ⟨rfl, (linkage.largest?_eq_none_iff _).mp largest⟩
  | some part =>
    rw [largest] at chosen
    obtain ⟨p, rfl, estimates⟩ := estimates_of_locateGroup chosen
    obtain ⟨isLargest, enough⟩ := linkage.isLargest_of_largest? largest
    exact Or.inr ⟨part, p, rfl, isLargest, enough, estimates⟩

/-- Nothing fails if all places and their means are on Earth. -/
theorem exists_locateWifis_of_valid (means : Network.MeansOnEarth found)
    (valid : ∀ network ∈ found, network.place.isValid = true) :
    ∃ location, locateWifis settings found = .ok location := by
  cases located : locateWifis settings found with
  | ok location => exact ⟨location, rfl⟩
  | error fault =>
    obtain ⟨-, bad, member, invalid⟩ := (failsIf_locateWifis means).iff.mp ⟨fault, located⟩
    cases (valid bad member).symm.trans invalid

end Provider

end Geolocation
