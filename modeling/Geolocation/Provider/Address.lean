import Geolocation.Network.Basic
import Geolocation.Provider.Basic
import Geolocation.Settings
import Geolocation.Store.AddressRecord

/-!
# Location by address

The block that an IP address lies in gives a position, the middle of the block with its radius, or a
country. A record that lacks what is needed locates nothing.
-/

namespace Geolocation

namespace Provider

/-- Location by address, as a position or as a country. -/
def addressProfile (yields : Yield) : Profile := ⟨"geoip", yields, some "ipf", .internal⟩

def positionOf (settings : Settings) (address : IpAddress) (record : AddressRecord) :
    Except Fault Location :=
  match record.lat, record.lon with
  | some lat, some lon => do
    let block : Network := ⟨address.text, ⟨lat, lon⟩, record.radius⟩
    let accuracy ← Network.accuracy block.place [block] settings.accuracy.address
    return (addressProfile .position).position block.place accuracy
  | _, _ => .ok (.empty true)

/-- The country of a block of addresses, which has its code for a name if it has none. -/
def countryOf (record : AddressRecord) : Location :=
  match record.countryCode with
  | none => .empty true
  | some code =>
    if code = "" then .empty true
    else (addressProfile .country).country code (record.countryName.getD code)

def locateAddress (settings : Settings) (yields : Yield) (address : IpAddress)
    (record : Option AddressRecord) : Except Fault Location :=
  match record with
  | none => .ok (.empty true)
  | some record =>
    match yields with
    | .position => positionOf settings address record
    | .country => .ok (countryOf record)

def address (settings : Settings) (yields : Yield)
    (lookup : IpAddress → Reply (Option AddressRecord)) : Provider where
  profile := addressProfile yields
  limit := none
  gate query _ := (addressProfile yields).policyGate query
  attempt query :=
    match query.ip with
    | none => .now (.empty false)
    | some ip => .asking (addressProfile yields) (lookup ip) (locateAddress settings yields ip)

end Provider

end Geolocation
