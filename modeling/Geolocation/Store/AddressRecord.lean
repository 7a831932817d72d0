import Geolocation.Document.Decode

/-!
# What is known about an address

The block of addresses that an IP address lies in has a place and a country. A coarse block may lack
any of it.
-/

namespace Geolocation

/-- What a database tells about an address. -/
structure AddressRecord where
  lat : Option Float
  lon : Option Float
  /-- Meters. -/
  radius : Option Float
  countryCode : Option String
  countryName : Option String
  deriving DecidableEq, Repr

namespace AddressRecord

open Document

def ofDocument? (d : Document) : Option AddressRecord := do
  match ← d.fields? .refused ["lat", "lon", "radius", "country_code", "country_name"] with
  | [lat, lon, radius, countryCode, countryName] =>
    return {
      lat := ← defaulted none (toOption? toFloat?) lat
      lon := ← defaulted none (toOption? toFloat?) lon
      radius := ← defaulted none (toOption? toFloat?) radius
      countryCode := ← defaulted none (toOption? toText?) countryCode
      countryName := ← defaulted none (toOption? toText?) countryName
    }
  | _ => none

end AddressRecord

end Geolocation
