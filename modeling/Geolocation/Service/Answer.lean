import Geolocation.Coordinate
import Geolocation.Json.Reader
import Geolocation.Document.Decode

/-!
# Answers of the external locate service

The service answers over HTTP with a place and an accuracy. Its status 404 says that it could not
locate; any other status from 400 on, a body that is no answer, and no response at all are outages.
-/

namespace Geolocation

/-- A place with an accuracy in meters, as the service tells it. Neither has been checked. -/
structure ServiceAnswer where
  place : Coordinate
  accuracy : Float
  deriving DecidableEq, Repr

namespace ServiceAnswer

open Document

def toPlace? (d : Document) : Option Coordinate := do
  match ← d.fields? .exact ["lat", "lng"] with
  | [lat, lng] => return ⟨← required toFloat? lat, ← required toFloat? lng⟩
  | _ => none

def ofDocument? (d : Document) : Option ServiceAnswer := do
  match ← d.fields? .exact ["location", "accuracy"] with
  | [place, accuracy] => return ⟨← required toPlace? place, ← required toFloat? accuracy⟩
  | _ => none

end ServiceAnswer

/-- What comes back from a call over HTTP. -/
inductive HttpResponse where
  /-- Nobody listens, or what comes back is no HTTP. -/
  | missing
  /-- A response with this status and body. -/
  | received (status : Nat) (body : String)
  deriving DecidableEq, Repr

namespace HttpResponse

/-- Has a response with this status a body? -/
def hasBody (status : Nat) : Bool := status ≠ 204 && status ≠ 304 && 200 ≤ status

/-- What a response tells: an answer, that the service could not locate, or an outage and its
reason. -/
def read : HttpResponse → Except String (Option ServiceAnswer)
  | .missing => .error "no response"
  | .received status body =>
    if status = 404 then .ok none
    else if 400 ≤ status then .error ("status " ++ toString status)
    else
      match if hasBody status then (Json.read? body).bind ServiceAnswer.ofDocument? else none with
      | some answer => .ok answer
      | none => .error "bad response"

end HttpResponse

end Geolocation
