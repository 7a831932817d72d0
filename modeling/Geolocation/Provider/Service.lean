import Geolocation.Provider.Basic
import Geolocation.Service.Answer
import Geolocation.Settings

/-!
# Location by the external service

The service is asked only for callers who may use it, and only while nothing is found that is accurate
enough. Its answer is not trusted: the place has to be on Earth, and the accuracy a positive number. The
service at a URL is called over HTTP.
-/

namespace Geolocation

/-- The external service: its reply to a request, which may be that it could not locate. -/
abbrev Service : Type := ServiceRequest → Reply (Option ServiceAnswer)

namespace Provider

def serviceProfile : Profile := ⟨"fallback", .position, none, .fallback⟩

/-- Is there a position so accurate that the service need not be asked? -/
def isAccurate (settings : Settings) (best : Location) : Bool :=
  best.accuracy?.any fun accuracy => accuracy ≤ settings.service.threshold

/-- The position that an answer tells, after a check. -/
def acceptAnswer (answer : ServiceAnswer) : Except Fault Location := do
  answer.place.check
  if answer.accuracy.isFinite && 0.0 < answer.accuracy then
    return serviceProfile.position answer.place answer.accuracy
  else
    throw (serviceProfile.unavailable ("invalid accuracy " ++ Decimal.messageText answer.accuracy))

/-- What a response over HTTP tells the provider. -/
def readResponse (response : HttpResponse) : Except Fault (Option ServiceAnswer) :=
  response.read.mapError serviceProfile.unavailable

/-- The service at a URL, in a network that tells what comes back for a call and after how many
milliseconds. -/
def overHttp (network : HttpPost → HttpResponse × Nat) (url : String) : Service := fun request =>
  let (response, delay) := network (request.post url)
  ⟨readResponse response, delay⟩

def acceptReply (reply : Except Fault (Option ServiceAnswer)) : Except Fault Location :=
  match reply with
  | .error fault => .error fault
  | .ok none => .ok (.empty true)
  | .ok (some answer) => acceptAnswer answer

def service (settings : Settings) (caller : Caller) (ask : Service) : Provider where
  profile := serviceProfile
  limit := some settings.service.timeLimit
  gate query best :=
    -- The service has no policy flag, so that nothing but the caller and the accuracy counts.
    if caller.mayAskService && !isAccurate settings best then serviceProfile.policyGate query
    else ⟨false, none⟩
  attempt query :=
    let request := ServiceRequest.ofQuery query
    -- A request that says nothing about the place is not sent.
    if request.isEmpty then .now (.empty false)
    else
      let reply := ask request
      ⟨acceptReply reply.answer, reply.delay, [request]⟩

end Provider

end Geolocation
