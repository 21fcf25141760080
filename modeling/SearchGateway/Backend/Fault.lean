/-!
# What can go wrong with the backend

A call to the backend fails when it cannot be sent, is not answered in time, is answered
with an error, or is answered with something that cannot be decoded.
-/

namespace SearchGateway.Backend

inductive Fault
  /-- An answer that is no success, with what it says. -/
  | status (code : Nat) (message : String)
  | timeout (detail : String)
  | connect (detail : String)
  | request (detail : String)
  | decode (detail : String)
  | invalidUrl (detail : String)
  deriving DecidableEq, Repr

def Fault.message : Fault → String
  | status code m => s!"solr returned {code}: {m}"
  | timeout d => s!"solr request timed out: {d}"
  | connect d => s!"failed to connect to solr: {d}"
  | request d => s!"solr request failed: {d}"
  | decode d => s!"invalid solr response: {d}"
  | invalidUrl d => s!"invalid solr url: {d}"

end SearchGateway.Backend
