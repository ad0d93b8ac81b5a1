import TrucoPaulista.Refusal

namespace TrucoPaulista

namespace Status

def ok : Nat := 200

def created : Nat := 201

def switchingProtocols : Nat := 101

def badRequest : Nat := 400

def notFound : Nat := 404

def methodNotAllowed : Nat := 405

def conflict : Nat := 409

def upgradeRequired : Nat := 426

def internalError : Nat := 500

def unavailable : Nat := 503

end Status

/-- The status of a response to what is refused. -/
def Refusal.status : Refusal → Nat
  | .invalid _ => Status.badRequest
  | .matchNotFound _ | .archive (.notFound _) => Status.notFound
  | .game _ | .room _ => Status.conflict
  | .unavailable _ => Status.unavailable
  | .archive _ => Status.internalError

end TrucoPaulista
