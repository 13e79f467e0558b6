import CodeJudge.Http.Message

/-!
# The network

How a request gets to a server and its answer back. A transport is whatever sends requests, acting on
a world `W`; a network says whether programs can reach each other at all.
-/

namespace CodeJudge.Http

/-- What sends requests to an address. -/
structure Transport (W : Type) where
  send : (authority : String) → Request → StateM W (Except String Received)

/-- What is said of a request that reached nobody. -/
def unreachable : String := "error sending request"

/-- A transport that reaches nobody. -/
def Transport.isolated {W : Type} : Transport W where
  send _ _ := return .error unreachable

/-- A transport to one server, whatever the address; the server may give no answer. -/
def Transport.ofServer {W : Type} (serve : Request → StateM W (Option Response)) : Transport W where
  send _ request := do
    match ← serve request with
    | some response => return .ok response.received
    | none => return .error unreachable

/-- How programs on one machine are connected. -/
inductive Network
  /-- No program can reach another. -/
  | isolated
  /-- Every program can reach every server. -/
  | loopback
  deriving DecidableEq, Repr

/-- What is left of a transport over a network. -/
def Network.transport {W : Type} (network : Network) (transport : Transport W) : Transport W :=
  match network with
  | .isolated => .isolated
  | .loopback => transport

/-- The answer that is got, or what is said of one that is an error by its status. -/
def Received.accept (received : Received) : Except String Bytes :=
  if 400 ≤ received.status && received.status < 500 then .error "HTTP status client error"
  else if 500 ≤ received.status && received.status < 600 then .error "HTTP status server error"
  else .ok received.body

end CodeJudge.Http
