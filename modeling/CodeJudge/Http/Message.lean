import CodeJudge.Http.Percent
import CodeJudge.Json.Decoder

/-!
# Requests and answers

What travels between the programs of the pipeline, as far as they look at it. A server cuts the path of
a request at its slashes and decodes each part by itself, so that a slash inside a part can only have
been encoded. Bodies are JSON. A server reads no more of a body than its limit: a body that is longer,
one that is not declared to be JSON, and one that does not decode are the client's fault, and the client
is told which of them it is.
-/

namespace CodeJudge.Http

open Json (Value Decoder)

/-- The method of a request. -/
inductive Method
  | get
  | put
  | post
  | delete
  | other (name : String)
  deriving DecidableEq, Repr

/-- The method of a name. -/
def Method.ofText (name : String) : Method :=
  if name = "GET" then get
  else if name = "PUT" then put
  else if name = "POST" then post
  else if name = "DELETE" then delete
  else other name

/-- A request. -/
structure Request where
  method : Method
  /-- The path, and the query if there is one. -/
  target : String
  contentType : Option String := none
  body : Bytes := []
  /-- Whether the body comes in chunks, so that its length is not told before it. -/
  chunked : Bool := false
  deriving DecidableEq, Repr

/-- The content type of JSON. -/
def jsonType : String := "application/json"

/-- A request with a JSON body. -/
def Request.ofJson (method : Method) (target : String) (body : Value) : Request where
  method
  target
  contentType := some jsonType
  body := Utf8.encode body.render

/-- An answer as a server makes it. -/
structure Response where
  status : Nat
  body : Option Value := none

/-- An answer as a client gets it. -/
structure Received where
  status : Nat
  body : Bytes
  deriving DecidableEq, Repr

/-- What a client gets of an answer. -/
def Response.received (response : Response) : Received where
  status := response.status
  body := match response.body with
    | some value => Utf8.encode value.render
    | none => []

/-- Cuts a path at every slash; `held` is the part being read, latest character first. -/
def partsFrom (held : List Char) : List Char → List (List Char)
  | [] => [held.reverse]
  | c :: rest => if c = '/' then held.reverse :: partsFrom [] rest else partsFrom (c :: held) rest

/-- The parts of the path of a target, each decoded; none for a path that does not begin at the
root. -/
def partsOf (target : String) : Option (List String) :=
  match partsFrom [] (target.toList.takeWhile (· != '?')) with
  | [] :: parts => some (parts.map Percent.decode)
  | _ => none

/-- The answer for a path that leads nowhere, or with a method that it does not take. -/
def nowhere : Response := { status := 404 }

/-- An error that clients can act on. -/
inductive ApiError
  | invalidArgument (message : String)
  | notFound
  /-- Something that the server depends on has failed. -/
  | external
  /-- The server itself has failed. -/
  | internal
  deriving DecidableEq, Repr

namespace ApiError

/-- The status of the answer that carries an error. -/
def status : ApiError → Nat
  | invalidArgument _ => 400
  | notFound => 404
  | external | internal => 500

/-- The name of an error. -/
def reason : ApiError → String
  | invalidArgument _ => "ERR_INVALID_ARGUMENT"
  | notFound => "ERR_NOT_FOUND"
  | external => "ERR_EXTERNAL"
  | internal => "ERR_INTERNAL"

/-- The number of an error. -/
def code : ApiError → Int
  | invalidArgument _ => 1
  | notFound => 3
  | external => 5
  | internal => 6

/-- The answer that carries an error. -/
def response (error : ApiError) : Response where
  status := error.status
  body := some <| .object <| [("reason", .string error.reason), ("code", .int error.code)] ++
    match error with
    | invalidArgument message => [("message", .string message)]
    | _ => []

end ApiError

/-- Whether a content type is that of JSON, or of something built on it. -/
def isJsonType (text : String) : Bool :=
  let essence := (text.toList.takeWhile (· != ';')).filter fun c => c != ' ' && c != '\t'
  let subtype := ((essence.dropWhile (· != '/')).drop 1).map Char.toLower
  subtype = "json".toList || "+json".toList.reverse.isPrefixOf subtype.reverse

/-- Whether the body of a request is declared to be JSON. -/
def Request.isJson (request : Request) : Bool := (request.contentType.map isJsonType).getD false

/-- The length of the body, where it is told before the body. -/
def Request.length? (request : Request) : Option Nat :=
  if request.chunked then none else some request.body.length

/-- Why a body is not read. -/
inductive BodyError
  /-- It is not declared to be JSON. -/
  | contentType
  /-- It is longer than the limit. -/
  | tooLong (length : Option Nat) (limit : Nat)
  /-- It does not decode. -/
  | content (error : Json.DecodeError)
  deriving DecidableEq, Repr

/-- What is said of a body that is not read. -/
def BodyError.message : BodyError → String
  | contentType => "Content type error"
  | tooLong (some length) limit =>
    "JSON payload (" ++ number length ++ " bytes) is larger than allowed (limit: " ++ number limit
      ++ " bytes)."
  | tooLong none limit => "JSON payload has exceeded limit (" ++ number limit ++ " bytes)."
  | content error => "Json deserialize error: " ++ error.message
where
  number (n : Nat) : String := String.ofList (Decimal.digits n)

/-- The error that the client sees. -/
def BodyError.toApi (error : BodyError) : ApiError := .invalidArgument error.message

/-- How many bytes of a body a server reads that has not been set another limit. -/
def bodyLimit : Nat := 2097152

/-- Reads the body of a request, or refuses it. -/
def Request.decode {α : Type} (request : Request) (limit : Nat) (decode : Decoder α) :
    Except BodyError α :=
  if !request.isJson then .error .contentType
  else if limit < request.body.length then .error (.tooLong request.length? limit)
  else (Json.decodeBytes decode request.body).mapError .content

end CodeJudge.Http
