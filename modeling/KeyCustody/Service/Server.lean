import KeyCustody.Custody
import KeyCustody.Gate
import KeyCustody.Service.MediaType
import KeyCustody.Service.Operation
import KeyCustody.Service.UnsealRequest

/-!
# The server

Requests reach the custody of the root key through here: past the gate, by path and method, and with a
well-formed body. A response is a status code and a body; only the submission of a key piece changes
anything.
-/

namespace KeyCustody

/-- What a server error says: the request is at fault, or the operation on the root key failed. -/
inductive ServerError where
  | badRequest (reason : String)
  | custody (error : CustodyError)
deriving DecidableEq, Repr

/-- The body of a response. -/
inductive ResponseBody where
  | error (code message : String)
  | health (isSealed : Bool)
  | unsealed (outcome : UnsealOutcome)
deriving DecidableEq, Repr

/-- A response. -/
structure Response where
  status : Nat
  body : Option ResponseBody
  /-- Whether the body is left out because only the head was asked for. -/
  isHeadOnly : Bool
  /-- The methods that the path has, where the method is not among them. -/
  allow : Option String
deriving DecidableEq, Repr

namespace Response

/-- A response with a body. -/
def json (status : Nat) (body : ResponseBody) : Response := ⟨status, some body, false, none⟩

/-- A response whose body is not JSON. -/
def bare (status : Nat) : Response := ⟨status, none, false, none⟩

/-- The response to a request that the gate refuses. -/
def ofRejection (rejection : GateRejection) : Response :=
  json rejection.status (.error rejection.code rejection.message)

end Response

namespace ServerError

/-- The wording of the error. -/
def message : ServerError → String
  | badRequest reason => "Invalid request: " ++ reason
  | custody error => error.message

/-- The code word of an error of the custody that callers may see. -/
def codeWord : CustodyError → String
  | .invalidInput _ => "bad_request"
  | .notFound _ => "not_found"
  | .conflict _ => "conflict"
  | .notReady _ => "sealed"
  | _ => "error"

/-- The response that reports the error. What is the server's own fault is not shown. -/
def toResponse : ServerError → Response
  | badRequest reason => .json 400 (.error "bad_request" reason)
  | custody error =>
    if error.isInternal then
      .json error.status (.error "internal_error" "An internal error occurred")
    else .json error.status (.error (codeWord error) error.message)

end ServerError

/-- A request. -/
structure Request where
  method : String
  target : String
  contentType : Option String
  body : ByteString
deriving DecidableEq, Repr

/-- The most bytes that a request body may have. -/
def bodyLimit : Nat := 2097152

/-- A running server: its custody state, and the seal check with its allow-list. -/
structure Server where
  custody : Custody
  gate : RequestGate

namespace Server

/-- A server over a store. The threshold is the recorded one; the configured one is used only while no
root key is recorded. -/
def start (configured : UInt8) (allowList : List String) (store : SharedStore) :
    Except CustodyError Server :=
  let gate : RequestGate := ⟨[(SealGate.ofAllowList allowList).toCheck]⟩
  match store.fetchSharing with
  | .ok sharing => .ok ⟨Custody.start sharing.threshold, gate⟩
  | .error (.notFound _) => .ok ⟨Custody.start configured, gate⟩
  | .error error => .error error

/-- The methods of a path that has a handler. -/
def methodsOf? (path : String) : Option (List String) :=
  if path = Operation.unsealPath then some ["POST"]
  else if path = Operation.healthPath then some ["GET", "HEAD"]
  else none

/-- The methods to name in a response, where the path has a handler but not for this method. -/
def allowOf? (method path : String) : Option String :=
  match methodsOf? path with
  | some methods => if methods.contains method then none else some (",".intercalate methods)
  | none => none

/-- What the body of a submission says, or the response that refuses it. -/
def submittedPiece (request : Request) : Except Response KeyPiece :=
  if !(request.contentType.map MediaType.isJson).getD false then .error (.bare 415)
  else if request.body.length > bodyLimit then .error (.bare 413)
  else
    match UnsealRequest.shareText request.body with
    | .error .malformed => .error (.bare 400)
    | .error .misshapen => .error (.bare 422)
    | .ok text =>
      match KeyPiece.ofHexadecimal text with
      | .error error => .error (ServerError.custody (.invalidInput error.message)).toResponse
      | .ok piece => .ok piece

/-- What a request asks for once it is past the gate. -/
inductive Action where
  | submit (piece : KeyPiece)
  /-- The request is answered without touching the custody. -/
  | respond (response : Response)

/-- The action of a request that the gate lets pass. -/
def actionOf (server : Server) (request : Request) (path : String) : Action :=
  match methodsOf? path with
  | none => .respond (.json 404 (.error "not_found" "no such route"))
  | some methods =>
    if !methods.contains request.method then .respond (.bare 405)
    else if path = Operation.unsealPath then
      match submittedPiece request with
      | .ok piece => .submit piece
      | .error response => .respond response
    else .respond (.json 200 (.health (server.custody.status = .locked)))

/-- Handles a request: the response, and the server and the store afterwards. -/
def handle (server : Server) (store : SharedStore) (request : Request) :
    Response × Server × SharedStore :=
  let path := Operation.pathOfTarget request.target
  let finish (response : Response) : Response :=
    { response with
      isHeadOnly := request.method = "HEAD"
      allow := allowOf? request.method path }
  match server.gate.rejection? server.custody.keystore (Operation.ofPath path) with
  | some rejection => (finish (.ofRejection rejection), server, store)
  | none =>
    match server.actionOf request path with
    | .respond response => (finish response, server, store)
    | .submit piece =>
      let (outcome, custody, after) := server.custody.unsealWith piece store
      (finish (.json 200 (.unsealed outcome)), { server with custody }, after)

end Server

end KeyCustody
