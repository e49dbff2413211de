import KeyCustody.Proofs.Custody.Run
import KeyCustody.Service.Server

/-!
# What a request can do

A request submits a key piece if it posts a well-formed body to the unseal path and the gate lets
it pass (`Server.submitted?`). `Server.Handling` lists the three ways in which a request can be
handled: the gate rejects it, it is answered without touching the custody, or it submits a piece.
Every request is handled in one of them, so later proofs never open the server.
-/

namespace KeyCustody

namespace Request

/-- The path that a request asks for. -/
def path (request : Request) : String := Operation.pathOfTarget request.target

/-- The operation that the gate decides about. -/
def operation (request : Request) : String := Operation.ofPath request.path

/-- The text of a key piece in the body of a request, if the body is announced as JSON, is not too
long and has the form of an unseal request. -/
def shareText? (request : Request) : Option String :=
  if (request.contentType.map MediaType.isJson).getD false = true ∧
      request.body.length ≤ bodyLimit then
    (UnsealRequest.shareText request.body).toOption
  else none

/-- The piece that a request brings to the unseal path. -/
def piece? (request : Request) : Option KeyPiece :=
  if request.method = "POST" ∧ request.path = "/api/unseal" then
    request.shareText?.bind fun text => (KeyPiece.ofHexadecimal text).toOption
  else none

/-- A response with what every response to the request says beside its content. -/
def finish (request : Request) (response : Response) : Response :=
  { response with
    isHeadOnly := request.method = "HEAD"
    allow := Server.allowOf? request.method request.path }

theorem of_shareText? {request : Request} {text : String}
    (read : request.shareText? = some text) :
    (request.contentType.map MediaType.isJson).getD false = true ∧
      request.body.length ≤ bodyLimit ∧ UnsealRequest.shareText request.body = .ok text := by
  unfold shareText? at read
  split at read
  · rename_i readable
    refine ⟨readable.1, readable.2, ?_⟩
    cases shareText_eq : UnsealRequest.shareText request.body with
    | error fault => simp [shareText_eq, Except.toOption] at read
    | ok found => simpa [shareText_eq, Except.toOption] using read
  · cases read

end Request

namespace Server

/-- The piece that a request submits: the gate lets it pass, and it brings the piece. -/
def submitted? (server : Server) (request : Request) : Option KeyPiece :=
  if server.gate.rejection? server.custody.keystore request.operation = none then request.piece?
  else none

theorem submittedPiece_of_text {request : Request} {text : String}
    (read : request.shareText? = some text) :
    submittedPiece request =
      match KeyPiece.ofHexadecimal text with
      | .ok piece => .ok piece
      | .error error =>
        .error (.json 400 (.error "bad_request" ("invalid input: " ++ error.message))) := by
  rcases Request.of_shareText? read with ⟨isJson, notTooLong, shareText_eq⟩
  unfold submittedPiece
  rw [if_neg (by simp [isJson]), if_neg (Nat.not_lt.mpr notTooLong), shareText_eq]
  dsimp only
  cases KeyPiece.ofHexadecimal text <;> rfl

theorem exists_submittedPiece_eq_error {request : Request} (unread : request.shareText? = none) :
    ∃ response, submittedPiece request = .error response := by
  unfold Request.shareText? at unread
  unfold submittedPiece
  by_cases isJson : (request.contentType.map MediaType.isJson).getD false = true
  · by_cases tooLong : request.body.length > bodyLimit
    · exact ⟨_, by rw [if_neg (by simp [isJson]), if_pos tooLong]⟩
    · rw [if_pos ⟨isJson, Nat.not_lt.mp tooLong⟩] at unread
      rw [if_neg (by simp [isJson]), if_neg tooLong]
      cases shareText_eq : UnsealRequest.shareText request.body with
      | error fault => cases fault <;> exact ⟨_, rfl⟩
      | ok text => simp [shareText_eq, Except.toOption] at unread
  · exact ⟨_, by rw [if_pos (by simp [isJson])]⟩

/-- A post to the unseal path depends on its body only. -/
theorem actionOf_of_post (server : Server) {request : Request} (method_eq : request.method = "POST")
    (path_eq : request.path = "/api/unseal") :
    server.actionOf request request.path =
      match submittedPiece request with
      | .ok piece => .submit piece
      | .error response => .respond response := by
  have atUnseal : request.path = Operation.unsealPath := path_eq
  unfold actionOf methodsOf?
  cases submittedPiece request <;> simp [atUnseal, method_eq]

theorem exists_actionOf_eq_respond (server : Server) {request : Request}
    (other : ¬(request.method = "POST" ∧ request.path = "/api/unseal")) :
    ∃ response, server.actionOf request request.path = .respond response := by
  unfold actionOf methodsOf?
  by_cases atUnseal : request.path = Operation.unsealPath
  · have notPost : request.method ≠ "POST" := fun post => other ⟨post, atUnseal⟩
    refine ⟨.bare 405, ?_⟩
    simp [atUnseal, notPost]
  · by_cases atHealth : request.path = Operation.healthPath
    · rw [if_neg atUnseal, if_pos atHealth]
      dsimp only
      split
      · exact ⟨_, rfl⟩
      · exact ⟨_, rfl⟩
    · exact ⟨_, by rw [if_neg atUnseal, if_neg atHealth]⟩

/-- What a request asks for past the gate: to submit the piece that it brings, and else an answer.
-/
theorem actionOf_eq (server : Server) (request : Request) :
    (∃ piece, request.piece? = some piece ∧
        server.actionOf request request.path = .submit piece) ∨
      (request.piece? = none ∧
        ∃ response, server.actionOf request request.path = .respond response) := by
  by_cases post : request.method = "POST" ∧ request.path = "/api/unseal"
  · rw [Request.piece?, if_pos post, server.actionOf_of_post post.1 post.2]
    cases read : request.shareText? with
    | none =>
        rcases exists_submittedPiece_eq_error read with ⟨response, refused⟩
        rw [refused]
        exact Or.inr ⟨rfl, response, rfl⟩
    | some text =>
        rw [submittedPiece_of_text read, Option.bind_some]
        cases KeyPiece.ofHexadecimal text with
        | error error => exact Or.inr ⟨rfl, _, rfl⟩
        | ok piece => exact Or.inl ⟨piece, rfl, rfl⟩
  · rw [Request.piece?, if_neg post]
    exact Or.inr ⟨rfl, server.exists_actionOf_eq_respond post⟩

theorem body_submittedPiece {request : Request} {response : Response}
    (refused : submittedPiece request = .error response) (outcome : UnsealOutcome) :
    response.body ≠ some (.unsealed outcome) := by
  unfold submittedPiece at refused
  split at refused
  · cases refused
    simp [Response.bare]
  split at refused
  · cases refused
    simp [Response.bare]
  split at refused
  · cases refused
    simp [Response.bare]
  · cases refused
    simp [Response.bare]
  · split at refused
    · cases refused
      simp [ServerError.toResponse, CustodyError.isInternal, Response.json]
    · cases refused

theorem body_ne_unsealed {server : Server} {request : Request} {response : Response}
    (action_eq : server.actionOf request request.path = .respond response)
    (outcome : UnsealOutcome) : response.body ≠ some (.unsealed outcome) := by
  unfold actionOf at action_eq
  split at action_eq
  · cases action_eq
    simp [Response.json]
  split at action_eq
  · cases action_eq
    simp [Response.bare]
  split at action_eq
  · split at action_eq
    · cases action_eq
    · rename_i refused
      cases action_eq
      exact body_submittedPiece refused outcome
  · cases action_eq
    simp [Response.json]

/-- The ways in which a request can be handled: the response, the server and the store afterwards.
-/
inductive Handling (server : Server) (store : SharedStore) (request : Request) :
    Response → Server → SharedStore → Prop where
  | rejected {rejection : GateRejection}
      (refused : server.gate.rejection? server.custody.keystore request.operation =
        some rejection) :
      Handling server store request (request.finish (.ofRejection rejection)) server store
  | answered {response : Response}
      (admitted : server.gate.rejection? server.custody.keystore request.operation = none)
      (noPiece : request.piece? = none)
      (action_eq : server.actionOf request request.path = .respond response) :
      Handling server store request (request.finish response) server store
  | submitted {piece : KeyPiece}
      (admitted : server.gate.rejection? server.custody.keystore request.operation = none)
      (piece_eq : request.piece? = some piece) :
      Handling server store request
        (request.finish (.json 200 (.unsealed (server.custody.unsealWith piece store).1)))
        { server with custody := (server.custody.unsealWith piece store).2.1 }
        (server.custody.unsealWith piece store).2.2

/-- What stands behind the gate: the handler of the path and method, or the answer that there is
none. -/
def route (server : Server) (store : SharedStore) (request : Request) :
    Response × Server × SharedStore :=
  match server.actionOf request request.path with
  | .respond response => (request.finish response, server, store)
  | .submit piece =>
    let (outcome, custody, after) := server.custody.unsealWith piece store
    (request.finish (.json 200 (.unsealed outcome)), { server with custody }, after)

theorem handle_eq (server : Server) (store : SharedStore) (request : Request) :
    server.handle store request =
      match server.gate.rejection? server.custody.keystore request.operation with
      | some rejection => (request.finish (.ofRejection rejection), server, store)
      | none => server.route store request :=
  rfl

theorem handling_handle (server : Server) (store : SharedStore) (request : Request) :
    Handling server store request (server.handle store request).1 (server.handle store request).2.1
      (server.handle store request).2.2 := by
  rw [handle_eq]
  cases verdict : server.gate.rejection? server.custody.keystore request.operation with
  | some rejection => exact .rejected verdict
  | none =>
      dsimp only
      unfold route
      rcases server.actionOf_eq request with
        ⟨piece, piece_eq, action_eq⟩ | ⟨noPiece, response, action_eq⟩
      · rw [action_eq]
        exact .submitted verdict piece_eq
      · rw [action_eq]
        exact .answered verdict noPiece action_eq

end Server

end KeyCustody
