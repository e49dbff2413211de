import KeyCustody.Proofs.Service.Routing

/-!
# Requests are submissions

A site is a server at work, with the store that it uses. Requests come in, and between them other
calls may reach the custody and the store may fail or change. Seen from the vault behind the gate
nothing but calls happens: a request that submits a piece is the submission of this piece, every
other request is no call at all, and which of them submit one depends on the vault at that moment
alone (`callsAmong`).
-/

namespace KeyCustody

/-- A server at work, with the store that it uses. -/
structure Site where
  server : Server
  store : SharedStore

/-- What happens to a site. -/
inductive Event where
  | request (request : Request)
  /-- A call that no request makes, or something that happens to the store. -/
  | meanwhile (call : Call)

namespace Site

/-- What the requests to a site reach in the end: its custody, with the store. -/
def vault (site : Site) : Vault := ⟨site.server.custody, site.store⟩

/-- Handles a request: the response, and the site afterwards. -/
def respond (site : Site) (request : Request) : Response × Site :=
  let (response, server, store) := site.server.handle site.store request
  (response, ⟨server, store⟩)

/-- The site with another vault behind its gate. -/
def withVault (site : Site) (vault : Vault) : Site :=
  ⟨{ site.server with custody := vault.custody }, vault.store⟩

def after (site : Site) : Event → Site
  | .request request => (site.respond request).2
  | .meanwhile call => site.withVault (site.vault.after call)

def afterAll (site : Site) (events : List Event) : Site := events.foldl after site

end Site

namespace RequestGate

/-- The piece that a request submits past a gate to a vault. -/
def submittedTo? (gate : RequestGate) (vault : Vault) (request : Request) : Option KeyPiece :=
  (⟨vault.custody, gate⟩ : Server).submitted? request

/-- The call that an event is to a vault behind a gate, if it is one. -/
def call? (gate : RequestGate) (vault : Vault) : Event → Option Call
  | .request request => (gate.submittedTo? vault request).map Call.submit
  | .meanwhile call => some call

/-- An event is no call but itself or a submission. -/
theorem of_call? {gate : RequestGate} {vault : Vault} {event : Event} {call : Call}
    (call_eq : gate.call? vault event = some call) :
    (∃ piece, call = .submit piece) ∨ event = .meanwhile call := by
  cases event with
  | request request =>
      rcases Option.map_eq_some_iff.mp call_eq with ⟨piece, _, rfl⟩
      exact Or.inl ⟨piece, rfl⟩
  | meanwhile other =>
      cases call_eq
      exact Or.inr rfl

/-- The calls that events are to a vault behind a gate, in their order. -/
def callsAmong (gate : RequestGate) : Vault → List Event → List Call
  | _, [] => []
  | vault, event :: rest =>
    match gate.call? vault event with
    | some call => call :: gate.callsAmong (vault.after call) rest
    | none => gate.callsAmong vault rest

end RequestGate

namespace Site

variable {site : Site} {request : Request} {piece : KeyPiece}

/-- A request that submits a piece is answered with what became of the piece, and does nothing
else. -/
theorem respond_of_submitted (submitted : site.server.submitted? request = some piece) :
    site.respond request =
      (request.finish (.json 200 (.unsealed (site.vault.submit piece).1)),
        site.withVault (site.vault.submit piece).2) := by
  have handling := site.server.handling_handle site.store request
  unfold respond
  generalize site.server.handle site.store request = result at handling ⊢
  rcases result with ⟨response, server, store⟩
  unfold Server.submitted? at submitted
  cases handling with
  | rejected refused => simp [refused] at submitted
  | answered admitted noPiece => simp [admitted, noPiece] at submitted
  | submitted admitted piece_eq =>
      rw [if_pos admitted, piece_eq] at submitted
      cases submitted
      rfl

/-- A request that submits no piece changes nothing. -/
theorem respond_of_not_submitted (notSubmitted : site.server.submitted? request = none) :
    (site.respond request).2 = site := by
  have handling := site.server.handling_handle site.store request
  unfold respond
  generalize site.server.handle site.store request = result at handling ⊢
  rcases result with ⟨response, server, store⟩
  unfold Server.submitted? at notSubmitted
  cases handling with
  | rejected => rfl
  | answered => rfl
  | submitted admitted piece_eq => simp [admitted, piece_eq] at notSubmitted

/-- Nothing but the submission of a piece is answered with an outcome. -/
theorem exists_submitted {outcome : UnsealOutcome}
    (body_eq : (site.respond request).1.body = some (.unsealed outcome)) :
    ∃ piece, site.server.submitted? request = some piece ∧
      outcome = (site.vault.submit piece).1 := by
  cases submitted : site.server.submitted? request with
  | some piece =>
      rw [respond_of_submitted submitted] at body_eq
      exact ⟨piece, rfl, (ResponseBody.unsealed.inj (Option.some.inj body_eq)).symm⟩
  | none =>
      have handling := site.server.handling_handle site.store request
      unfold respond at body_eq
      generalize site.server.handle site.store request = result at handling body_eq
      rcases result with ⟨response, server, store⟩
      unfold Server.submitted? at submitted
      cases handling with
      | rejected => simp [Response.ofRejection, Response.json] at body_eq
      | answered _ _ action_eq => exact absurd body_eq (Server.body_ne_unsealed action_eq outcome)
      | submitted admitted piece_eq => simp [admitted, piece_eq] at submitted

/-- The text of no piece is reported to whoever posts it past the gate. -/
theorem respond_of_badText {text : String} {error : KeyPieceError}
    (admitted : site.server.gate.rejection? site.server.custody.keystore request.operation = none)
    (method_eq : request.method = "POST") (path_eq : request.path = "/api/unseal")
    (read : request.shareText? = some text) (bad : KeyPiece.ofHexadecimal text = .error error) :
    (site.respond request).1 =
      request.finish (.json 400 (.error "bad_request" ("invalid input: " ++ error.message))) := by
  rw [respond, Server.handle_eq, admitted]
  dsimp only
  rw [Server.route, site.server.actionOf_of_post method_eq path_eq,
    Server.submittedPiece_of_text read, bad]

@[simp]
theorem gate_after (site : Site) (event : Event) :
    (site.after event).server.gate = site.server.gate := by
  cases event with
  | meanwhile call => rfl
  | request request =>
      cases submitted : site.server.submitted? request with
      | none => rw [after, respond_of_not_submitted submitted]
      | some piece =>
          rw [after, respond_of_submitted submitted]
          rfl

theorem vault_after (site : Site) (event : Event) :
    (site.after event).vault =
      match site.server.gate.call? site.vault event with
      | some call => site.vault.after call
      | none => site.vault := by
  cases event with
  | meanwhile call => rfl
  | request request =>
      rw [after, RequestGate.call?, RequestGate.submittedTo?]
      change _ = match (site.server.submitted? request).map Call.submit with
        | some call => site.vault.after call
        | none => site.vault
      cases submitted : site.server.submitted? request with
      | none => rw [respond_of_not_submitted submitted]; rfl
      | some piece => rw [respond_of_submitted submitted]; rfl

/-- Behind the gate events are the calls among them. -/
theorem vault_afterAll (site : Site) (events : List Event) :
    (site.afterAll events).vault =
      (site.server.gate.callsAmong site.vault events).foldl Vault.after site.vault := by
  induction events generalizing site with
  | nil => rfl
  | cons event rest ih =>
      rw [afterAll, List.foldl_cons, ← afterAll, ih, gate_after, vault_after,
        RequestGate.callsAmong]
      cases site.server.gate.call? site.vault event <;> rfl

/-- What a request to a site is answered, and what it does. -/
structure Served (site : Site) (request : Request) : Prop where
  submission : ∀ piece, site.server.submitted? request = some piece →
    (site.respond request).1.status = 200 ∧
      (site.respond request).1.body = some (.unsealed (site.vault.submit piece).1) ∧
      (site.respond request).2.vault = (site.vault.submit piece).2
  untouched : site.server.submitted? request = none → (site.respond request).2 = site
  /-- A text that is no key piece is reported, also to those who are late. -/
  badText : site.server.gate.rejection? site.server.custody.keystore request.operation = none →
    request.method = "POST" → request.path = "/api/unseal" →
    ∀ text error, request.shareText? = some text → KeyPiece.ofHexadecimal text = .error error →
    (site.respond request).1.status = 400 ∧
      (site.respond request).1.body =
        some (.error "bad_request" ("invalid input: " ++ error.message))

theorem served (site : Site) (request : Request) : site.Served request where
  submission piece submitted := by
    rw [respond_of_submitted submitted]
    exact ⟨rfl, rfl, rfl⟩
  untouched := respond_of_not_submitted
  badText admitted method_eq path_eq text error read bad := by
    rw [respond_of_badText admitted method_eq path_eq read bad]
    exact ⟨rfl, rfl⟩

/-- Whatever requests come to a site and whatever happens between them, its custody and store are
those of a vault to which the pieces were submitted that came with admitted and well-formed posts
to the unseal path, in their order; each of these posts is answered with what became of its piece,
and no other request changes anything. -/
theorem requests_are_submissions (site : Site) (events : List Event) :
    (site.afterAll events).vault =
      (site.server.gate.callsAmong site.vault events).foldl Vault.after site.vault ∧
    ∀ earlier request later, events = earlier ++ .request request :: later →
      (site.afterAll earlier).Served request :=
  ⟨site.vault_afterAll events, fun earlier request _ _ => (site.afterAll earlier).served request⟩

/-- Of four requests only the second one submits a piece. A text that is no key piece is reported
even after someone has unsealed the server. -/
theorem requests_are_submissions_amid_others :
    let first : KeyPiece := ⟨1, List.replicate 32 5, by decide, by decide⟩
    let post (target text : String) : Request := ⟨"POST", target, some "application/json",
      ByteString.ofText ("\x7b\"share\":\"" ++ text ++ "\"\x7d")⟩
    let site : Site :=
      ⟨⟨Custody.start 2, ⟨[(SealGate.ofAllowList SealGate.defaultAllowList).toCheck]⟩⟩,
        SharedStore.ofStore (.memory none)⟩
    let events : List Event := [.request ⟨"GET", "/health", none, []⟩,
      .request (post "/api/unseal?first" first.toHexadecimal),
      .request (post "/api/unseal/" first.toHexadecimal),
      .meanwhile (.load (List.replicate 32 7)), .request ⟨"GET", "/health", none, []⟩]
    (site.server.gate.callsAmong site.vault events).map Call.piece? = [some first, none] ∧
      (site.afterAll events).vault.custody = ⟨⟨some (List.replicate 32 7)⟩, ⟨2, [first]⟩⟩ ∧
      ((site.afterAll events).respond (post "/api/unseal" "stray")).1.status = 400 := by
  intro first post site events
  have calls_eq := (requests_are_submissions site events).1
  have later := requests_are_submissions site (events ++ [.request (post "/api/unseal" "stray")])
  have served := later.2 events (post "/api/unseal" "stray") [] rfl
  refine ⟨by decide +kernel, ?_, ?_⟩
  · rw [calls_eq]
    decide +kernel
  · exact (served.badText (by decide +kernel) rfl (by decide +kernel) "stray" .notHexadecimal
      (by decide +kernel) (by decide +kernel)).1

end Site

end KeyCustody
