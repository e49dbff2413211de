import KeyCustody.Proofs.Service.Run
import Mathlib.Data.List.DropRight

/-!
# What is served while sealed

The gate stands in front of every service (`Site.gated`): a request that it lets pass is handed on
as it is, and one that it turns away reaches no handler and not even the answer that there is
none. While no key is loaded the operations of the allow-list pass and nothing else; under the
default list these are the two known paths with any number of slashes after them, in exactly their
letter case.
-/

namespace KeyCustody

namespace Operation

/-- A number of slashes. -/
def slashes (count : Nat) : String := String.ofList (List.replicate count '/')

theorem rdropWhile_append_slashes (name : List Char) (count : Nat) :
    (name ++ List.replicate count '/').rdropWhile (· == '/') = name.rdropWhile (· == '/') := by
  induction count with
  | zero => rw [List.replicate_zero, List.append_nil]
  | succ count ih =>
      rw [List.replicate_succ', ← List.append_assoc, List.rdropWhile_concat_pos _ _ _ rfl]
      exact ih

/-- A path without the slashes at its end is a name if it is this name with slashes after it. -/
theorem dropSlashes_eq_iff {path name : String} (noSlash : name.toList.getLast? ≠ some '/') :
    dropSlashes path = name ↔ ∃ count, path = name ++ slashes count := by
  have dropSlashes_iff : dropSlashes path = name ↔
      path.toList.rdropWhile (· == '/') = name.toList := by
    rw [← String.toList_inj, dropSlashes, String.toList_ofList, List.rdropWhile]
  have append_iff : ∀ count, path = name ++ slashes count ↔
      path.toList = name.toList ++ List.replicate count '/' := by
    intro count
    rw [← String.toList_inj, String.toList_append, slashes, String.toList_ofList]
  simp only [dropSlashes_iff, append_iff]
  constructor
  · intro dropped
    have onlySlashes : path.toList.rtakeWhile (· == '/') =
        List.replicate (path.toList.rtakeWhile (· == '/')).length '/' := by
      rw [List.eq_replicate_iff]
      refine ⟨rfl, ?_⟩
      intro character character_mem
      simpa using List.mem_rtakeWhile_imp character_mem
    refine ⟨(path.toList.rtakeWhile (· == '/')).length, ?_⟩
    rw [← onlySlashes, ← dropped, List.rdropWhile_append_rtakeWhile]
  · rintro ⟨count, path_eq⟩
    rw [path_eq, rdropWhile_append_slashes, List.rdropWhile_eq_self_iff]
    intro nonempty isSlash
    rw [List.getLast?_eq_some_getLast nonempty] at noSlash
    exact noSlash (congrArg some (by simpa using isSlash))

theorem lowercase_ne_of_rooted {path word : String} (rooted : ∃ rest, path = "/" ++ rest)
    (noSlash : word.toList.head? ≠ some '/') : Text.lowercase path ≠ word := by
  rcases rooted with ⟨rest, rfl⟩
  rintro rfl
  apply noSlash
  simp [Text.lowercase]

/-- Of the paths only the two known ones name the operations of the default allow-list. -/
theorem lowercase_ofPath_iff {path : String} (rooted : ∃ rest, path = "/" ++ rest) :
    Text.lowercase (ofPath path) = "unseal" ∨ Text.lowercase (ofPath path) = "login" ↔
      dropSlashes path = unsealPath ∨ dropSlashes path = loginPath := by
  have unseal_eq : Text.lowercase "unseal" = "unseal" := by decide +kernel
  have login_eq : Text.lowercase "login" = "login" := by decide +kernel
  have unseal_rootless : "unseal".toList.head? ≠ some '/' := by decide +kernel
  have login_rootless : "login".toList.head? ≠ some '/' := by decide +kernel
  unfold ofPath
  dsimp only
  by_cases atUnseal : dropSlashes path = unsealPath
  · rw [if_pos atUnseal, unseal_eq]
    exact iff_of_true (Or.inl rfl) (Or.inl atUnseal)
  rw [if_neg atUnseal]
  by_cases atLogin : dropSlashes path = loginPath
  · rw [if_pos atLogin, login_eq]
    exact iff_of_true (Or.inr rfl) (Or.inr atLogin)
  · rw [if_neg atLogin]
    exact iff_of_false
      (not_or_intro (lowercase_ne_of_rooted rooted unseal_rootless)
        (lowercase_ne_of_rooted rooted login_rootless))
      (not_or_intro atUnseal atLogin)

theorem lowercase_ofPath_iff_slashes {path : String} (rooted : ∃ rest, path = "/" ++ rest) :
    Text.lowercase (ofPath path) = "unseal" ∨ Text.lowercase (ofPath path) = "login" ↔
      ∃ count, path = "/api/unseal" ++ slashes count ∨ path = "/api/login" ++ slashes count := by
  have unsealPath_end : unsealPath.toList.getLast? ≠ some '/' := by decide +kernel
  have loginPath_end : loginPath.toList.getLast? ≠ some '/' := by decide +kernel
  rw [lowercase_ofPath_iff rooted, dropSlashes_eq_iff unsealPath_end,
    dropSlashes_eq_iff loginPath_end, ← exists_or]
  rfl

end Operation

namespace SealGate

/-- The entries of an allow-list include an operation. Blanks around an entry and the case of
ASCII letters do not matter, and a blank entry allows nothing. -/
def Allows (allowList : List String) (operation : String) : Prop :=
  ∃ entry ∈ allowList, Text.lowercase (Text.trim entry) ≠ "" ∧
    Text.lowercase (Text.trim entry) = Text.lowercase operation

theorem isAllowed_iff {allowList : List String} {operation : String} :
    (ofAllowList allowList).isAllowed operation = true ↔ Allows allowList operation := by
  simp only [isAllowed, ofAllowList, List.contains_iff_mem, List.mem_filter, List.mem_map,
    decide_eq_true_eq, Allows]
  constructor
  · rintro ⟨⟨entry, entry_mem, same⟩, notBlank⟩
    rw [← same] at notBlank
    exact ⟨entry, entry_mem, notBlank, same⟩
  · rintro ⟨entry, entry_mem, notBlank, same⟩
    rw [same] at notBlank
    exact ⟨⟨entry, entry_mem, same⟩, notBlank⟩

theorem allows_default_iff {operation : String} :
    Allows defaultAllowList operation ↔
      Text.lowercase operation = "unseal" ∨ Text.lowercase operation = "login" := by
  have allowed_eq : (ofAllowList defaultAllowList).allowed = ["unseal", "login"] := by
    decide +kernel
  rw [← isAllowed_iff, isAllowed, allowed_eq]
  simp

/-- A gate with the seal check alone rejects what is not allowed until a key is loaded. -/
theorem rejection?_toCheck (gate : SealGate) (keystore : Keystore) (operation : String) :
    (⟨[gate.toCheck]⟩ : RequestGate).rejection? keystore operation =
      gate.verdict keystore operation := by
  simp only [RequestGate.rejection?, RequestGate.run, RequestGate.runChecks, toCheck]
  cases gate.verdict keystore operation <;> rfl

end SealGate

theorem Server.gate_of_start {configured : UInt8} {allowList : List String} {store : SharedStore}
    {server : Server} (started : Server.start configured allowList store = .ok server) :
    server.gate = ⟨[(SealGate.ofAllowList allowList).toCheck]⟩ := by
  unfold Server.start at started
  dsimp only at started
  split at started
  · cases started
    rfl
  · cases started
    rfl
  · cases started

namespace Site

/-- A service behind the gate of a site. -/
def gated (site : Site) (service : Request → Response × Site) (request : Request) :
    Response × Site :=
  match site.server.gate.rejection? site.server.custody.keystore request.operation with
  | some rejection => (request.finish (.ofRejection rejection), site)
  | none => service request

/-- The handlers of a site, and its answer to requests without one. -/
def routed (site : Site) (request : Request) : Response × Site :=
  let (response, server, store) := site.server.route site.store request
  (response, ⟨server, store⟩)

/-- The request is handed to whatever service stands behind the gate. -/
def PassesOn (site : Site) (request : Request) : Prop :=
  ∀ service, site.gated service request = service request

/-- Whatever service stands behind the gate, it does not get the request: this is the response, and
nothing changes. -/
def TurnsAway (site : Site) (request : Request) (response : Response) : Prop :=
  ∀ service, site.gated service request = (response, site)

theorem respond_eq_gated (site : Site) (request : Request) :
    site.respond request = site.gated site.routed request := by
  unfold respond gated routed
  rw [Server.handle_eq]
  cases site.server.gate.rejection? site.server.custody.keystore request.operation <;> rfl

theorem passesOn_iff {site : Site} {request : Request} :
    site.PassesOn request ↔
      site.server.gate.rejection? site.server.custody.keystore request.operation = none := by
  constructor
  · intro passesOn
    cases verdict : site.server.gate.rejection? site.server.custody.keystore request.operation with
    | none => rfl
    | some rejection =>
        have same := passesOn fun _ => (.bare (rejection.status + 1), site)
        have status_eq := congrArg (fun result => result.1.status) same
        simp [gated, verdict, Request.finish, Response.ofRejection, Response.json, Response.bare]
          at status_eq
  · intro admitted service
    rw [gated, admitted]

theorem turnsAway_of_rejection {site : Site} {request : Request} {rejection : GateRejection}
    (refused : site.server.gate.rejection? site.server.custody.keystore request.operation =
      some rejection) :
    site.TurnsAway request (request.finish (.ofRejection rejection)) := by
  intro service
  rw [gated, refused]

section

variable {site : Site} {request : Request} {allowList : List String}

theorem passesOn_iff_allows
    (gate_eq : site.server.gate = ⟨[(SealGate.ofAllowList allowList).toCheck]⟩)
    (locked : site.server.custody.keystore.isLoaded = false) :
    site.PassesOn request ↔ SealGate.Allows allowList request.operation := by
  rw [passesOn_iff, gate_eq, SealGate.rejection?_toCheck, SealGate.verdict, locked,
    ← SealGate.isAllowed_iff]
  cases (SealGate.ofAllowList allowList).isAllowed request.operation <;> simp

theorem turnsAway_of_not_allows
    (gate_eq : site.server.gate = ⟨[(SealGate.ofAllowList allowList).toCheck]⟩)
    (locked : site.server.custody.keystore.isLoaded = false)
    (notAllowed : ¬SealGate.Allows allowList request.operation) :
    site.TurnsAway request (request.finish (.json 503 (.error "sealed" "server is sealed"))) := by
  rw [← SealGate.isAllowed_iff, Bool.not_eq_true] at notAllowed
  have refused : site.server.gate.rejection? site.server.custody.keystore request.operation =
      some .serverSealed := by
    rw [gate_eq, SealGate.rejection?_toCheck, SealGate.verdict, locked, notAllowed]
    rfl
  exact turnsAway_of_rejection refused

theorem passesOn_of_isLoaded
    (gate_eq : site.server.gate = ⟨[(SealGate.ofAllowList allowList).toCheck]⟩)
    (loaded : site.server.custody.keystore.isLoaded = true) : site.PassesOn request := by
  rw [passesOn_iff, gate_eq, SealGate.rejection?_toCheck, SealGate.verdict, loaded, Bool.or_true]
  rfl

end

@[simp]
theorem gate_afterAll (site : Site) (events : List Event) :
    (site.afterAll events).server.gate = site.server.gate := by
  induction events generalizing site with
  | nil => rfl
  | cons event rest ih =>
      rw [afterAll, List.foldl_cons, ← afterAll, ih, gate_after]

/-- A loaded key stays loaded until it is wiped, whatever else happens to the site. -/
theorem isLoaded_afterAll {site : Site} (loaded : site.vault.custody.keystore.isLoaded = true)
    {events : List Event} (noWipe : .meanwhile .wipe ∉ events) :
    (site.afterAll events).vault.custody.keystore.isLoaded = true := by
  induction events generalizing site with
  | nil => exact loaded
  | cons event rest ih =>
      rw [List.mem_cons, not_or] at noWipe
      rcases noWipe with ⟨notWipe, noWipe⟩
      refine ih ?_ noWipe
      rw [vault_after]
      cases call_eq : site.server.gate.call? site.vault event with
      | none => exact loaded
      | some call =>
          have callNotWipe : call ≠ .wipe := by
            rcases RequestGate.of_call? call_eq with ⟨piece, rfl⟩ | rfl
            · simp
            · rintro rfl
              exact notWipe rfl
          dsimp only
          rw [Vault.keystore_after_of_isLoaded loaded callNotWipe]
          exact loaded

/-- Once a server has started, whatever has happened to it since: while no key is loaded, a
request whose operation is not on the allow-list is turned away and every other one is handed on,
and with the default list those handed on are the two known paths with slashes after them. From
the moment a key is loaded every request is handed on, until it is wiped. -/
theorem sealed_site_serves_allowed_only {configured : UInt8} {allowList : List String}
    {store : SharedStore} {server : Server}
    (started : Server.start configured allowList store = .ok server) (events : List Event)
    (request : Request) :
    let site := (⟨server, store⟩ : Site).afterAll events
    site.respond request = site.gated site.routed request ∧
    (site.server.custody.keystore.isLoaded = false →
      (¬SealGate.Allows allowList request.operation →
        site.TurnsAway request (request.finish (.json 503 (.error "sealed" "server is sealed")))) ∧
      (SealGate.Allows allowList request.operation → site.PassesOn request) ∧
      (allowList = SealGate.defaultAllowList → (∃ rest, request.path = "/" ++ rest) →
        (site.PassesOn request ↔ ∃ count, request.path = "/api/unseal" ++ Operation.slashes count ∨
          request.path = "/api/login" ++ Operation.slashes count))) ∧
    (site.server.custody.keystore.isLoaded = true → ∀ later, .meanwhile .wipe ∉ later →
      (site.afterAll later).PassesOn request) := by
  intro site
  have gate_eq : site.server.gate = ⟨[(SealGate.ofAllowList allowList).toCheck]⟩ := by
    rw [gate_afterAll, Server.gate_of_start started]
  refine ⟨site.respond_eq_gated request, ?_, ?_⟩
  · intro locked
    refine ⟨turnsAway_of_not_allows gate_eq locked, ?_, ?_⟩
    · exact (passesOn_iff_allows gate_eq locked).mpr
    · rintro rfl rooted
      rw [passesOn_iff_allows gate_eq locked, SealGate.allows_default_iff]
      exact Operation.lowercase_ofPath_iff_slashes rooted
  · intro loaded later noWipe
    have stillLoaded := isLoaded_afterAll loaded noWipe
    exact passesOn_of_isLoaded ((site.gate_afterAll later).trans gate_eq) stillLoaded

/-- Slashes after a known path do not matter, and its letter case does. A path that was turned
away is served once a key is loaded. -/
theorem sealed_site_serves_allowed_only_from_start :
    let server : Server :=
      ⟨Custody.start 2, ⟨[(SealGate.ofAllowList SealGate.defaultAllowList).toCheck]⟩⟩
    let site : Site := ⟨server, SharedStore.ofStore (.memory none)⟩
    let get (target : String) : Request := ⟨"GET", target, none, []⟩
    site.PassesOn (get "/api/login//?next=/") ∧
      site.TurnsAway (get "/API/unseal")
        ⟨503, some (.error "sealed" "server is sealed"), false, none⟩ ∧
      ((site.after (.meanwhile (.load (List.replicate 32 7)))).after
        (.request (get "/health"))).PassesOn (get "/API/unseal") := by
  intro server site get
  have started : Server.start 2 SealGate.defaultAllowList (SharedStore.ofStore (.memory none)) =
      .ok server := rfl
  have loadedSite := sealed_site_serves_allowed_only started
    [.meanwhile (.load (List.replicate 32 7))] (get "/API/unseal")
  refine ⟨?_, ?_, ?_⟩
  · have serves := sealed_site_serves_allowed_only started [] (get "/api/login//?next=/")
    refine ((serves.2.1 rfl).2.2 rfl ⟨"api/login//", ?_⟩).mpr ⟨2, Or.inr ?_⟩
    · decide +kernel
    · decide +kernel
  · have serves := sealed_site_serves_allowed_only started [] (get "/API/unseal")
    have finished : (get "/API/unseal").finish (.json 503 (.error "sealed" "server is sealed")) =
        ⟨503, some (.error "sealed" "server is sealed"), false, none⟩ := by decide +kernel
    rw [← finished]
    apply (serves.2.1 rfl).1
    rw [← SealGate.isAllowed_iff]
    decide +kernel
  · exact loadedSite.2.2 rfl [.request (get "/health")] (by simp)

end Site

end KeyCustody
