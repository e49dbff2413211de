import KeyCustody.Keystore
import KeyCustody.Proofs.WrappedKey
import Mathlib.Data.List.DropRight
import Mathlib.Data.List.Induction

/-!
# The life of a keystore

Root keys are loaded into a keystore and wiped, copied out and used for wrapping, in any order. The
key that it holds is always the first one that was loaded since the last wipe. A key that was wrapped
at some point can be unwrapped at every later point at which the same root key is held, whatever
happened in between.
-/

namespace KeyCustody

namespace Keystore

/-- What a keystore can be asked for. -/
inductive Request where
  | load (rootKey : ByteString)
  | get
  | isLoaded
  | wipe
  | wrap (key : ByteString)
  | unwrap (wrapped : WrappedKey)

namespace Request

def isWipe : Request → Bool
  | wipe => true
  | _ => false

/-- The root key that a request loads, if none is loaded yet. -/
def rootKey? : Request → Option ByteString
  | load rootKey => some rootKey
  | _ => none

end Request

/-- What a keystore answers when nothing goes wrong. -/
inductive Answer where
  | done
  | status (isLoaded : Bool)
  | key (bytes : ByteString)
  | wrapped (wrapped : WrappedKey)

/-- The answer to callers, given the outcome of an operation. -/
def answerOf {Value : Type} (answer : Value → Answer) :
    Except KeystoreError Value → Except CustodyError Answer
  | .ok value => .ok (answer value)
  | .error error => .error error.toCustodyError

/-- A keystore in use, with the random bytes from which it draws its nonces. -/
structure InUse (Supply : Type) where
  keystore : Keystore
  supply : Supply

/-- The first root key that was loaded since the last wipe. -/
def firstLoaded? (requests : List Request) : Option ByteString :=
  (requests.rtakeWhile fun request => !request.isWipe).findSome? Request.rootKey?

theorem firstLoaded?_append_wipe (earlier : List Request) :
    firstLoaded? (earlier ++ [.wipe]) = none := by
  rw [firstLoaded?, List.rtakeWhile_concat_neg _ _ _ (by simp [Request.isWipe])]
  rfl

theorem firstLoaded?_append {request : Request} (notWipe : request.isWipe = false)
    (earlier : List Request) :
    firstLoaded? (earlier ++ [request]) = (firstLoaded? earlier).or request.rootKey? := by
  rw [firstLoaded?, List.rtakeWhile_concat_pos _ _ _ (by simp [notWipe]), List.findSome?_append,
    List.findSome?_singleton, ← firstLoaded?]

section

variable {keystore : Keystore} {rootKey : ByteString}

theorem wrapWithRootKey_of_some {Supply : Type} [ByteSupply Supply]
    (held : keystore.rootKey = some rootKey) (key : ByteString) (supply : Supply) :
    keystore.wrapWithRootKey key supply =
      ((WrappedKey.wrap rootKey key supply).1.mapError .key,
        (WrappedKey.wrap rootKey key supply).2) := by
  rw [wrapWithRootKey, held]
  dsimp only
  rcases WrappedKey.wrap rootKey key supply with ⟨_ | _, left⟩ <;> rfl

theorem unwrapWithRootKey_of_some (held : keystore.rootKey = some rootKey)
    (wrapped : WrappedKey) :
    keystore.unwrapWithRootKey wrapped = (wrapped.unwrap rootKey).mapError .key := by
  rw [unwrapWithRootKey, held]
  dsimp only
  cases wrapped.unwrap rootKey <;> rfl

end

namespace InUse

variable {Supply : Type} [ByteSupply Supply]

/-- A keystore that has never been used. -/
def start (supply : Supply) : InUse Supply := ⟨Keystore.empty, supply⟩

/-- The answer to a request. -/
def answer (used : InUse Supply) : Request → Except CustodyError Answer
  | .load rootKey => answerOf (fun _ => .done) (used.keystore.load rootKey)
  | .get => answerOf .key used.keystore.get
  | .isLoaded => .ok (.status used.keystore.isLoaded)
  | .wipe => .ok .done
  | .wrap key => answerOf .wrapped (used.keystore.wrapWithRootKey key used.supply).1
  | .unwrap wrapped => answerOf .key (used.keystore.unwrapWithRootKey wrapped)

/-- The keystore after a request, and the random bytes that are left. -/
def after (used : InUse Supply) : Request → InUse Supply
  | .load rootKey =>
    match used.keystore.load rootKey with
    | .ok keystore => { used with keystore }
    | .error _ => used
  | .get => used
  | .isLoaded => used
  | .wipe => { used with keystore := used.keystore.wipe }
  | .wrap key => { used with supply := (used.keystore.wrapWithRootKey key used.supply).2 }
  | .unwrap _ => used

def afterAll (used : InUse Supply) (requests : List Request) : InUse Supply :=
  requests.foldl after used

/-- A request other than a wipe leaves a held key as it is, and without one it loads its own. -/
theorem rootKey_after {request : Request} (notWipe : request.isWipe = false)
    (used : InUse Supply) :
    (used.after request).keystore.rootKey = used.keystore.rootKey.or request.rootKey? := by
  cases request with
  | load rootKey =>
      rw [after, load]
      cases held : used.keystore.rootKey with
      | none => rfl
      | some other => exact held
  | wipe => cases notWipe
  | _ => exact Option.or_none.symm

/-- A keystore holds the first key that was loaded into it since it was last wiped. -/
theorem rootKey_afterAll (supply : Supply) (requests : List Request) :
    ((start supply).afterAll requests).keystore.rootKey = firstLoaded? requests := by
  induction requests using List.reverseRecOn with
  | nil => rfl
  | append_singleton earlier request ih =>
      rw [afterAll, List.foldl_concat, ← afterAll]
      cases isWipe : request.isWipe with
      | false => rw [rootKey_after isWipe, ih, firstLoaded?_append isWipe]
      | true =>
          cases request with
          | wipe => rw [firstLoaded?_append_wipe]; rfl
          | _ => cases isWipe

section

variable {used : InUse Supply} {rootKey key : ByteString} {wrapped : WrappedKey}

/-- A request that fails leaves everything as it is. -/
theorem after_of_answer_error {request : Request} {error : CustodyError}
    (failed : used.answer request = .error error) : used.after request = used := by
  cases request with
  | load rootKey =>
      rw [answer] at failed
      rw [after]
      cases loaded : used.keystore.load rootKey with
      | ok keystore => simp [loaded, answerOf] at failed
      | error error => rfl
  | wipe => cases failed
  | wrap key =>
      rw [answer] at failed
      rw [after]
      cases held : used.keystore.rootKey with
      | none => rw [wrapWithRootKey, held]
      | some rootKey =>
          rw [wrapWithRootKey_of_some held] at failed ⊢
          cases outcome : (WrappedKey.wrap rootKey key used.supply).1 with
          | ok wrapped => simp [outcome, answerOf, Except.mapError] at failed
          | error error => rw [WrappedKey.supply_of_wrap_error outcome]
  | _ => rfl

/-- Only a held root key wraps. -/
theorem exists_wrap_eq (wrapped_eq : used.answer (.wrap key) = .ok (.wrapped wrapped)) :
    ∃ rootKey, used.keystore.rootKey = some rootKey ∧
      (WrappedKey.wrap rootKey key used.supply).1 = .ok wrapped := by
  rw [answer] at wrapped_eq
  cases held : used.keystore.rootKey with
  | none => simp [wrapWithRootKey, held, answerOf] at wrapped_eq
  | some rootKey =>
      rw [wrapWithRootKey_of_some held] at wrapped_eq
      refine ⟨rootKey, rfl, ?_⟩
      cases outcome : (WrappedKey.wrap rootKey key used.supply).1 with
      | ok given => simpa [outcome, answerOf, Except.mapError] using wrapped_eq
      | error error => simp [outcome, answerOf, Except.mapError] at wrapped_eq

/-- A held root key wraps any key, if both have the right size. -/
theorem exists_wrapped (held : used.keystore.rootKey = some rootKey)
    (rootKey_length : rootKey.length = keySize) (key_length : key.length = keySize) :
    ∃ wrapped, used.answer (.wrap key) = .ok (.wrapped wrapped) := by
  rw [answer, wrapWithRootKey_of_some held, WrappedKey.wrap_eq rootKey_length key_length]
  exact ⟨_, rfl⟩

/-- A wrapped key unwraps wherever the root key is held under which it was wrapped. -/
theorem answer_unwrap_of_wrapped (wrapped_eq : used.answer (.wrap key) = .ok (.wrapped wrapped))
    {later : InUse Supply} (same : later.keystore.rootKey = used.keystore.rootKey) :
    later.answer (.unwrap wrapped) = .ok (.key key) := by
  rcases exists_wrap_eq wrapped_eq with ⟨rootKey, held, wrap_eq⟩
  rw [answer, unwrapWithRootKey_of_some (same.trans held), WrappedKey.unwrap_of_wrap wrap_eq]
  rfl

theorem answer_get (used : InUse Supply) :
    used.answer .get =
      match used.keystore.rootKey with
      | some rootKey => .ok (.key rootKey)
      | none => .error (.notReady "root key not loaded") := by
  rw [answer, get]
  cases used.keystore.rootKey <;> rfl

theorem answer_get_inj {other : InUse Supply} (same : used.answer .get = other.answer .get) :
    used.keystore.rootKey = other.keystore.rootKey := by
  rw [answer_get, answer_get] at same
  cases held : used.keystore.rootKey <;> cases otherHeld : other.keystore.rootKey <;>
    simp_all

theorem answer_load (used : InUse Supply) (rootKey : ByteString) :
    used.answer (.load rootKey) =
      if used.keystore.rootKey.isSome then .error (.conflict "root key already loaded")
      else .ok .done := by
  rw [answer, load]
  cases used.keystore.rootKey <;> rfl

end

/-- However a new keystore was used, it holds the first root key that was loaded since the last wipe
and takes another one only if there is none; nothing but loading and wiping changes what it holds,
and a request that fails changes nothing. A key that it wraps can be unwrapped whenever it holds the
same root key again, whatever happened in between, and never while it holds none. -/
theorem keeps_first_loaded (supply : Supply) (requests : List Request) :
    let used := (start supply).afterAll requests
    let held? := firstLoaded? requests
    (used.answer .get =
      match held? with
      | some rootKey => .ok (.key rootKey)
      | none => .error (.notReady "root key not loaded")) ∧
      used.answer .isLoaded = .ok (.status held?.isSome) ∧
      (∀ rootKey, used.answer (.load rootKey) =
        if held?.isSome then .error (.conflict "root key already loaded") else .ok .done) ∧
      (∀ request error, used.answer request = .error error → used.after request = used) ∧
      used.after .get = used ∧
      used.after .isLoaded = used ∧
      (∀ wrapped, used.after (.unwrap wrapped) = used) ∧
      (∀ key, (used.after (.wrap key)).keystore = used.keystore) ∧
      (∀ rootKey key, held? = some rootKey → rootKey.length = 32 → key.length = 32 →
        ∃ wrapped, used.answer (.wrap key) = .ok (.wrapped wrapped)) ∧
      ∀ key wrapped, used.answer (.wrap key) = .ok (.wrapped wrapped) → ∀ later,
        let afterwards := (used.after (.wrap key)).afterAll later
        (afterwards.answer .get = used.answer .get →
          afterwards.answer (.unwrap wrapped) = .ok (.key key)) ∧
        (afterwards.answer .isLoaded = .ok (.status false) →
          afterwards.answer (.unwrap wrapped) = .error (.notReady "root key not loaded")) := by
  intro used held?
  have rootKey_eq : used.keystore.rootKey = held? := rootKey_afterAll supply requests
  rw [← rootKey_eq]
  refine ⟨used.answer_get, rfl, used.answer_load, fun _ _ => after_of_answer_error, rfl, rfl,
    fun _ => rfl, fun _ => rfl, fun _ _ => exists_wrapped, ?_⟩
  intro key wrapped wrapped_eq later afterwards
  refine ⟨?_, ?_⟩
  · intro sameKey
    exact answer_unwrap_of_wrapped wrapped_eq (answer_get_inj sameKey)
  · intro notLoaded
    have empty : afterwards.keystore.rootKey = none := by
      simpa [answer, Keystore.isLoaded] using notLoaded
    rw [answer, unwrapWithRootKey, empty]
    rfl

end InUse

end Keystore

end KeyCustody
