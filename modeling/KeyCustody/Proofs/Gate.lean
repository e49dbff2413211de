import KeyCustody.Proofs.Keystore
import KeyCustody.Proofs.Service.Sealed

/-!
# Chains of checks

The checks of a gate run in the order in which they were added, up to the first that objects, and its
refusal is the outcome. So a gate admits what all its checks admit, and one chain after another decides
as the first of them, and as the second on what the first admits. A seal check stands at any place of a
chain and looks at what the keystore holds at that moment.
-/

namespace KeyCustody

namespace SealGate

/-- A seal check objects to what its list does not allow as long as no key is loaded. -/
theorem verdict_toCheck_eq_some_iff {allowList : List String} {keystore : Keystore}
    {operation : String} {rejection : GateRejection} :
    (ofAllowList allowList).toCheck.verdict keystore operation = some rejection ↔
      rejection = .serverSealed ∧ keystore.isLoaded = false ∧ ¬Allows allowList operation := by
  rw [← isAllowed_iff, toCheck]
  dsimp only [verdict]
  split_ifs with admitted
  · rw [Bool.or_eq_true] at admitted
    apply iff_of_false
    · simp
    · rintro ⟨_, notLoaded, notAllowed⟩
      rcases admitted with allowed | loaded
      · exact notAllowed allowed
      · simp [notLoaded] at loaded
  · rw [Bool.or_eq_true, not_or, Bool.not_eq_true, Bool.not_eq_true] at admitted
    constructor
    · intro refused
      exact ⟨(Option.some.inj refused).symm, admitted.2, by simp [admitted.1]⟩
    · rintro ⟨rfl, _⟩
      rfl

end SealGate

namespace RequestGate

/-- The gate to which checks were added one after the other. -/
def ofChecks (checks : List RequestCheck) : RequestGate := checks.foldl withCheck ⟨[]⟩

theorem foldl_withCheck (gate : RequestGate) (checks : List RequestCheck) :
    checks.foldl withCheck gate = ⟨gate.checks ++ checks⟩ := by
  induction checks generalizing gate with
  | nil => simp
  | cons check rest ih => simp [ih, withCheck]

@[simp]
theorem checks_ofChecks (checks : List RequestCheck) : (ofChecks checks).checks = checks := by
  simp [ofChecks, foldl_withCheck]

theorem ofChecks_append_singleton (checks : List RequestCheck) (check : RequestCheck) :
    ofChecks (checks ++ [check]) = (ofChecks checks).withCheck check := by
  simp [ofChecks]

/-- The checks of a chain that run on an operation, and the outcome: those up to the first that objects,
and its refusal; or all of them, and none. -/
inductive Checking (keystore : Keystore) (operation : String) :
    List RequestCheck → List RequestCheck → Option GateRejection → Prop where
  | admitted {checks : List RequestCheck}
      (admits : ∀ check ∈ checks, check.verdict keystore operation = none) :
      Checking keystore operation checks checks none
  | refused {before after : List RequestCheck} {check : RequestCheck} {rejection : GateRejection}
      (admits : ∀ earlier ∈ before, earlier.verdict keystore operation = none)
      (refuses : check.verdict keystore operation = some rejection) :
      Checking keystore operation (before ++ check :: after) (before ++ [check]) (some rejection)

section

variable {keystore : Keystore} {operation : String}

theorem Checking.cons {check : RequestCheck} {rest ran : List RequestCheck}
    {outcome : Option GateRejection} (admits : check.verdict keystore operation = none)
    (checking : Checking keystore operation rest ran outcome) :
    Checking keystore operation (check :: rest) (check :: ran) outcome := by
  cases checking with
  | admitted restAdmits => exact .admitted (List.forall_mem_cons.mpr ⟨admits, restAdmits⟩)
  | @refused before after refusing rejection beforeAdmits refuses =>
      have allAdmit : ∀ earlier ∈ check :: before, earlier.verdict keystore operation = none :=
        List.forall_mem_cons.mpr ⟨admits, beforeAdmits⟩
      exact @Checking.refused _ _ (check :: before) after refusing rejection allAdmit refuses

theorem Checking.eq_none_iff {checks ran : List RequestCheck} {outcome : Option GateRejection}
    (checking : Checking keystore operation checks ran outcome) :
    outcome = none ↔ ∀ check ∈ checks, check.verdict keystore operation = none := by
  cases checking with
  | admitted admits => exact iff_of_true rfl admits
  | refused admits refuses =>
      apply iff_of_false
      · simp
      · intro allAdmit
        rw [allAdmit _ (by simp)] at refuses
        cases refuses

theorem exists_checking_runChecks (checks : List RequestCheck) :
    ∃ ran, Checking keystore operation checks ran (runChecks keystore operation checks).2 ∧
      (runChecks keystore operation checks).1 = ran.map RequestCheck.name := by
  induction checks with
  | nil => exact ⟨[], .admitted (by simp), rfl⟩
  | cons check rest ih =>
      rw [runChecks]
      cases verdict_eq : check.verdict keystore operation with
      | none =>
          rcases ih with ⟨ran, checking, names_eq⟩
          exact ⟨check :: ran, checking.cons verdict_eq, by simp [names_eq]⟩
      | some rejection =>
          refine ⟨[check], ?_, rfl⟩
          apply @Checking.refused _ _ [] rest check rejection
          · simp
          · exact verdict_eq

theorem runChecks_append (first second : List RequestCheck) :
    runChecks keystore operation (first ++ second) =
      match runChecks keystore operation first with
      | (names, some rejection) => (names, some rejection)
      | (names, none) =>
        (names ++ (runChecks keystore operation second).1,
          (runChecks keystore operation second).2) := by
  induction first with
  | nil => rfl
  | cons check rest ih =>
      rw [List.cons_append, runChecks, runChecks, ih]
      cases check.verdict keystore operation with
      | some rejection => rfl
      | none => rcases runChecks keystore operation rest with ⟨names, _ | rejection⟩ <;> rfl

theorem exists_checking (checks : List RequestCheck) :
    ∃ ran, Checking keystore operation checks ran
        ((ofChecks checks).rejection? keystore operation) ∧
      ((ofChecks checks).run keystore operation).1 = ran.map RequestCheck.name := by
  rw [rejection?, run, checks_ofChecks]
  exact exists_checking_runChecks checks

theorem rejection?_eq_none_iff {checks : List RequestCheck} :
    (ofChecks checks).rejection? keystore operation = none ↔
      ∀ check ∈ checks, check.verdict keystore operation = none := by
  rcases @exists_checking keystore operation checks with ⟨ran, checking, _⟩
  exact checking.eq_none_iff

/-- A further check does not run on what is refused before it. -/
theorem run_withCheck_of_refused {checks : List RequestCheck}
    (refused : (ofChecks checks).rejection? keystore operation ≠ none) (check : RequestCheck) :
    ((ofChecks checks).withCheck check).run keystore operation =
      (ofChecks checks).run keystore operation := by
  simp only [rejection?, run, checks_ofChecks] at refused
  simp only [run, ← ofChecks_append_singleton, checks_ofChecks, runChecks_append]
  rcases outcome : runChecks keystore operation checks with ⟨names, _ | rejection⟩
  · rw [outcome] at refused
    exact absurd rfl refused
  · rfl

theorem refused_of_sublist {checks larger : List RequestCheck} (sublist : checks.Sublist larger)
    (refused : (ofChecks checks).rejection? keystore operation ≠ none) :
    (ofChecks larger).rejection? keystore operation ≠ none := by
  intro admitted
  apply refused
  rw [rejection?_eq_none_iff] at admitted ⊢
  intro check check_mem
  exact admitted check (sublist.subset check_mem)

end

/-- However the keystore was used before: of a chain of checks those up to the first that objects run
on an operation, and its refusal is the outcome. A seal check objects exactly to what its list does not
allow while no key is loaded. The chain admits what all its checks admit, followed by another chain it
leaves to that one what it admits itself, and neither a check added at the end nor any others put between
its own make it admit what it refused. -/
theorem first_refusal_decides {Supply : Type} [ByteSupply Supply] (supply : Supply)
    (requests : List Keystore.Request) (checks : List RequestCheck) (operation : String) :
    let keystore := ((Keystore.InUse.start supply).afterAll requests).keystore
    let gate := ofChecks checks
    (∃ ran, Checking keystore operation checks ran (gate.rejection? keystore operation) ∧
      (gate.run keystore operation).1 = ran.map RequestCheck.name) ∧
    keystore.rootKey = Keystore.firstLoaded? requests ∧
    (∀ allowList rejection,
      (SealGate.ofAllowList allowList).toCheck.verdict keystore operation = some rejection ↔
        rejection = .serverSealed ∧ keystore.isLoaded = false ∧
          ¬SealGate.Allows allowList operation) ∧
    (gate.rejection? keystore operation = none ↔
      ∀ check ∈ checks, check.verdict keystore operation = none) ∧
    (∀ more, (ofChecks (checks ++ more)).run keystore operation =
      match gate.run keystore operation with
      | (names, some rejection) => (names, some rejection)
      | (names, none) =>
        (names ++ ((ofChecks more).run keystore operation).1,
          ((ofChecks more).run keystore operation).2)) ∧
    (gate.rejection? keystore operation ≠ none →
      (∀ check, (gate.withCheck check).run keystore operation = gate.run keystore operation) ∧
      ∀ larger, checks.Sublist larger → (ofChecks larger).rejection? keystore operation ≠ none) := by
  intro keystore gate
  refine ⟨exists_checking checks, Keystore.InUse.rootKey_afterAll supply requests, ?_,
    rejection?_eq_none_iff, ?_, ?_⟩
  · intro allowList rejection
    exact SealGate.verdict_toCheck_eq_some_iff
  · intro more
    simp only [gate, run, checks_ofChecks]
    exact runChecks_append checks more
  · intro refused
    constructor
    · exact run_withCheck_of_refused refused
    · intro larger sublist
      exact refused_of_sublist sublist refused

end RequestGate

end KeyCustody
