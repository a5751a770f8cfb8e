import Cosign.Verif.Entry

/-!
# What an accepted bundle establishes

`VerifyBundle` returns no bundle, an error, acceptance, or the silent refusal of a bundle whose
entry records another payload: the pair of false and no error that also stands for no bundle,
because the error that is wrapped there is nil (`verifyBundle_silent`). Acceptance without a
certificate establishes less: the payload is not compared with the entry (`verifyBundle_accepts`).
-/
namespace Cosign.Verif

open Cosign.Go Cosign.Encoding Cosign.Oci Cosign.Verify Cosign.Spec

variable {p : Platform} {sig : Signature} {bundle : RekorBundle} {body signature : String}
  {pubKey : RekorPubKey} {cert : Certificate} {content : Bytes} {entry : LogEntry}

/-- The SHA-256 of a payload in hexadecimal. -/
def payloadHash (p : Platform) (content : Bytes) : String :=
  Hex.encodeToString (p.sha256 content)

/-- What `VerifyBundle` has established when it turns to the certificate. -/
structure BundleChecked (p : Platform) (sig : Signature) (bundle : RekorBundle)
    (body signature : String) (pubKey : RekorPubKey) : Prop where
  /-- The signature carries the bundle. -/
  carried : sig.bundle = .ok (some bundle)
  text : bundle.payload.body = .str body
  base64 : sig.base64Signature = .ok signature
  agrees : Agrees p body signature
  /-- The key is registered for the log that the bundle names. -/
  registered : ∃ keys, getRekorPubs p = .ok keys ∧
    keys.lookup bundle.payload.logID = some pubKey
  /-- The signed entry timestamp verifies under that key. -/
  signed : verifySET p bundle.payload bundle.signedEntryTimestamp pubKey.pubKey = none

/-- What it has established of the certificate when it compares hashes. -/
structure CertChecked (p : Platform) (sig : Signature) (bundle : RekorBundle)
    (body signature : String) (cert : Certificate) (content : Bytes) (entry : LogEntry) :
    Prop where
  /-- The signature has the certificate. -/
  certified : sig.cert = .ok (some cert)
  /-- The integrated time is within its validity period. -/
  valid : cert.ValidAt (Time.unix bundle.payload.integratedTime)
  /-- The payload was read. -/
  payload : sig.payload = .ok content
  read : consulted p (signature.length == 0) body = .ok entry

theorem verifyBundle_of_checked
    (checked : BundleChecked p sig bundle body signature pubKey) :
    verifyBundle p sig =
      match sig.cert with
      | .error err => .ok (false, some err)
      | .ok none => .ok (true, none)
      | .ok (some cert) => verifyBundleCert p sig bundle.payload body cert := by
  obtain ⟨keys, trusted, found⟩ := checked.registered
  have compared := compareSigs_eq_none.mpr ⟨signature, checked.base64, checked.agrees⟩
  unfold verifyBundle
  rcases sig.cert with err | _ | cert <;>
    simp only [checked.carried, checked.text, assertString, compared, bind, Except.bind,
      trusted, found, checked.signed]

/-- The returns of `VerifyBundle`: no bundle, an error, or a checked bundle on which the
certificate decides. -/
theorem verifyBundle_returns {verified : Bool} {err : Option GoError}
    (returned : verifyBundle p sig = .ok (verified, err)) :
    (sig.bundle = .ok none ∧ verified = false ∧ err = none) ∨
      (verified = false ∧ err ≠ none) ∨
      ∃ bundle body signature pubKey, BundleChecked p sig bundle body signature pubKey := by
  unfold verifyBundle at returned
  split at returned
  · cases returned
    exact .inr (.inl ⟨rfl, Option.some_ne_none _⟩)
  · rename_i absent
    cases returned
    exact .inl ⟨absent, rfl, rfl⟩
  · rename_i bundle carried
    obtain ⟨body, text, returned⟩ := bind_eq_ok.mp returned
    obtain ⟨compared, compares, returned⟩ := bind_eq_ok.mp returned
    rw [assertString_eq_ok] at text
    split at returned
    · cases returned
      exact .inr (.inl ⟨rfl, Option.some_ne_none _⟩)
    · obtain ⟨signature, base64, agrees⟩ := compareSigs_eq_none.mp compares
      split at returned
      · cases returned
        exact .inr (.inl ⟨rfl, Option.some_ne_none _⟩)
      · rename_i keys trusted
        split at returned
        · cases returned
          exact .inr (.inl ⟨rfl, Option.some_ne_none _⟩)
        · rename_i pubKey found
          split at returned
          · cases returned
            exact .inr (.inl ⟨rfl, Option.some_ne_none _⟩)
          · rename_i signed
            exact .inr (.inr ⟨bundle, body, signature, pubKey, carried, text, base64, agrees,
              ⟨keys, trusted, found⟩, signed⟩)

/-- Once the certificate is checked, the hash of the entry decides, and a hash of another
payload is no error. -/
theorem verifyBundleCert_of_checked (base64 : sig.base64Signature = .ok signature)
    (checked : CertChecked p sig bundle body signature cert content entry) :
    verifyBundleCert p sig bundle.payload body cert =
      derefHash entry.hashPointer >>= fun recorded =>
        .ok (decide (recorded = ("sha256", payloadHash p content)), none) := by
  unfold verifyBundleCert
  rw [checkExpiry_eq_none.mpr checked.valid]
  simp only [checked.payload, base64, bundleHash_eq, checked.read]
  cases derefHash entry.hashPointer with
  | error panic => rfl
  | ok recorded =>
    obtain ⟨algorithm, value⟩ := recorded
    by_cases same : algorithm = "sha256" ∧ value = payloadHash p content
    · obtain ⟨rfl, rfl⟩ := same
      simp [bind, Except.bind, payloadHash]
    · have other : algorithm ≠ "sha256" ∨ value ≠ payloadHash p content := by
        rwa [not_and_or] at same
      unfold payloadHash at same other
      simp [bind, Except.bind, other, same, wrap, payloadHash]

/-- The returns of the last checks: an error, or a checked certificate. -/
theorem verifyBundleCert_returns {verified : Bool} {err : Option GoError}
    (certified : sig.cert = .ok (some cert)) (base64 : sig.base64Signature = .ok signature)
    (returned : verifyBundleCert p sig bundle.payload body cert = .ok (verified, err)) :
    (verified = false ∧ err ≠ none) ∨
      ∃ content entry, CertChecked p sig bundle body signature cert content entry := by
  unfold verifyBundleCert at returned
  split at returned
  · cases returned
    exact .inl ⟨rfl, Option.some_ne_none _⟩
  · rename_i valid
    split at returned
    · cases returned
      exact .inl ⟨rfl, Option.some_ne_none _⟩
    · rename_i content payload
      simp only [base64, bundleHash_eq] at returned
      cases read : consulted p (signature.length == 0) body with
      | error failure =>
        have unread : ("" : String) ≠ "sha256" := by decide
        simp only [read, bind, Except.bind, ne_eq, unread, not_false_eq_true, true_or, if_true,
          wrap, Option.map_some, Except.ok.injEq, Prod.mk.injEq] at returned
        obtain ⟨rfl, rfl⟩ := returned
        exact .inl ⟨rfl, Option.some_ne_none _⟩
      | ok entry =>
        exact .inr ⟨content, entry, certified, checkExpiry_eq_none.mp valid, payload, read⟩

/-- The last checks return exactly when the entry they come to, if any, has a hash. -/
theorem returns_verifyBundleCert (certified : sig.cert = .ok (some cert))
    (base64 : sig.base64Signature = .ok signature) :
    Returns (verifyBundleCert p sig bundle.payload body cert) ↔
      ∀ content entry, CertChecked p sig bundle body signature cert content entry →
        entry.hash ≠ none := by
  constructor
  · rintro returns content entry checked absent
    rw [verifyBundleCert_of_checked base64 checked, returns_bind] at returns
    obtain ⟨recorded, found, -⟩ := returns
    rw [derefHash_eq_ok, absent] at found
    cases found
  · intro shaped
    unfold verifyBundleCert
    cases valid : checkExpiry p cert (Time.unix bundle.payload.integratedTime) with
    | some err => exact returns_ok _
    | none =>
      cases payload : sig.payload with
      | error err => exact returns_ok _
      | ok content =>
        simp only [base64]
        have read : Returns (bundleHash p body signature) :=
          returns_bundleHash.mpr fun entry read =>
            shaped content entry ⟨certified, checkExpiry_eq_none.mp valid, payload, read⟩
        obtain ⟨⟨algorithm, value, err⟩, read⟩ := read
        rw [returns_bind]
        refine ⟨_, read, ?_⟩
        dsimp only
        split <;> exact returns_ok _

/-- Once bundle and certificate are checked, the hash of the entry decides. -/
theorem verifyBundle_of_certChecked
    (checked : BundleChecked p sig bundle body signature pubKey)
    (certChecked : CertChecked p sig bundle body signature cert content entry) :
    verifyBundle p sig = derefHash entry.hashPointer >>= fun recorded =>
      .ok (decide (recorded = ("sha256", payloadHash p content)), none) := by
  rw [verifyBundle_of_checked checked, certChecked.certified]
  exact verifyBundleCert_of_checked checked.base64 certChecked

/-- A bundle is accepted exactly when it is checked and the signature has no certificate, or
one that covers the integrated time and an entry that records the payload. -/
theorem verifyBundle_accepts {err : Option GoError} :
    verifyBundle p sig = .ok (true, err) ↔
      err = none ∧ ∃ bundle body signature pubKey,
        BundleChecked p sig bundle body signature pubKey ∧
        (sig.cert = .ok none ∨ ∃ cert content entry,
          CertChecked p sig bundle body signature cert content entry ∧
          entry.hash = some ("sha256", payloadHash p content)) := by
  constructor
  · intro returned
    obtain ⟨-, impossible, -⟩ | ⟨impossible, -⟩ | ⟨bundle, body, signature, pubKey, checked⟩ :=
      verifyBundle_returns returned
    · cases impossible
    · cases impossible
    · rw [verifyBundle_of_checked checked] at returned
      split at returned
      · cases returned
      · rename_i uncertified
        cases returned
        exact ⟨rfl, bundle, body, signature, pubKey, checked, .inl uncertified⟩
      · rename_i cert certified
        obtain ⟨impossible, -⟩ | ⟨content, entry, certChecked⟩ :=
          verifyBundleCert_returns certified checked.base64 returned
        · cases impossible
        · rw [verifyBundleCert_of_checked checked.base64 certChecked] at returned
          obtain ⟨recorded, found, same⟩ := bind_eq_ok.mp returned
          simp only [Except.ok.injEq, Prod.mk.injEq, decide_eq_true_eq] at same
          obtain ⟨rfl, rfl⟩ := same
          exact ⟨rfl, bundle, body, signature, pubKey, checked,
            .inr ⟨cert, content, entry, certChecked, derefHash_eq_ok.mp found⟩⟩
  · rintro ⟨rfl, bundle, body, signature, pubKey, checked,
      uncertified | ⟨cert, content, entry, certChecked, found⟩⟩
    · rw [verifyBundle_of_checked checked, uncertified]
    · rw [verifyBundle_of_certChecked checked certChecked, derefHash_eq_ok.mpr found]
      simp [bind, Except.bind]

/-- The bundle of a signature passes every check but the last: its entry records a hash that is
not the SHA-256 of the payload. -/
def BundleMismatch (p : Platform) (sig : Signature) : Prop :=
  ∃ bundle body signature pubKey cert content entry recorded,
    BundleChecked p sig bundle body signature pubKey ∧
    CertChecked p sig bundle body signature cert content entry ∧
    entry.hash = some recorded ∧ recorded ≠ ("sha256", payloadHash p content)

/-- False and no error are returned exactly for a signature without a bundle and for a bundle
that records another payload. -/
theorem verifyBundle_silent :
    verifyBundle p sig = .ok (false, none) ↔ sig.bundle = .ok none ∨ BundleMismatch p sig := by
  constructor
  · intro returned
    obtain ⟨absent, -, -⟩ | ⟨-, impossible⟩ | ⟨bundle, body, signature, pubKey, checked⟩ :=
      verifyBundle_returns returned
    · exact .inl absent
    · exact absurd rfl impossible
    · rw [verifyBundle_of_checked checked] at returned
      split at returned
      · cases returned
      · cases returned
      · rename_i cert certified
        obtain ⟨-, impossible⟩ | ⟨content, entry, certChecked⟩ :=
          verifyBundleCert_returns certified checked.base64 returned
        · exact absurd rfl impossible
        · rw [verifyBundleCert_of_checked checked.base64 certChecked] at returned
          obtain ⟨recorded, found, same⟩ := bind_eq_ok.mp returned
          simp only [Except.ok.injEq, Prod.mk.injEq, decide_eq_false_iff_not, and_true] at same
          exact .inr ⟨bundle, body, signature, pubKey, cert, content, entry, recorded, checked,
            certChecked, derefHash_eq_ok.mp found, same⟩
  · rintro (absent | ⟨bundle, body, signature, pubKey, cert, content, entry, recorded, checked,
      certChecked, found, other⟩)
    · unfold verifyBundle
      rw [absent]
    · rw [verifyBundle_of_certChecked checked certChecked, derefHash_eq_ok.mpr found]
      simp [bind, Except.bind, other]

theorem BundleMismatch.carried (mismatch : BundleMismatch p sig) :
    ∃ bundle, sig.bundle = .ok (some bundle) := by
  obtain ⟨bundle, _, _, _, _, _, _, _, checked, -⟩ := mismatch
  exact ⟨bundle, checked.carried⟩

/-- The bundle, if any, has the shape that the checks follow: a string as body, an entry with a
signature where signatures are compared, and an entry with a hash where hashes are. -/
def BundleShaped (p : Platform) (sig : Signature) : Prop :=
  ∀ bundle, sig.bundle = .ok (some bundle) → ∃ body, bundle.payload.body = .str body ∧
    (∀ signature, sig.base64Signature = .ok signature → signature ≠ "" →
      ∀ entry, consulted p false body = .ok entry → entry.signature ≠ none) ∧
    ∀ signature pubKey cert content entry,
      BundleChecked p sig bundle body signature pubKey →
      CertChecked p sig bundle body signature cert content entry → entry.hash ≠ none

theorem returns_verifyBundle : Returns (verifyBundle p sig) ↔ BundleShaped p sig := by
  constructor
  · intro returns bundle carried
    have original := returns
    unfold verifyBundle at returns
    simp only [carried, returns_bind] at returns
    obtain ⟨body, text, compared, compares, -⟩ := returns
    refine ⟨body, assertString_eq_ok.mp text, returns_compareSigs.mp ⟨compared, compares⟩, ?_⟩
    intro signature pubKey cert content entry checked certChecked
    rw [verifyBundle_of_checked checked, certChecked.certified] at original
    exact (returns_verifyBundleCert certChecked.certified checked.base64).mp original
      content entry certChecked
  · intro shaped
    unfold verifyBundle
    cases carried : sig.bundle with
    | error err => exact returns_ok _
    | ok found =>
      cases found with
      | none => exact returns_ok _
      | some bundle =>
        obtain ⟨body, text, signatures, hashes⟩ := shaped bundle carried
        obtain ⟨compared, compares⟩ := returns_compareSigs.mpr signatures
        simp only [text, assertString, compares, bind, Except.bind]
        split
        · exact returns_ok _
        · obtain ⟨signature, base64, agrees⟩ := compareSigs_eq_none.mp compares
          split
          · exact returns_ok _
          · rename_i keys trusted
            split
            · exact returns_ok _
            · rename_i pubKey found
              split
              · exact returns_ok _
              · rename_i signed
                split
                · exact returns_ok _
                · exact returns_ok _
                · rename_i cert certified
                  exact (returns_verifyBundleCert certified base64).mpr fun content entry =>
                    hashes signature pubKey cert content entry
                      ⟨carried, text, base64, agrees, ⟨keys, trusted, found⟩, signed⟩

end Cosign.Verif
