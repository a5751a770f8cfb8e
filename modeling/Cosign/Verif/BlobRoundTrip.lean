import Cosign.Cli.SignBlob
import Cosign.Verif.BlobEvidence
import Cosign.Verif.Signing

/-!
# The bundle file of sign-blob

`sign-blob` in experimental mode writes a signature, the public key and the log entry to one file,
and `verify-blob` is given that file and the same blob. The file is read back as it was written
(`unmarshal_localSignedPayload`). But `LoadPublicKeyRaw` takes ECDSA keys only, while
`LoadPrivateKey` takes three families; and an in-toto envelope, signed as a blob, is verified as an
envelope. `bundle_file_accepted_iff` says for which keys and blobs the file is accepted.
-/
namespace Cosign.Verif

open Cosign.Go Cosign.Encoding Cosign.Oci Cosign.Verify Cosign.Spec Cosign.Sign Cosign.Cli

variable {p : Platform} {env : BlobEnv} {args : VerifyBlobArgs} {senv : SignBlobEnv}
  {sargs : SignBlobArgs} {s : MessageSigner} {verifier : Verifier} {client : LogClient}
  {payload signature pem : Bytes} {path : String} {entry : LogEntryAnon} {bundle : RekorBundle}

/-! ## The bundle file -/

theorem writable_localSignedPayload {b : LocalSignedPayload} {body : String}
    (bundled : b.bundle = some bundle) (text : bundle.payload.body = .str body) :
    Json.Writable Json.maxNestingDepth b.toJson := by
  unfold LocalSignedPayload.toJson
  rw [bundled]
  apply Json.writable_struct
  simp only [List.forall_mem_cons]
  refine ⟨fun tree given => ?_, Json.writable_omitString _, fun tree given => ?_, by simp⟩
  · cases given
    trivial
  · cases given
    exact writable_rekorBundle text 9997

theorem unmarshal_localSignedPayload {b : LocalSignedPayload} {body : String}
    (bundled : b.bundle = some bundle) (text : bundle.payload.body = .str body) :
    LocalSignedPayload.unmarshal (Json.marshal b.toJson) = .ok (some b) := by
  have filled : fillStruct "cosign.LocalSignedPayload" LocalSignedPayload.fields .zero b.toJson =
      .ok b := by
    obtain ⟨base64Signature, cert, held⟩ := b
    cases bundled
    have written (value : RekorBundle) : value.toJson ≠ .null := Json.noConfusion
    unfold LocalSignedPayload.toJson Json.struct fillStruct
    dsimp only
    rw [fillMembers_present rfl]
    show fillMembers LocalSignedPayload.fields ⟨base64Signature, "", none⟩ _ = _
    rw [fillMembers_present rfl, storeSlot_string _ _ _ _ rfl]
    show fillMembers LocalSignedPayload.fields ⟨base64Signature, cert, none⟩ _ = _
    rw [fillMembers_present rfl, storeSlot_pointer _ _ _ written rfl rfl]
    simp only [Option.mapM_some, fill_rekorBundle text]
    rfl
  have pointer : storePointer (fillStruct "cosign.LocalSignedPayload" LocalSignedPayload.fields)
      LocalSignedPayload.zero id (fun _ target => target) none b.toJson = .ok (some b) := by
    rw [storePointer]
    · rw [show (id none : Option LocalSignedPayload).getD .zero = .zero from rfl, filled]
    · exact Json.struct_ne_null _
  unfold LocalSignedPayload.unmarshal
  rw [unmarshal_marshal (writable_localSignedPayload bundled text), pointer]

/-! ## Keys -/

/-- The public key of a private key, of the same family. -/
def publicOf (material : PrivateKey → Bytes) (pk : PrivateKey) : PublicKey :=
  ⟨pk.kind, material pk⟩

/-- The PEM text of a public key: it can be read back, it starts with a dash and it contains no
certificate. -/
structure KeyText (env : BlobEnv) (pub : PublicKey) (text : Bytes) : Prop where
  /-- The text is written. -/
  marshalled : env.platform.marshalPublicKeyToPEM pub = .ok text
  /-- The key is read back. -/
  unmarshalled : env.platform.unmarshalPEMToPublicKey text = .ok pub
  /-- The text starts with `-----BEGIN`. -/
  dash : text.head? = some 45
  /-- No certificate is found in it. -/
  uncertified : ∀ cert rest, env.unmarshalCertificatesFromPEM text ≠ .ok (cert :: rest)

/-- What is assumed of the libraries for keys: signing with a private key and verifying with its
public key succeeds, and a public key is read back from its PEM text. -/
structure KeyLaws (keys : KeyLibrary) (env : BlobEnv) (material : PrivateKey → Bytes) : Prop where
  /-- A signer has the public key of its private key. -/
  owned : ∀ pk s, keys.loadSigner pk = .ok s → ∀ opts,
    s.publicKey opts = .ok (publicOf material pk)
  signs : ∀ pk s, keys.loadSigner pk = .ok s → ∀ message opts,
    ∃ signature, s.signMessage message opts = .ok signature
  /-- A public key of the ECDSA family is loaded, and accepts what the private key signs. -/
  verifies : ∀ pk s, keys.loadSigner pk = .ok s → pk.kind = .ecdsa →
    ∃ verifier, env.loadECDSAVerifier (publicOf material pk) = .ok verifier ∧ KeyPair s verifier
  /-- Public keys have PEM texts. -/
  texts : ∀ pk, ∃ text, KeyText env (publicOf material pk) text

/-- `LoadPrivateKey` accepts the keys of its three families that have a signer. -/
theorem loadPrivateKey_eq_ok {keys : KeyLibrary} {key pass : Bytes} {pk : PrivateKey}
    (parsed : parsePrivateKey keys key pass = .ok (some pk)) :
    loadPrivateKey keys key pass = .ok s ↔ keys.loadSigner pk = .ok s := by
  unfold loadPrivateKey
  rw [parsed]
  rfl

theorem KeyText.loadCertFromPEM {pub : PublicKey} {text : Bytes} (written : KeyText env pub text) :
    ∃ err, loadCertFromPEM env text = .error err := by
  obtain ⟨rest, starts⟩ := List.head?_eq_some_iff.mp written.dash
  have plain : (Base64.stdDecodeRaw text).getD text = text := by
    rw [starts, Base64.stdDecodeRaw_dash]
    rfl
  unfold Cli.loadCertFromPEM
  rw [plain]
  rcases found : env.unmarshalCertificatesFromPEM text with err | (_ | ⟨cert, others⟩)
  · exact ⟨err, rfl⟩
  · exact ⟨_, rfl⟩
  · exact absurd found (written.uncertified cert others)

theorem KeyText.loadPublicKeyRaw {pub : PublicKey} {text : Bytes}
    (written : KeyText env pub text) :
    loadPublicKeyRaw env text = .ok verifier ↔
      pub.kind = .ecdsa ∧ env.loadECDSAVerifier pub = .ok verifier := by
  unfold Cli.loadPublicKeyRaw pemToECDSAKey
  rw [written.unmarshalled]
  dsimp only
  by_cases family : pub.kind = .ecdsa
  · rw [if_pos family]
    simp only [family, true_and]
    rfl
  · rw [if_neg family]
    simp only [family, false_and, iff_false]
    intro loaded
    cases loaded

/-! ## Verification with the bundle file -/

/-- The bundle file is the only signature and key material of a run. -/
structure BundleOnly (args : VerifyBlobArgs) (path : String) : Prop where
  /-- The bundle file is given. -/
  bundlePath : args.ko.bundlePath = path
  /-- There is a bundle file. -/
  nonempty : path ≠ ""
  /-- No key is given. -/
  keyRef : args.ko.keyRef = ""
  /-- No security key is used. -/
  sk : args.ko.sk = false
  /-- No certificate is given. -/
  certRef : args.certRef = ""
  /-- No signature is given. -/
  sigRef : args.sigRef = ""

theorem BundleOnly.started (alone : BundleOnly args path) : args.ko.bundlePath ≠ "" := by
  rw [alone.bundlePath]
  exact alone.nonempty

section

variable {signed : SignedBlob}
  (fetched : fetchLocalSignedPayloadFromPath env.platform path = .ok (some signed.payload))
  (alone : BundleOnly args path)

include fetched alone

theorem given_bundle (read : payloadBytes env args.blobRef = .ok payload) :
    ∃ b64sig, Given env args signed.signature b64sig payload := by
  have raw : rawAndBase64 (utf8Bytes signed.payload.base64Signature) =
      (signed.signature, goString (utf8Bytes signed.payload.base64Signature)) := by
    unfold rawAndBase64 SignedBlob.payload
    rw [Base64.stdDecodeRaw_utf8Bytes, Base64.stdDecode_stdEncode]
  have started := alone.started
  refine ⟨goString (utf8Bytes signed.payload.base64Signature), ?_, ?_, read⟩
  · simp [started]
  · unfold signatures
    rw [if_neg (not_not.mpr alone.sigRef), if_pos started, alone.bundlePath, fetched]
    show Except.ok (Except.ok (rawAndBase64 _)) = _
    rw [raw]

/-- The key is what `LoadPublicKeyRaw` reads from the bundle file. -/
theorem selectVerifier_bundle {pub : PublicKey} (written : KeyText env pub signed.rekorBytes) :
    selectVerifier env args = .ok ((loadPublicKeyRaw env signed.rekorBytes).map fun key =>
      some (key, none)) := by
  have started := alone.started
  have bytes : bundleCertBytes signed.payload = signed.rekorBytes := by
    unfold bundleCertBytes SignedBlob.payload
    rw [Base64.stdDecode_stdEncode]
    rfl
  have nonempty : signed.payload.cert ≠ "" := by
    intro empty
    have dash := written.dash
    rw [Base64.stdEncode_eq_empty.mp empty] at dash
    cases dash
  obtain ⟨err, uncertified⟩ := written.loadCertFromPEM
  have selected : bundleVerifier env path =
      .ok ((loadPublicKeyRaw env signed.rekorBytes).map fun key => (key, none)) := by
    unfold bundleVerifier
    rw [fetched]
    show (if signed.payload.cert = "" then _ else _) = _
    rw [if_neg nonempty, bytes, uncertified]
  unfold selectVerifier
  dsimp only
  rw [if_neg (not_not.mpr alone.keyRef), alone.sk, if_neg Bool.false_ne_true,
    if_neg (not_not.mpr alone.certRef), if_pos started, alone.bundlePath, selected]
  show Except.ok (Except.map some _) = _
  cases loadPublicKeyRaw env signed.rekorBytes <;> rfl

theorem verifiedOffline_bundle {proposed : ProposedEntry} (bundled : signed.bundle = some bundle)
    (logged : Logged env.platform proposed entry bundle) :
    verifiedOffline env args.ko none = .ok true := by
  rw [← alone.bundlePath] at fetched
  exact verifiedOffline_eq_true.mpr ⟨bundle, alone.started, ⟨_, fetched, bundled⟩, logged.signed,
    nofun⟩

/-- A run succeeds if the key is loaded and accepts the signature. -/
theorem verifyBlobCmd_bundle {pub : PublicKey} {proposed : ProposedEntry}
    (read : payloadBytes env args.blobRef = .ok payload)
    (written : KeyText env pub signed.rekorBytes) (bundled : signed.bundle = some bundle)
    (logged : Logged env.platform proposed entry bundle) :
    verifyBlobCmd env args = .ok none ↔
      ∃ verifier, (pub.kind = .ecdsa ∧ env.loadECDSAVerifier pub = .ok verifier) ∧
        (blobVerifier env payload verifier).verifySignature signed.signature payload = none := by
  obtain ⟨b64sig, given⟩ := given_bundle fetched alone read
  have selects := selectVerifier_bundle fetched alone written
  have offline := verifiedOffline_bundle fetched alone bundled logged
  have decided : ∀ verifier, loadPublicKeyRaw env signed.rekorBytes = .ok verifier →
      (verifyBlobCmd env args = .ok none ↔
        (blobVerifier env payload verifier).verifySignature signed.signature payload = none) := by
    intro verifier loaded
    rw [loaded] at selects
    rw [verifyBlobCmd_given given selects]
    show verifyWithKey env args signed.signature b64sig payload verifier none = .ok none ↔ _
    unfold verifyWithKey
    dsimp only
    cases (blobVerifier env payload verifier).verifySignature signed.signature payload with
    | none => simp [verifyRekorEntry_offline offline]
    | some err => simp
  constructor
  · intro succeeds
    cases loaded : loadPublicKeyRaw env signed.rekorBytes with
    | error err =>
      rw [loaded] at selects
      rw [verifyBlobCmd_unselected given selects] at succeeds
      cases succeeds
    | ok verifier =>
      exact ⟨verifier, written.loadPublicKeyRaw.mp loaded, (decided verifier loaded).mp succeeds⟩
  · rintro ⟨verifier, family, accepted⟩
    exact (decided verifier (written.loadPublicKeyRaw.mpr family)).mpr accepted

end

/-! ## Signing -/

/-- What is signed in experimental mode, with a key that has no certificate. -/
theorem signBlob_logged (experimental : enableExperimental p = true)
    (read : signedBytes senv sargs.payloadPath = .ok payload)
    (selected : signerFromKeyOpts senv sargs.ko = .ok ⟨none, none, s⟩)
    (signed : s.signMessage payload [⟨"WithContext"⟩] = .ok signature)
    (marshalled : SignerVerifier.bytes p ⟨none, none, s⟩ = .ok pem)
    (connected : senv.newRekorClient sargs.ko.rekorURL = .ok client)
    (uploads : Uploads p client (rekorEntry p payload signature pem) entry)
    (logged : Logged p (rekorEntry p payload signature pem) entry bundle) :
    signBlob p senv sargs = .ok (.ok ⟨signature, pem, some bundle⟩) := by
  have uploaded := uploadToTlog_logged uploads logged
  unfold signBlob
  rw [read, selected]
  dsimp only
  rw [signed]
  show logBlob p senv _ _ signature payload = _
  unfold logBlob
  simp only [experimental, marshalled, connected, uploaded, bind, Except.bind, Bool.not_true,
    Bool.false_eq_true, if_false]

theorem writeSignedBlob_bundle {signed : SignedBlob} (files : Files)
    (bundled : sargs.ko.bundlePath ≠ "") (writes : senv.writeFault sargs.ko.bundlePath = none) :
    writeSignedBlob senv sargs signed files =
      (.ok (utf8Bytes signed.payload.base64Signature),
        Function.update files sargs.ko.bundlePath
          (some (Json.marshal signed.payload.toJson))) := by
  have wrote : senv.writeFile sargs.ko.bundlePath (Json.marshal signed.payload.toJson) files =
      (.ok (), Function.update files sargs.ko.bundlePath
        (some (Json.marshal signed.payload.toJson))) := by
    unfold SignBlobEnv.writeFile
    rw [writes]
  unfold writeSignedBlob
  rw [if_pos bundled]
  exact Proc.bind_of_ok wrote

/-- The log returns what is proposed for a blob and a signer, with a valid signed entry
timestamp. -/
def LogAnswers (p : Platform) (client : LogClient) (s : MessageSigner) (payload : Bytes) : Prop :=
  ∀ signature pem, s.signMessage payload [⟨"WithContext"⟩] = .ok signature →
    SignerVerifier.bytes p ⟨none, none, s⟩ = .ok pem →
    ∃ entry bundle, Uploads p client (rekorEntry p payload signature pem) entry ∧
      Logged p (rekorEntry p payload signature pem) entry bundle

/-- The verifier of an ECDSA key accepts a signature of the blob, unless the blob is an in-toto
envelope, where the DSSE verifier decides. -/
theorem blobVerifier_accepts (pair : KeyPair s verifier)
    (signed : s.signMessage payload [⟨"WithContext"⟩] = .ok signature) :
    (blobVerifier env payload verifier).verifySignature signature payload = none ↔
      (isIntotoDSSE payload = true →
        (env.wrapVerifier verifier).verifySignature signature payload = none) := by
  unfold blobVerifier
  cases isIntotoDSSE payload with
  | true => simp
  | false => simp [pair.verifies payload _ signature signed]

/-- The verifier that `verify-blob` loads for the public key of a private key accepts a signature
of it exactly for the ECDSA family, up to the DSSE verifier. -/
theorem KeyLaws.accepts_iff {keys : KeyLibrary} {material : PrivateKey → Bytes} {pk : PrivateKey}
    (laws : KeyLaws keys env material) (loads : keys.loadSigner pk = .ok s)
    (signed : s.signMessage payload [⟨"WithContext"⟩] = .ok signature) :
    (∃ verifier, (pk.kind = .ecdsa ∧
        env.loadECDSAVerifier (publicOf material pk) = .ok verifier) ∧
      (blobVerifier env payload verifier).verifySignature signature payload = none) ↔
    pk.kind = .ecdsa ∧ (isIntotoDSSE payload = true →
      ∀ verifier, env.loadECDSAVerifier (publicOf material pk) = .ok verifier →
        (env.wrapVerifier verifier).verifySignature signature payload = none) := by
  constructor
  · rintro ⟨verifier, ⟨family, loaded⟩, passes⟩
    obtain ⟨other, same, pair⟩ := laws.verifies pk s loads family
    have known : verifier = other := Except.ok.inj (loaded.symm.trans same)
    rw [known] at passes
    refine ⟨family, fun envelope found loading => ?_⟩
    rw [Except.ok.inj (loading.symm.trans same)]
    exact (blobVerifier_accepts pair signed).mp passes envelope
  · rintro ⟨family, wrapped⟩
    obtain ⟨verifier, loaded, pair⟩ := laws.verifies pk s loads family
    refine ⟨verifier, ⟨family, loaded⟩, ?_⟩
    exact (blobVerifier_accepts pair signed).mpr fun envelope => wrapped envelope verifier loaded

/-- **The bundle file that `sign-blob` writes is accepted by `verify-blob` exactly for an ECDSA key
and a blob that is no in-toto envelope, or one whose raw signature the DSSE verifier accepts.** -/
theorem bundle_file_accepted_iff {material : PrivateKey → Bytes} {key pass : Bytes}
    {pk : PrivateKey} (laws : KeyLaws senv.keys env material)
    (parsed : parsePrivateKey senv.keys key pass = .ok (some pk))
    (accepted : loadPrivateKey senv.keys key pass = .ok s)
    (experimental : enableExperimental env.platform = true)
    (selected : signerFromKeyOpts senv sargs.ko = .ok ⟨none, none, s⟩)
    (read : signedBytes senv sargs.payloadPath = .ok payload)
    (connected : senv.newRekorClient sargs.ko.rekorURL = .ok client)
    (answers : LogAnswers env.platform client s payload)
    (bundled : sargs.ko.bundlePath ≠ "")
    (writes : senv.writeFault sargs.ko.bundlePath = none) (files : Files) :
    ∃ signature contents,
      s.signMessage payload [⟨"WithContext"⟩] = .ok signature ∧
      signBlobCmd env.platform senv sargs files =
        .ok (.ok (utf8Bytes (Base64.stdEncode signature)),
          Function.update files sargs.ko.bundlePath (some contents)) ∧
      (env.platform.readFile sargs.ko.bundlePath = .ok contents →
        ∀ args, BundleOnly args sargs.ko.bundlePath →
          payloadBytes env args.blobRef = .ok payload →
          (verifyBlobCmd env args = .ok none ↔
            pk.kind = .ecdsa ∧ (isIntotoDSSE payload = true →
              ∀ verifier, env.loadECDSAVerifier (publicOf material pk) = .ok verifier →
                (env.wrapVerifier verifier).verifySignature signature payload = none))) := by
  have loads := (loadPrivateKey_eq_ok parsed).mp accepted
  obtain ⟨signature, signed⟩ := laws.signs pk s loads payload [⟨"WithContext"⟩]
  obtain ⟨pem, written⟩ := laws.texts pk
  have marshalled : SignerVerifier.bytes env.platform ⟨none, none, s⟩ = .ok pem := by
    show s.publicKey [⟨"WithContext"⟩] >>= env.platform.marshalPublicKeyToPEM = .ok pem
    rw [laws.owned pk s loads]
    exact written.marshalled
  obtain ⟨entry, bundle, uploads, logged⟩ := answers signature pem signed marshalled
  have made := signBlob_logged experimental read selected signed marshalled connected uploads logged
  refine ⟨signature, Json.marshal (SignedBlob.payload ⟨signature, pem, some bundle⟩).toJson, signed,
    ?_, fun stored args alone given => ?_⟩
  · unfold signBlobCmd
    simp only [made, bind, Except.bind, writeSignedBlob_bundle files bundled writes]
    rfl
  · obtain ⟨body, text, -⟩ := logged.records
    have fetched : fetchLocalSignedPayloadFromPath env.platform sargs.ko.bundlePath =
        .ok (some (SignedBlob.payload ⟨signature, pem, some bundle⟩)) := by
      unfold fetchLocalSignedPayloadFromPath
      rw [stored]
      exact unmarshal_localSignedPayload rfl text
    rw [verifyBlobCmd_bundle fetched alone given written rfl logged]
    exact laws.accepts_iff loads signed

/-- The byte that stands for a family in the texts of the sample keys. -/
def familyByte : KeyKind → UInt8
  | .ecdsa => 0
  | .rsa => 1
  | .ed25519 => 2

/-- The text of a sample key. -/
def sampleKeyText (pub : PublicKey) : Bytes := 45 :: familyByte pub.kind :: pub.material

/-- The key in a text; another text is that of the log's key. -/
def readKeyText : Bytes → PublicKey
  | 45 :: 0 :: material => ⟨.ecdsa, material⟩
  | 45 :: 1 :: material => ⟨.rsa, material⟩
  | 45 :: 2 :: material => ⟨.ed25519, material⟩
  | bytes => ⟨.ecdsa, bytes⟩

theorem readKeyText_sampleKeyText (pub : PublicKey) : readKeyText (sampleKeyText pub) = pub := by
  obtain ⟨kind, material⟩ := pub
  cases kind <;> rfl

/-- The key of a family in the sample. -/
def familyKey (kind : KeyKind) : PublicKey := ⟨kind, [4]⟩

/-- A platform in experimental mode that tells the families of keys apart, with a bundle file. -/
def familyPlatform (file : Bytes) : Platform :=
  { samplePlatform with
    marshalPublicKeyToPEM := fun pub => .ok (sampleKeyText pub)
    unmarshalPEMToPublicKey := fun text => .ok (readKeyText text)
    getenv := fun name => if name = experimentalEnv then "1" else ""
    readFile := fun _ => .ok file }

/-- The sample environment on that platform. -/
def familyEnv (file : Bytes) : BlobEnv :=
  { sampleBlobEnv "1" file with platform := familyPlatform file }

theorem familyPlatform_experimental (file : Bytes) :
    enableExperimental (familyPlatform file) = true := by
  show enableExperimental (familyPlatform []) = true
  decide +kernel

theorem keyText_sample (pub : PublicKey) (file : Bytes) :
    KeyText (familyEnv file) pub (sampleKeyText pub) where
  marshalled := rfl
  unmarshalled := congrArg Except.ok (readKeyText_sampleKeyText pub)
  dash := rfl
  uncertified cert rest found := by cases found

/-- The signer of a family. -/
def familySigner (kind : KeyKind) : MessageSigner where
  signMessage _ _ := .ok [1]
  publicKey _ := .ok (familyKey kind)

/-- Libraries that read a key of one family from every file. -/
def familyKeys (kind : KeyKind) : KeyLibrary where
  pemDecode key := some ⟨cosignPrivateKeyPemType, key⟩
  decrypt bytes _ := .ok bytes
  parsePKCS8PrivateKey bytes := .ok (some ⟨kind, bytes⟩)
  loadRSAPKCS1v15SignerVerifier _ := .ok (familySigner .rsa)
  loadECDSASignerVerifier _ := .ok (familySigner .ecdsa)
  loadED25519SignerVerifier _ := .ok (familySigner .ed25519)

theorem familyKeys_loadSigner (kind : KeyKind) (pk : PrivateKey) :
    (familyKeys kind).loadSigner pk = .ok (familySigner pk.kind) := by
  obtain ⟨family, material⟩ := pk
  cases family <;> rfl

theorem familyKeys_lawful (kind : KeyKind) (file : Bytes) :
    KeyLaws (familyKeys kind) (familyEnv file) fun _ => [4] where
  owned pk s loads opts := by
    rw [familyKeys_loadSigner] at loads
    cases loads
    rfl
  signs pk s loads message opts := by
    rw [familyKeys_loadSigner] at loads
    cases loads
    exact ⟨[1], rfl⟩
  verifies pk s loads family := by
    rw [familyKeys_loadSigner] at loads
    cases loads
    refine ⟨sampleVerifier, rfl, fun message opts signature signed => ?_,
      fun message opts signature signed => ?_⟩
    · cases signed
      rfl
    · cases signed
      exact List.cons_ne_nil _ _
  texts pk := ⟨_, keyText_sample _ file⟩

/-- The spec of the entry for the sample key of a family. -/
def familySpec (kind : KeyKind) : Json :=
  hashedrekordSpec (Hex.encodeToString sampleDigest) "AQ=="
    (Base64.stdEncode (sampleKeyText (familyKey kind)))

/-- The entry of the sample log with that spec. -/
def familyEntry (kind : KeyKind) : LogEntryAnon :=
  { signedEntry with body := sampleBody "hashedrekord" (familySpec kind) }

/-- The environment that the sample blob is signed in. -/
def familySignEnv (kind : KeyKind) : SignBlobEnv where
  keys := familyKeys kind
  readFile path := if path = "blob" then .ok samplePayload else .ok []
  stdin := .error ⟨"closed"⟩
  passFunc := none
  signerFromSecurityKey _ := .error ⟨"no key"⟩
  keylessSigner := .error ⟨"no token"⟩
  pkcs11Signer _ := .error ⟨"no token"⟩
  pkcs11Certificate _ := .ok none
  getKeyPairSecret _ := .error ⟨"not found"⟩
  getSecret _ _ := .error ⟨"not found"⟩
  kmsGet _ := .error ⟨"not found"⟩
  newRekorClient _ :=
    .ok { signingLog with createLogEntry := fun _ => .ok (AList.singleton "0" (familyEntry kind)) }
  writeFault _ := none
  stdoutFault := none

/-- Signing the sample blob with a key file, into a bundle file. -/
def familySignArgs : SignBlobArgs where
  ko := { keyRef := "cosign.key", bundlePath := "bundle.json" }
  payloadPath := "blob"

/-- Verification of the sample blob with the bundle file. -/
def familyVerifyArgs : VerifyBlobArgs where
  ko := { bundlePath := "bundle.json" }
  blobRef := "blob"

theorem familyVerifyArgs_alone : BundleOnly familyVerifyArgs "bundle.json" where
  bundlePath := rfl
  nonempty := by decide
  keyRef := rfl
  sk := rfl
  certRef := rfl
  sigRef := rfl

/-- The tree of the entry. -/
def familyTree (kind : KeyKind) : Json :=
  .obj [("kind", .str "hashedrekord"), ("spec", familySpec kind)]

theorem familyEntry_reads (kind : KeyKind) (file : Bytes) :
    Reads (familyPlatform file) (Base64.stdEncode (Json.marshal (familyTree kind))) (.hashedrekord
      ⟨some (some ⟨some "sha256", some (Hex.encodeToString sampleDigest)⟩),
        some ⟨[1], some (sampleKeyText (familyKey kind))⟩⟩) :=
  reads_hashedrekordSpec ⟨rfl, rfl⟩ rfl (Base64.stdDecode_stdEncode _)

theorem familyEntry_logged (kind : KeyKind) (file : Bytes) :
    Logged (familyPlatform file) (rekorEntry (familyPlatform file) samplePayload [1]
      (sampleKeyText (familyKey kind))) (familyEntry kind) (sampleBundle (familyEntry kind).body)
    where
  body := rfl
  integratedTime := rfl
  logIndex := rfl
  logID := rfl
  timestamp := ⟨none, rfl⟩
  records := ⟨Base64.stdEncode (Json.marshal (familyTree kind)), rfl, _,
    familyEntry_reads kind file, rfl, rfl⟩
  signed := ⟨_, _, rfl, rfl, rfl⟩

theorem familyLog_answers (kind : KeyKind) (file : Bytes) :
    LogAnswers (familyPlatform file)
      { signingLog with createLogEntry := fun _ => .ok (AList.singleton "0" (familyEntry kind)) }
      (familySigner kind) samplePayload := by
  intro signature pem signed marshalled
  cases signed
  cases marshalled
  exact ⟨familyEntry kind, _, .created rfl rfl, familyEntry_logged kind file⟩

/-- The bundle file of the sample blob. -/
def familyFile (kind : KeyKind) : Bytes :=
  Json.marshal (SignedBlob.payload ⟨[1], sampleKeyText (familyKey kind),
    some (sampleBundle (familyEntry kind).body)⟩).toJson

theorem familyFile_written (kind : KeyKind) (file : Bytes) (files : Files) :
    signBlobCmd (familyPlatform file) (familySignEnv kind) familySignArgs files =
      .ok (.ok (utf8Bytes (Base64.stdEncode [1])),
        Function.update files "bundle.json" (some (familyFile kind))) := by
  have experimental := familyPlatform_experimental file
  have selected : signerFromKeyOpts (familySignEnv kind) familySignArgs.ko =
      .ok ⟨none, none, familySigner kind⟩ := by
    cases kind <;> rfl
  have made : signBlob (familyPlatform file) (familySignEnv kind) familySignArgs = _ :=
    signBlob_logged experimental rfl selected rfl rfl rfl (.created rfl rfl)
      (familyEntry_logged kind file)
  unfold signBlobCmd
  simp only [made, bind, Except.bind]
  exact congrArg Except.ok (writeSignedBlob_bundle files (by decide) rfl)

theorem familyFile_fetched (kind : KeyKind) :
    fetchLocalSignedPayloadFromPath (familyPlatform (familyFile kind)) "bundle.json" =
      .ok (some (SignedBlob.payload ⟨[1], sampleKeyText (familyKey kind),
        some (sampleBundle (familyEntry kind).body)⟩)) :=
  unmarshal_localSignedPayload rfl rfl

/-- The bundle file that is written with an ECDSA key is accepted. -/
theorem bundle_file_accepted_ecdsa :
    signBlobCmd (familyPlatform (familyFile .ecdsa)) (familySignEnv .ecdsa) familySignArgs
        (fun _ => none) = .ok (.ok (utf8Bytes "AQ=="),
          Function.update (fun _ => none) "bundle.json" (some (familyFile .ecdsa))) ∧
      verifyBlobCmd (familyEnv (familyFile .ecdsa)) familyVerifyArgs = .ok none := by
  have experimental : enableExperimental (familyEnv (familyFile .ecdsa)).platform = true :=
    familyPlatform_experimental _
  have parsed : parsePrivateKey (familySignEnv .ecdsa).keys [] [] = .ok (some ⟨.ecdsa, []⟩) := rfl
  have accepted : loadPrivateKey (familySignEnv .ecdsa).keys [] [] = .ok (familySigner .ecdsa) :=
    rfl
  have selected : signerFromKeyOpts (familySignEnv .ecdsa) familySignArgs.ko =
      .ok ⟨none, none, familySigner .ecdsa⟩ := rfl
  have read : signedBytes (familySignEnv .ecdsa) familySignArgs.payloadPath =
      .ok samplePayload := rfl
  have written := familyFile_written .ecdsa (familyFile .ecdsa) fun _ => none
  obtain ⟨signature, contents, signed, wrote, accepts⟩ := bundle_file_accepted_iff
    (familyKeys_lawful .ecdsa _) parsed accepted experimental selected read rfl
    (familyLog_answers .ecdsa _) (by decide) rfl fun _ => none
  have same := congrArg (fun after => after.2 "bundle.json")
    (Except.ok.inj (wrote.symm.trans written))
  have stored : contents = familyFile .ecdsa := by simpa [familySignArgs] using same
  refine ⟨written, (accepts ?_ _ familyVerifyArgs_alone rfl).mpr ⟨rfl, ?_⟩⟩
  · rw [stored]
    rfl
  · intro envelope
    exact absurd envelope (by decide +kernel)

/-- `LoadPrivateKey` accepts an RSA key, but the bundle file that is written with it is refused. -/
theorem rsa_bundle_file_refused :
    loadPrivateKey (familySignEnv .rsa).keys [] [] = .ok (familySigner .rsa) ∧
      signBlobCmd (familyPlatform (familyFile .rsa)) (familySignEnv .rsa) familySignArgs
        (fun _ => none) = .ok (.ok (utf8Bytes "AQ=="),
          Function.update (fun _ => none) "bundle.json" (some (familyFile .rsa))) ∧
      verifyBlobCmd (familyEnv (familyFile .rsa)) familyVerifyArgs = .ok (some
        ⟨"pem to ecdsa: invalid public key: was *rsa.PublicKey, require *ecdsa.PublicKey"⟩) := by
  have written := familyFile_written .rsa (familyFile .rsa) fun _ => none
  have fetched : fetchLocalSignedPayloadFromPath (familyEnv (familyFile .rsa)).platform
      "bundle.json" = _ := familyFile_fetched .rsa
  obtain ⟨b64sig, given⟩ := given_bundle fetched familyVerifyArgs_alone rfl
  have selects := selectVerifier_bundle fetched familyVerifyArgs_alone
    (keyText_sample (familyKey .rsa) _)
  exact ⟨rfl, written, verifyBlobCmd_unselected given selects⟩

end Cosign.Verif
