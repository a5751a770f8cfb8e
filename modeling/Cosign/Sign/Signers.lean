import Cosign.Oci.Mutate
import Cosign.Verify.Attestation
import Cosign.Verify.LogClient

/-!
# Signers and the attestor

The sign command stacks up to three signers: the payload signer builds a static signature, the
Fulcio signer adds a certificate and its chain, the Rekor signer uploads what it has to the log and
adds the bundle. The attestor has the same key as the payload signer and puts its signature into an
envelope.
-/
namespace Cosign.Sign

open Cosign.Go Cosign.Encoding Cosign.Oci Cosign.Verify

/-- A `signature.SignOption`. -/
structure SignMessageOption where
  /-- Name of the option. -/
  name : String
  deriving DecidableEq, Repr

/-- A `signature.Signer`, by what its methods return. -/
structure MessageSigner where
  /-- `SignMessage(message, opts...)`. -/
  signMessage : Bytes → List SignMessageOption → Except GoError Bytes
  /-- `PublicKey(opts...)`. -/
  publicKey : List PublicKeyOption → Except GoError PublicKey

/-- A `cosign.Signer`, by its method `Sign`. -/
structure Signer where
  /-- `Sign(ctx, payload)`. -/
  sign : Except GoError Bytes → Call (Except GoError (OciSignature × PublicKey))

/-- An option of `NewSigner`, by its type. -/
inductive SignerOption where
  /-- A `signature.SignOption`. -/
  | signMessage (option : SignMessageOption)
  /-- A `signature.PublicKeyOption`. -/
  | publicKey (option : PublicKeyOption)
  /-- A value of another type, by its type and its text. -/
  | other (type text : String)
  deriving DecidableEq, Repr

/-- `payloadSigner`. -/
structure PayloadSigner where
  /-- The signer of messages. -/
  payloadSigner : MessageSigner
  payloadSignerOpts : List SignMessageOption
  publicKeyProviderOpts : List PublicKeyOption

namespace PayloadSigner

/-- `ps.publicKey(ctx)`. -/
def publicKey (ps : PayloadSigner) : Except GoError PublicKey :=
  ps.payloadSigner.publicKey (⟨"WithContext"⟩ :: ps.publicKeyProviderOpts)

/-- `ps.signPayload(ctx, payloadBytes)`. -/
def signPayload (ps : PayloadSigner) (payloadBytes : Bytes) : Except GoError Bytes :=
  ps.payloadSigner.signMessage payloadBytes (⟨"WithContext"⟩ :: ps.payloadSignerOpts)

/-- `ps.Sign(ctx, payload)`. -/
def sign (p : Platform) (ps : PayloadSigner) (payload : Except GoError Bytes) :
    Call (Except GoError (OciSignature × PublicKey)) :=
  match payload with
  | .error err => .ok (.error err)
  | .ok payloadBytes =>
    match ps.signPayload payloadBytes with
    | .error err => .ok (.error err)
    | .ok sig =>
      match ps.publicKey with
      | .error err => .ok (.error err)
      | .ok pk => do
        let ociSig ← newSignature p.pem p.sha256 payloadBytes (Base64.stdEncode sig) []
        .ok (.ok (ociSig, pk))

/-- One step of the loop over the options of `newSigner`. -/
def addOption (ps : PayloadSigner) : SignerOption → Call PayloadSigner
  | .signMessage option => .ok { ps with payloadSignerOpts := ps.payloadSignerOpts ++ [option] }
  | .publicKey option =>
    .ok { ps with publicKeyProviderOpts := ps.publicKeyProviderOpts ++ [option] }
  | .other type text => .error (.raised ⟨"options must be of type `signature.SignOption` or " ++
      "`signature.PublicKeyOption`. Got a " ++ type ++ ": " ++ text⟩)

end PayloadSigner

/-- `newSigner` of package `payload`. -/
def newSigner (s : MessageSigner) (signAndPublicKeyOptions : List SignerOption) :
    Call PayloadSigner :=
  signAndPublicKeyOptions.foldlM PayloadSigner.addOption ⟨s, [], []⟩

/-- `payload.NewSigner`. -/
def newPayloadSigner (p : Platform) (s : MessageSigner)
    (signAndPublicKeyOptions : List SignerOption) : Call Signer := do
  let signer ← newSigner s signAndPublicKeyOptions
  .ok ⟨signer.sign p⟩

/-- `fulcio.NewSigner`; the slices may be nil. -/
def newFulcioSigner (p : Platform) (inner : Signer) (cert chain : Option String) : Signer where
  sign payload := do
    match ← inner.sign payload with
    | .error err => .ok (.error err)
    | .ok (sig, pub) =>
      match ← mutateSignature p.pem sig [.withCertChain cert chain] with
      | .error err => .ok (.error err)
      | .ok newSig => .ok (.ok (newSig, pub))

/-- `uploadToTlog`; the index of the entry is printed. -/
def uploadToTlog (rekorBytes : Bytes) (upload : Bytes → Call (Except GoError LogEntryAnon)) :
    Call (Except GoError (Option RekorBundle)) := do
  match ← upload rekorBytes with
  | .error err => .ok (.error err)
  | .ok entry => do
    let _ ← deref entry.logIndex
    let bundle ← entryToBundle entry
    .ok (.ok bundle)

/-- What the Rekor signer uploads as the key: the certificate, if there is one. -/
def rekorKey (p : Platform) (cert : Option Certificate) (pub : PublicKey) :
    Except GoError Bytes :=
  match cert with
  | some cert => p.marshalCertificateToPEM (some cert)
  | none => p.marshalPublicKeyToPEM pub

/-- What the Rekor signer reads from a signature: the payload, the signature and the key. -/
def rekorParts (p : Platform) (sig : Signature) (pub : PublicKey) :
    Except GoError (Bytes × Bytes × Bytes) := do
  let payloadBytes ← sig.payload
  let b64Sig ← sig.base64Signature
  let sigBytes ← match Base64.stdDecode b64Sig with
    | none => .error corruptInput
    | some sigBytes => .ok sigBytes
  let cert ← sig.cert
  let rekorBytes ← rekorKey p cert pub
  .ok (payloadBytes, sigBytes, rekorBytes)

/-- `rekor.NewSigner`. -/
def newRekorSigner (p : Platform) (inner : Signer) (rClient : LogClient) : Signer where
  sign payload := do
    match ← inner.sign payload with
    | .error err => .ok (.error err)
    | .ok (sig, pub) =>
      match rekorParts p sig.toSignature pub with
      | .error err => .ok (.error err)
      | .ok (payloadBytes, sigBytes, rekorBytes) => do
        match ← uploadToTlog rekorBytes (tLogUpload p rClient sigBytes payloadBytes) with
        | .error err => .ok (.error err)
        | .ok bundle =>
          match ← mutateSignature p.pem sig [.withBundle bundle] with
          | .error err => .ok (.error err)
          | .ok newSig => .ok (.ok (newSig, pub))

/-- The signers that the sign command stacks when it uploads to the log: a certificate that is
not nil adds the Fulcio signer. -/
def stackSigners (p : Platform) (s : MessageSigner) (cert chain : Option String)
    (rClient : LogClient) : Call Signer := do
  let signer ← newPayloadSigner p s []
  match cert with
  | some cert => .ok (newRekorSigner p (newFulcioSigner p signer (some cert) chain) rClient)
  | none => .ok (newRekorSigner p signer rClient)

/-- `MarshalJSON` of the `payload.Cosign` of an image: the members of the annotations in the
order in which they are written, or null for a nil map. -/
def cosignPayload (repository : String) (digest : Hash)
    (annotations : Option (List (String × String))) : Bytes :=
  Json.marshal (.obj
    [("critical", .obj
      [("identity", .obj [("docker-reference", .str repository)]),
        ("image", .obj [("docker-manifest-digest", .str digest.string)]),
        ("type", .str "cosign container image signature")]),
      ("optional", match annotations with
        | none => .null
        | some members => .obj (members.map fun member => (member.1, .str member.2)))])

/-- The tree that `json.Marshal` writes for an envelope. -/
def envelopeJson (env : Envelope) : Json :=
  .obj [("payloadType", .str env.payloadType), ("payload", .str env.payload),
    ("signatures", .arr (env.signatures.map fun signature =>
      .obj [("keyid", .str signature.keyid), ("sig", .str signature.sig)]))]

/-- `types.DssePayloadType`. -/
def dssePayloadType : String := "application/vnd.dsse.envelope.v1+json"

/-- `payloadAttestor`. -/
structure PayloadAttestor where
  signer : PayloadSigner
  payloadType : String

/-- `pa.DSSEAttest(ctx, payload)`: what is signed, the encoding of the payload type and the
payload, is also what is stored as the payload of the envelope. -/
def dsseAttest (p : Platform) (pa : PayloadAttestor) (payload : Except GoError Bytes) :
    Call (Except GoError (OciSignature × PublicKey)) :=
  match payload with
  | .error err => .ok (.error err)
  | .ok bytes =>
    let pb := Envelope.pae pa.payloadType bytes
    match pa.signer.signPayload pb with
    | .error err => .ok (.error err)
    | .ok sig =>
      match pa.signer.publicKey with
      | .error err => .ok (.error err)
      | .ok pk => do
        let envelope : Envelope :=
          ⟨pa.payloadType, Base64.stdEncode pb, [⟨"", Base64.stdEncode sig⟩]⟩
        let envelopeJSON := Json.marshal (envelopeJson envelope)
        let att ← newAttestation p.pem p.sha256 envelopeJSON
          [.withLayerMediaType dssePayloadType]
        .ok (.ok (att, pk))

end Cosign.Sign
