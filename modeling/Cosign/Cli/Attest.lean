import Cosign.Cli.VerifyAttestation
import Cosign.Remote.Registry
import Cosign.Sign.Signers
import Cosign.Sign.Statement

/-!
# The attest command

`AttestCmd` makes a statement about an image from a predicate, signs it into an envelope and
attaches the envelope to the image. The type is a name of `PredicateTypeMap` or a URI. The image and
the key are given by the results of the calls that find them.
-/
namespace Cosign.Cli

open Cosign.Go Cosign.Encoding Cosign.Oci Cosign.Verify Cosign.Policy Cosign.Sign
open Cosign.Remote (Digest)

/-- `ParsePredicateType`. -/
def parsePredicateType (kit : PredicateKit) (t : String) : Except GoError String :=
  match (predicateTypeMap kit.codec).lookup t with
  | some uri => .ok uri
  | none =>
    match kit.parseRequestURI t with
    | some _ => .error ⟨"invalid predicate type: " ++ t⟩
    | none => .ok t

/-- `KeyParseError`. -/
def keyParseError : GoError :=
  ⟨"exactly one of: key reference (--key), or hardware token (--sk) must be provided"⟩

/-- `SignMessage` of `dsse.WrapSigner`: the payload and its signature in an envelope. -/
def wrappedSignMessage (signer : MessageSigner) (payloadType : String) (payload : Bytes) :
    Except GoError Bytes := do
  let sig ← signer.signMessage (Envelope.pae payloadType payload) [⟨"WithContext"⟩]
  .ok (Json.marshal (envelopeJson
    ⟨payloadType, Base64.stdEncode payload, [⟨"", Base64.stdEncode sig⟩]⟩))

/-- `sign.SignerVerifier`. -/
structure SignerVerifier where
  /-- `Cert`, a PEM text. -/
  cert : Option String
  /-- `Chain`, a PEM text. -/
  chain : Option String
  /-- The signer inside. -/
  signer : MessageSigner

/-- The flags of the command and the results of the calls before a statement is made. -/
structure AttestCommand where
  /-- Whether a key reference is given. -/
  keyRef : Bool
  /-- Use a hardware security key. -/
  sk : Bool
  predicateType : String
  /-- `name.ParseReference`, the client options and `ResolveDigest`: the repository and the
  digest. -/
  digest : Except GoError (String × Digest)
  /-- `SignerFromKeyOpts`. -/
  signer : Except GoError SignerVerifier
  /-- The predicate file, opened and read to its end. -/
  predicate : Except GoError Bytes
  /-- The time of the statement, formatted. -/
  timestamp : String
  /-- `TLogUploadInTotoAttestation` of the envelope with a key, if the command uploads. -/
  tlogUpload : Option (Bytes → Bytes → Call (Except GoError LogEntryAnon))

/-- `Bytes`, which is uploaded as the key: the certificate, or else the public key in PEM. -/
def SignerVerifier.bytes (p : Platform) (sv : SignerVerifier) : Except GoError Bytes :=
  match sv.cert with
  | some cert => .ok (utf8Bytes cert)
  | none => sv.signer.publicKey [⟨"WithContext"⟩] >>= p.marshalPublicKeyToPEM

/-- The bundle for an envelope: nothing if the command does not upload. -/
def attestBundle (p : Platform) (c : AttestCommand) (sv : SignerVerifier) (signedPayload : Bytes) :
    Call (Except GoError (List StaticOption)) :=
  match c.tlogUpload with
  | none => .ok (.ok [])
  | some upload =>
    match sv.bytes p with
    | .error err => .ok (.error err)
    | .ok rekorBytes => do
      match ← uploadToTlog rekorBytes (upload signedPayload) with
      | .error err => .ok (.error err)
      | .ok bundle => .ok (.ok [.withBundle bundle])

/-- A key or a token is required unless the experimental mode is on, and never both. -/
def checkKeyFlags (p : Platform) (c : AttestCommand) : Except GoError Unit :=
  if enableExperimental p then
    if 1 < [c.keyRef, c.sk].count true then .error keyParseError else .ok ()
  else if !oneOf [c.keyRef, c.sk] then .error keyParseError
  else .ok ()

/-- The `GenerateOpts` of the command for an image. -/
def AttestCommand.generateOpts (c : AttestCommand) (repository : String) (digest : Digest) :
    GenerateOpts where
  predicate := c.predicate
  type := c.predicateType
  digest := digest.hash.hex
  repo := repository
  timestamp := c.timestamp

/-- `AttestCmd` up to the statement and its envelope. -/
def attestPayload (kit : PredicateKit) (p : Platform) (c : AttestCommand) :
    Except GoError (SignerVerifier × Bytes) := do
  checkKeyFlags p c
  let _ ← parsePredicateType kit c.predicateType
  let (repository, digest) ← c.digest
  let sv ← wrapping "getting signer" c.signer
  let sh ← generateStatement kit (c.generateOpts repository digest)
  let signedPayload ← wrapping "signing"
    (wrappedSignMessage sv.signer intotoPayloadType (Json.marshal (GeneratedStatement.json sh)))
  .ok (sv, signedPayload)

/-- The options of the attestation for a certificate. -/
def certOptions (sv : SignerVerifier) : List StaticOption :=
  match sv.cert with
  | none => []
  | some cert => [.withCertChain (some cert) sv.chain]

/-- `AttestCmd`, by the attestation that it attaches. -/
def attest (kit : PredicateKit) (p : Platform) (c : AttestCommand) :
    Call (Except GoError OciSignature) :=
  match attestPayload kit p c with
  | .error err => .ok (.error err)
  | .ok (sv, signedPayload) => do
    match ← attestBundle p c sv signedPayload with
    | .error err => .ok (.error err)
    | .ok bundle => do
      let sig ← newAttestation p.pem p.sha256 signedPayload
        (.withLayerMediaType dssePayloadType :: certOptions sv ++ bundle)
      .ok (.ok sig)

end Cosign.Cli
