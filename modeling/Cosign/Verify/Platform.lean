import Cosign.Oci.Signature

/-!
# What verification calls outside the repository

The verification code calls cryptography, the generated Rekor models and client, the trusted root
and the operating system. `Platform` collects those functions; a result about the code holds for
every platform unless it names what it needs of one. A Rekor server answers as it likes, with every
pointer possibly nil.
-/
namespace Cosign.Verify

open Cosign.Go Cosign.Encoding Cosign.Oci

/-- A `signature.PublicKeyOption`. -/
structure PublicKeyOption where
  /-- Name of the option. -/
  name : String
  deriving DecidableEq, Repr

/-- A `signature.Verifier`, by what its methods return. -/
structure Verifier where
  /-- `VerifySignature(signature, message)`. -/
  verifySignature : Bytes → Bytes → Option GoError
  /-- `PublicKey(opts...)`. -/
  publicKey : List PublicKeyOption → Except GoError PublicKey

/-- Hash field of the Rekor models; both pointers are nil when absent from the JSON. -/
structure EntryHash where
  /-- Name of the hash function. -/
  algorithm : Option String
  /-- Digest in hexadecimal. -/
  value : Option String
  deriving DecidableEq, Repr

/-- `RekordV001SchemaSignature` and `HashedrekordV001SchemaSignature`. -/
structure EntrySignature where
  /-- The decoded `strfmt.Base64` content. -/
  content : Bytes
  /-- Content of the public key, absent when the pointer is nil. -/
  publicKey : Option Bytes
  deriving DecidableEq, Repr

/-- `RekordV001Schema` and `HashedrekordV001Schema`: `data` points to an object whose `hash`
is again a pointer. -/
structure RekordObj where
  /-- The `data` pointer and, in it, the `hash` pointer. -/
  data : Option (Option EntryHash)
  /-- The `signature` pointer. -/
  signature : Option EntrySignature
  deriving DecidableEq, Repr

/-- `IntotoV001Schema`: `content` points to an object whose `hash` is again a pointer. -/
structure IntotoObj where
  /-- The `content` pointer and, in it, the `hash` pointer. -/
  content : Option (Option EntryHash)
  /-- The `publicKey` pointer, decoded. -/
  publicKey : Option Bytes
  deriving DecidableEq, Repr

/-- `models.ProposedEntry`, as the verification code builds it. -/
inductive ProposedEntry where
  /-- An in-toto entry: the envelope and the key. -/
  | intoto (envelope publicKey : Bytes)
  /-- A hashedrekord entry: the hash of the payload, the signature and the key. -/
  | hashedrekord (algorithm value : String) (signature publicKey : Bytes)
  deriving DecidableEq, Repr

/-- `models.InclusionProof`. -/
structure InclusionProof where
  /-- Hashes of the path, in hexadecimal. -/
  hashes : List String
  /-- Index of the leaf. -/
  logIndex : Option Int64
  /-- Root of the tree, in hexadecimal. -/
  rootHash : Option String
  /-- Number of leaves. -/
  treeSize : Option Int64
  deriving DecidableEq, Repr

/-- `models.LogEntryAnonVerification`. -/
structure LogEntryVerification where
  inclusionProof : Option InclusionProof
  /-- The log's signature over the entry. -/
  signedEntryTimestamp : Bytes
  deriving DecidableEq, Repr

/-- `models.LogEntryAnon`. -/
structure LogEntryAnon where
  /-- The `interface{}` of the entry body. -/
  body : Json
  /-- Unix second at which the log integrated the entry. -/
  integratedTime : Option Int64
  /-- Index of the entry. -/
  logIndex : Option Int64
  /-- Hash of the key of the log. -/
  logID : Option String
  /-- Proofs, when given. -/
  verification : Option LogEntryVerification
  deriving Repr

/-- A Rekor client, by what the server answers. -/
structure RekorClient where
  /-- `Entries.SearchLogQuery`: a list of maps from UUID to entry. -/
  searchLogQuery : List ProposedEntry → Except GoError (List (GoMap LogEntryAnon))
  /-- `Pubkey.GetPublicKey`: a PEM text. -/
  getPublicKey : Except GoError String

/-- `tuf.StatusKind`. -/
inductive StatusKind where
  /-- The metadata does not say. -/
  | unknown
  /-- In use. -/
  | active
  /-- No longer in use. -/
  | expired
  deriving DecidableEq, Repr

/-- `tuf.TargetFile`. -/
structure TargetFile where
  /-- Content of the target. -/
  target : Bytes
  /-- Status in the metadata. -/
  status : StatusKind
  deriving DecidableEq, Repr

/-- `x509.VerifyOptions`, as the verification code sets them. -/
structure VerifyOptions where
  /-- Instant for which validity is checked. -/
  currentTime : Time
  /-- Trusted roots. -/
  roots : Option CertPool
  /-- Certificates that may link the leaf to a root. -/
  intermediates : Option CertPool
  deriving DecidableEq, Repr

/-- What `cert.Verify` returns on success: one or more chains, each from leaf to root. -/
structure Chains where
  /-- The chain at index zero. -/
  first : List Certificate
  /-- The chains after it. -/
  rest : List (List Certificate)
  deriving DecidableEq, Repr

/-- `dsse.Signature`. -/
structure EnvelopeSignature where
  /-- Optional key hint. -/
  keyid : String
  /-- The signature in base64. -/
  sig : String
  deriving DecidableEq, Repr

/-- `dsse.Envelope`. -/
structure Envelope where
  /-- Media type of the payload. -/
  payloadType : String
  /-- The payload in base64. -/
  payload : String
  /-- Signatures over the payload. -/
  signatures : List EnvelopeSignature
  deriving DecidableEq, Repr

/-- A signed certificate timestamp. -/
structure Sct where
  /-- Hash of the key of the CT log. -/
  keyID : Bytes
  /-- The log's promise and its signature. -/
  content : Bytes
  deriving DecidableEq, Repr

/-- `pem.Decode`: no block, or the content of the first block and the remaining bytes, which
are fewer. -/
structure PemDecoder where
  /-- The first block and the rest. -/
  decode : Bytes → Option (Bytes × Bytes)
  /-- A block takes up bytes. -/
  shorter : ∀ data block rest, decode data = some (block, rest) → rest.length < data.length

/-- Functions that verification calls and the repository does not define. -/
structure Platform where
  /-- `cryptoutils.LoadCertificatesFromPEM`. -/
  pem : PemLoader
  /-- `cryptoutils.MarshalCertificateToPEM`; a nil certificate is an error. -/
  marshalCertificateToPEM : Option Certificate → Except GoError Bytes
  /-- `cryptoutils.MarshalCertificatesToPEM`. -/
  marshalCertificatesToPEM : List Certificate → Except GoError Bytes
  /-- `cryptoutils.MarshalPublicKeyToPEM`. -/
  marshalPublicKeyToPEM : PublicKey → Except GoError Bytes
  /-- `cryptoutils.UnmarshalPEMToPublicKey`. -/
  unmarshalPEMToPublicKey : Bytes → Except GoError PublicKey
  /-- `x509.MarshalPKIXPublicKey`. -/
  marshalPKIXPublicKey : PublicKey → Except GoError Bytes
  /-- `signature.LoadVerifier` at SHA-256. -/
  loadVerifier : PublicKey → Except GoError Verifier
  /-- `cert.Verify` with the code-signing usage. -/
  verifyCertificate : Certificate → VerifyOptions → Except GoError Chains
  /-- `regexp.Compile` and the `MatchString` of its result. -/
  compileRegexp : String → Except GoError (String → Bool)
  /-- `x509util.ParseSCTsFromCertificate`. -/
  parseSCTsFromCertificate : Bytes → Except GoError (List Sct)
  /-- `x509util.CertificateFromPEM`, by the DER content. -/
  certificateFromPEM : Bytes → Except GoError Bytes
  /-- `x509util.CertificatesFromPEM`, by the DER contents. -/
  certificatesFromPEM : Bytes → Except GoError (List Bytes)
  /-- `json.Unmarshal` into an `AddChainResponse` and its `ToSignedCertificateTimestamp`. -/
  parseAddChainResponse : Bytes → Except GoError Sct
  /-- `ctutil.GetCTLogID`. -/
  ctLogID : PublicKey → Except GoError Bytes
  /-- `ctutil.VerifySCT` of a key, a chain, an SCT and whether it is embedded. -/
  verifySCTSignature : PublicKey → List Bytes → Sct → Bool → Option GoError
  /-- `pem.Decode`. -/
  pemDecoder : PemDecoder
  /-- `x509.ParsePKIXPublicKey`. -/
  parsePKIXPublicKey : Bytes → Except GoError PublicKey
  /-- `x509.ParsePKCS1PublicKey`. -/
  parsePKCS1PublicKey : Bytes → Except GoError PublicKey
  /-- `sha256.Sum256`. -/
  sha256 : Bytes → Bytes
  /-- `ecdsa.VerifyASN1` of a hash and a signature. -/
  verifyASN1 : PublicKey → Bytes → Bytes → Bool
  /-- `jsoncanonicalizer.Transform`. -/
  canonicalize : Bytes → Except GoError Bytes
  /-- `json.Unmarshal` into a `models.Rekord`, by its spec. -/
  unmarshalRekord : Bytes → Except GoError Json
  /-- `json.Unmarshal` into a `models.Hashedrekord`, by its spec. -/
  unmarshalHashedrekord : Bytes → Except GoError Json
  /-- `json.Unmarshal` into a `models.Intoto`, by its spec. -/
  unmarshalIntoto : Bytes → Except GoError Json
  /-- `json.Unmarshal` into a `models.RekordV001Schema`. -/
  unmarshalRekordObj : Bytes → Except GoError RekordObj
  /-- `json.Unmarshal` into a `models.HashedrekordV001Schema`. -/
  unmarshalHashedrekordObj : Bytes → Except GoError RekordObj
  /-- `json.Unmarshal` into a `models.IntotoV001Schema`. -/
  unmarshalIntotoObj : Bytes → Except GoError IntotoObj
  /-- `rfc6962.DefaultHasher.HashLeaf`. -/
  hashLeaf : Bytes → Bytes
  /-- `VerifyInclusionProof` of an index, a tree size, a path, a root and a leaf hash. -/
  verifyInclusionProof : Int64 → Int64 → List Bytes → Bytes → Bytes → Option GoError
  /-- `Verify` of a DSSE envelope verifier that holds one signature verifier. -/
  verifyEnvelope : Verifier → Envelope → Option GoError
  /-- `tuf.NewFromEnv` and `GetTargetsByMeta` for the Rekor keys. -/
  rekorTargets : Except GoError (List TargetFile)
  /-- `tuf.NewFromEnv` and `GetTargetsByMeta` for the CT log keys. -/
  ctfeTargets : Except GoError (List TargetFile)
  /-- `os.Getenv`. -/
  getenv : String → String
  /-- `os.ReadFile`. -/
  readFile : String → Except GoError Bytes
  /-- `t.Format(time.RFC3339)`. -/
  formatRFC3339 : Time → String

/-- `v1alpha1.Identity`. -/
structure Identity where
  /-- Pattern for the issuer; empty means any. -/
  issuer : String
  /-- Pattern for a subject alternative name; empty means any. -/
  subject : String
  deriving DecidableEq, Repr

/-- A `name.Repository`. -/
structure Repository where
  /-- Host of the registry. -/
  registry : String
  /-- Whether the registry may be reached without TLS. -/
  insecure : Bool
  /-- Path in the registry. -/
  repository : String
  deriving DecidableEq, Repr

/-- An `authn.Keychain`. -/
structure Keychain where
  /-- What tells keychains apart. -/
  name : String
  deriving DecidableEq, Repr

/-- An `ociremote.Option`, by what it sets. -/
inductive RemoteOption where
  | targetRepository (repository : Repository)
  /-- `WithRemoteOptions` with the credentials of a keychain. -/
  | authFromKeychain (keychain : Keychain)
  deriving DecidableEq, Repr

/-- `CheckOpts`: the options for checking signatures. -/
structure CheckOpts where
  /-- Options for interacting with the registry. -/
  registryClientOpts : List RemoteOption := []
  /-- Annotations that a signature must carry; the source's map of interfaces only ever gets
  strings. -/
  annotations : Option (GoMap String) := none
  /-- Verifies claims present in the signature, if provided. -/
  claimVerifier : Option (Signature → Hash → Option (GoMap String) → Option GoError) := none
  /-- Transparency log to consult, if set. -/
  rekorClient : Option RekorClient := none
  /-- Key to verify signatures with, if set. -/
  sigVerifier : Option Verifier := none
  /-- Options given to `sigVerifier.publicKey`. -/
  pkOpts : List PublicKeyOption := []
  /-- Root CA certificates. -/
  rootCerts : Option CertPool := none
  /-- Intermediate CA certificates. -/
  intermediateCerts : Option CertPool := none
  /-- Email expected in the certificate; empty means any. -/
  certEmail : String := ""
  /-- OIDC issuer expected in the certificate; empty means any. -/
  certOidcIssuer : String := ""
  /-- Require an embedded SCT. -/
  enforceSCT : Bool := false
  /-- Identities of which one has to match; no identities means any. -/
  identities : List Identity := []

end Cosign.Verify
