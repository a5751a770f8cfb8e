import Cosign.Go.Time
import Cosign.Encoding.Bytes

/-!
# Keys, certificates and pools

The parts of `crypto` and `crypto/x509` values that the verification code reads. A certificate
carries the bound that its encoding puts on its dates: none is before the start of year zero.
-/
namespace Cosign.Oci

open Cosign.Go Cosign.Encoding

/-- Dynamic types of a `crypto.PublicKey`. -/
inductive KeyKind where
  /-- `*ecdsa.PublicKey`. -/
  | ecdsa
  /-- `*rsa.PublicKey`. -/
  | rsa
  /-- `ed25519.PublicKey`. -/
  | ed25519
  deriving DecidableEq, Repr

/-- What `%T` prints for the dynamic type of a key. -/
def KeyKind.typeName : KeyKind → String
  | .ecdsa => "*ecdsa.PublicKey"
  | .rsa => "*rsa.PublicKey"
  | .ed25519 => "ed25519.PublicKey"

/-- A `crypto.PublicKey`: its dynamic type and its key material. -/
structure PublicKey where
  /-- Dynamic type of the interface value. -/
  kind : KeyKind
  /-- Key material. -/
  material : Bytes
  deriving DecidableEq, Repr

/-- A certificate extension. -/
structure Extension where
  /-- Object identifier. -/
  id : List Nat
  /-- `string(ext.Value)`. -/
  value : String
  deriving DecidableEq, Repr

/-- The fields of an `x509.Certificate` that are read. -/
structure Certificate where
  /-- Complete DER content. -/
  raw : Bytes
  /-- Subject public key. -/
  publicKey : PublicKey
  /-- First second of the validity period. -/
  notBefore : Time
  /-- Last second of the validity period. -/
  notAfter : Time
  /-- DNS names of the subject alternative name. -/
  dnsNames : List String
  /-- Email addresses of the subject alternative name. -/
  emailAddresses : List String
  /-- IP addresses of the subject alternative name, each by its `String()`. -/
  ipAddresses : List String
  /-- URIs of the subject alternative name, each by its `String()`. -/
  uris : List String
  /-- Extensions in encoding order. -/
  extensions : List Extension
  /-- An X.509 time has no year before zero. -/
  dated : Time.earliest ≤ notBefore.seconds.toInt
  deriving DecidableEq, Repr

/-- An instant within the validity period, both ends included. -/
def Certificate.ValidAt (cert : Certificate) (time : Time) : Prop :=
  cert.notBefore.seconds ≤ time.seconds ∧ time.seconds ≤ cert.notAfter.seconds

/-- The second `sec` of the Unix epoch, as an integer, is within the validity period. -/
def Certificate.Covers (cert : Certificate) (sec : Int64) : Prop :=
  cert.notBefore.unixSeconds ≤ sec.toInt ∧ sec.toInt ≤ cert.notAfter.unixSeconds

/-- An instant within the validity period did not wrap around, so the period covers the second
it was computed from. -/
theorem Certificate.ValidAt.covers {cert : Certificate} {sec : Int64}
    (valid : cert.ValidAt (Time.unix sec)) : cert.Covers sec := by
  obtain ⟨lower, upper⟩ := valid
  rw [Int64.le_iff_toInt_le] at lower upper
  have exact := Time.unixSeconds_unix sec (Int.le_trans cert.dated lower)
  unfold Certificate.Covers
  rw [← exact]
  unfold Time.unixSeconds
  omega

/-- An `x509.CertPool`. -/
structure CertPool where
  /-- Certificates in the order they were added. -/
  certs : List Certificate
  deriving DecidableEq, Repr

/-- `x509.NewCertPool`. -/
def CertPool.empty : CertPool := ⟨[]⟩

/-- `pool.AddCert`: a certificate already in the pool is not added again. -/
def CertPool.addCert (pool : CertPool) (cert : Certificate) : CertPool :=
  if pool.certs.any fun other => other.raw == cert.raw then pool else ⟨pool.certs ++ [cert]⟩

end Cosign.Oci
