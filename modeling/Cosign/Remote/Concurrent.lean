import Cosign.Remote.Registry
import Mathlib.Logic.Relation

/-!
# Clients that publish at the same time

The commands that sign, attach a signature or attest read the list of a digest, extend it and write
it back, with no condition on the write. Other clients can write in between, so a command works with
the registry as it was when it read. The manifest of the image does not change.
-/
namespace Cosign.Remote

open Cosign.Go Cosign.Oci
open Cosign.Verify (Repository)

/-- One run of a command that publishes, from the point where it has a signature or an
attestation. -/
inductive Publication where
  /-- The sign or the attach-signature command. -/
  | signature (op : Operation)
  /-- The attest command, whose attestation is `op.sig`. -/
  | attestation (op : Operation)

/-- The tag that is read and written. -/
def Publication.tag (opts : List TagOption) : Publication → Tag
  | .signature op => signatureTag op.repository op.digest opts
  | .attestation op => attestationTag op.repository op.digest opts

/-- The end of the commands, with the registry as it is when the entity is read and as it is when
the list is written. -/
def publishFrom (pem : PemLoader) (opts : List TagOption) (seen current : Registry) (op : Operation)
    (attach : SignedEntity → OciSignature → List SignOption → SignedEntity)
    (write : Registry → Faults → Repository → SignedEntity → List TagOption →
      Registry × Call (Option GoError)) : Registry × Call (Option GoError) :=
  match signedEntity pem seen op.faults op.repository op.digest opts with
  | .error err => (current, .ok (some err))
  | .ok se => write current op.faults op.repository (attach se op.sig op.signOpts) opts

/-- The end of `signDigest` and of `SignatureCmd`, and that of `AttestCmd`. -/
def Publication.runFrom (pem : PemLoader) (opts : List TagOption) (seen current : Registry) :
    Publication → Registry × Call (Option GoError)
  | .signature op => publishFrom pem opts seen current op attachSignatureToEntity writeSignatures
  | .attestation op =>
    publishFrom pem opts seen current op attachAttestationToEntity writeAttestations

/-- A command that has read the list and has not written it yet. -/
structure Client where
  /-- The command. -/
  publication : Publication
  /-- The registry as the command has seen it. -/
  seen : Registry

/-- A registry and the commands that are under way. -/
structure Service where
  /-- What the registry holds. -/
  registry : Registry
  /-- The commands. -/
  clients : List Client

/-- One step of a command, of those that may run. -/
inductive ServiceStep (pem : PemLoader) (opts : List TagOption) (runs : Publication → Prop) :
    Service → Service → Prop where
  /-- A command reads. -/
  | read (service : Service) (publication : Publication) (may : runs publication) :
      ServiceStep pem opts runs service
        ⟨service.registry, ⟨publication, service.registry⟩ :: service.clients⟩
  /-- A command writes, or fails. -/
  | write (service : Service) (before after : List Client) (client : Client)
      (waiting : service.clients = before ++ client :: after) :
      ServiceStep pem opts runs service
        ⟨(client.publication.runFrom pem opts client.seen service.registry).1, before ++ after⟩

/-- What commands can lead to. -/
def ServiceRun (pem : PemLoader) (opts : List TagOption) (runs : Publication → Prop) :
    Service → Service → Prop :=
  Relation.ReflTransGen (ServiceStep pem opts runs)

/-- A command that nothing comes in between is an operation of its own. -/
theorem Publication.runFrom_signature (pem : PemLoader) (opts : List TagOption)
    (registry : Registry) (op : Operation) :
    (Publication.signature op).runFrom pem opts registry registry = op.run pem opts registry := rfl

end Cosign.Remote
