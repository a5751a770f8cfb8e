import Cosign.Verif.Admission
import Cosign.Verif.Attestor
import Cosign.Verif.Binding
import Cosign.Verif.BlobEvidence
import Cosign.Verif.BlobIdentity
import Cosign.Verif.BundleMessage
import Cosign.Verif.Certificate
import Cosign.Verif.Copy
import Cosign.Verif.Envelope
import Cosign.Verif.Evidence
import Cosign.Verif.Frame
import Cosign.Verif.Interleaving
import Cosign.Verif.Isolation
import Cosign.Verif.Layout
import Cosign.Verif.LoopAgreement
import Cosign.Verif.Mirror
import Cosign.Verif.Panics
import Cosign.Verif.PolicyRun
import Cosign.Verif.PolicyTransport
import Cosign.Verif.Publication
import Cosign.Verif.Replacement
import Cosign.Verif.Signing
import Cosign.Verif.TufCache
import Cosign.Verif.PolicyMaps
import Cosign.Oci.Attach
import Cosign.Verif.Attach
import Cosign.Verif.Duplicates
import Cosign.Go.Callback
import Cosign.Oci.Map
import Cosign.Spec.Visit
import Cosign.Verif.Rebuild
import Cosign.Verif.Map
import Cosign.Verif.MapReference
import Cosign.Verif.Skipping
import Cosign.Cli.Load
import Cosign.Verif.Load
import Cosign.Encoding.Interface
import Cosign.Sign.Statement
import Cosign.Cli.Attest
import Cosign.Verif.PredicateTypes
import Cosign.Cli.SignBlob
import Cosign.Verif.BlobRoundTrip
import Cosign.Verif.ExactMatching
import Cosign.Verif.SecretKeys
import Cosign.Verif.Sources
import Cosign.Encoding.Text
import Cosign.Spec.Rounds
import Cosign.Tuf.Policy
import Cosign.Verif.KeyLookup
import Cosign.Verif.PolicySignatures
import Cosign.Verif.PolicyKeys
import Cosign.Tuf.Targets
import Cosign.Verif.TargetsByMeta
import Cosign.Remote.Upload
import Cosign.Verif.Upload
import Cosign.Encoding.Expand
import Cosign.Cli.Dockerfile
import Cosign.Verif.Dockerfile
import Cosign.Encoding.Url
import Cosign.Pkcs11.Uri
import Cosign.Verif.Pkcs11
import Cosign.Encoding.Hex
import Cosign.Verif.EntryUUID
import Cosign.Verif.Concurrent
import Cosign.Verif.Persistence
import Cosign.Verif.Pinning
import Cosign.Verif.Lifecycle
import Cosign.Cli.Verify
import Cosign.Verif.VerifyCommand
