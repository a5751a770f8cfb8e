import Cosign.Verify.Tlog
import Cosign.Verify.Attestation

/-!
# Verifying the signatures and attestations of an image

The two loops share one `CheckOpts`, passed by pointer: verifying an entry without a key overwrites
its intermediate certificates from the entry's own chain. Each function returns the options as they
are afterwards, so the sharing is explicit. What the two per-entry checks have word for word in
common is `entryVerifier`, `checkClaims` and `tlogValidate`.
-/
namespace Cosign.Verify

open Cosign.Go Cosign.Encoding Cosign.Oci

/-- The pool of intermediate certificates of a chain, which is the chain without its root; nil
when there is no chain or only a root. -/
def intermediatesOf (chain : List Certificate) : Option CertPool :=
  if chain.length ≤ 1 then none
  else some (chain.dropLast.foldl CertPool.addCert CertPool.empty)

/-- The verifier of an entry: the caller's key, or else the entry's own certificate. The
options' intermediate certificates are overwritten before the certificate is validated. -/
def entryVerifier (p : Platform) (noun : String) (sig : Signature) (co : CheckOpts) :
    CheckOpts × Except GoError Verifier :=
  match co.sigVerifier with
  | some verifier => (co, .ok verifier)
  | none =>
    match sig.cert with
    | .error err => (co, .error err)
    | .ok none => (co, .error ⟨"no certificate found on " ++ noun⟩)
    | .ok (some cert) =>
      match sig.chain with
      | .error err => (co, .error err)
      | .ok chain =>
        let co := { co with intermediateCerts := intermediatesOf chain }
        (co, validateAndUnpackCert p cert co)

/-- `verifyOCISignature`. -/
def verifyOCISignature (verifier : Verifier) (sig : Signature) : Option GoError :=
  match sig.base64Signature with
  | .error err => some err
  | .ok b64sig =>
    match Base64.stdDecode b64sig with
    | none => some corruptInput
    | some signature =>
      match sig.payload with
      | .error err => some err
      | .ok payload => verifier.verifySignature signature payload

/-- The claim verifier on an entry, if there is one. -/
def checkClaims (sig : Signature) (h : Hash) (co : CheckOpts) : Option GoError :=
  match co.claimVerifier with
  | none => none
  | some claimVerifier => claimVerifier sig h co.annotations

/-- The log search of an entry: by the caller's key, or else by the entry's certificate. -/
def tlogValidate (p : Platform) (co : CheckOpts) (rekorClient : RekorClient) (sig : Signature) :
    Call (Option GoError) :=
  match co.sigVerifier with
  | some sigVerifier =>
    match sigVerifier.publicKey co.pkOpts with
    | .error err => .ok (some err)
    | .ok pub => tlogValidatePublicKey p rekorClient pub sig
  | none => tlogValidateCertificate p rekorClient sig

/-- The last part of `VerifyImageSignature`: log evidence from the bundle or from the log. -/
def imageSignatureEvidence (p : Platform) (sig : Signature) (co : CheckOpts) :
    Call (Bool × Option GoError) := do
  let (bundleVerified, err) ← verifyBundle p sig
  if err.isSome && co.rekorClient.isNone then
    .ok (false, wrap err "unable to verify bundle")
  else match bundleVerified, co.rekorClient with
    | false, some rekorClient => do
      let err ← tlogValidate p co rekorClient sig
      .ok (bundleVerified, err)
    | _, _ => .ok (bundleVerified, none)

/-- `VerifyImageSignature`: whether the bundle was verified, and the error. -/
def verifyImageSignature (p : Platform) (sig : Signature) (h : Hash) (co : CheckOpts) :
    Call (CheckOpts × Bool × Option GoError) :=
  match entryVerifier p "signature" sig co with
  | (co, .error err) => .ok (co, false, some err)
  | (co, .ok verifier) =>
    match verifyOCISignature verifier sig with
    | some err => .ok (co, false, some err)
    | none =>
      match checkClaims sig h co with
      | some err => .ok (co, false, some err)
      | none => do
        let (bundleVerified, err) ← imageSignatureEvidence p sig co
        .ok (co, bundleVerified, err)

/-- State of the loop of `verifySignatures` and of `verifyImageAttestations`. -/
structure LoopState where
  /-- The shared options. -/
  co : CheckOpts
  /-- Entries that passed, in order. -/
  checked : List Signature
  /-- Whether some bundle was verified. -/
  bundleVerified : Bool
  /-- Messages of the entries that did not pass, in order. -/
  validationErrs : List String

/-- One iteration of `verifySignatures`. -/
def verifySignaturesStep (p : Platform) (h : Hash) (state : LoopState) (sig : Signature) :
    Call LoopState := do
  let (co, verified, err) ← verifyImageSignature p sig h state.co
  let bundleVerified := state.bundleVerified || verified
  match err with
  | some err => .ok { state with
      co, bundleVerified, validationErrs := state.validationErrs ++ [err.message] }
  | none => .ok { state with co, bundleVerified, checked := state.checked ++ [sig] }

/-- The result of a loop: the entries that passed, or an error when none did. -/
def LoopState.result (noun : String) (state : LoopState) :
    CheckOpts × List Signature × Bool × Option GoError :=
  if state.checked.length = 0 then
    (state.co, [], false,
      some ⟨"no matching " ++ noun ++ ":\n" ++ String.intercalate "\n " state.validationErrs⟩)
  else (state.co, state.checked, state.bundleVerified, none)

/-- `verifySignatures` on what `Get` returned: the options afterwards, the signatures that
passed, whether a bundle was verified, and the error. -/
def verifySignatures (p : Platform) (sigs : Except GoError (List Signature)) (h : Hash)
    (co : CheckOpts) : Call (CheckOpts × List Signature × Bool × Option GoError) :=
  match sigs with
  | .error err => .ok (co, [], false, some err)
  | .ok sl => do
    let state ← sl.foldlM (verifySignaturesStep p h) ⟨co, [], false, []⟩
    .ok (state.result "signatures")

/-- The log evidence part of the closure in `verifyImageAttestations`. The closure adds to the
bundle flag it captures only after the bundle's error has been looked at. -/
def attestationEvidence (p : Platform) (att : Signature) (co : CheckOpts)
    (bundleVerified : Bool) : Call (Bool × Option GoError) := do
  let (verified, err) ← verifyBundle p att
  if err.isSome && co.rekorClient.isNone then
    .ok (bundleVerified, wrap err "unable to verify bundle")
  else
    let bundleVerified := bundleVerified || verified
    match verified, co.rekorClient with
    | false, some rekorClient => do
      let err ← tlogValidate p co rekorClient att
      .ok (bundleVerified, err)
    | _, _ => .ok (bundleVerified, none)

/-- The closure in `verifyImageAttestations`: the captured bundle flag afterwards, and the
error. -/
def verifyAttestation (p : Platform) (att : Signature) (h : Hash) (co : CheckOpts)
    (bundleVerified : Bool) : Call (CheckOpts × Bool × Option GoError) :=
  match entryVerifier p "attestation" att co with
  | (co, .error err) => .ok (co, bundleVerified, some err)
  | (co, .ok verifier) =>
    match verifyOCIAttestation p verifier att with
    | some err => .ok (co, bundleVerified, some err)
    | none =>
      match checkClaims att h co with
      | some err => .ok (co, bundleVerified, some err)
      | none => do
        let (bundleVerified, err) ← attestationEvidence p att co bundleVerified
        .ok (co, bundleVerified, err)

/-- One iteration of `verifyImageAttestations`. -/
def verifyAttestationsStep (p : Platform) (h : Hash) (state : LoopState) (att : Signature) :
    Call LoopState := do
  let (co, bundleVerified, err) ← verifyAttestation p att h state.co state.bundleVerified
  match err with
  | some err => .ok { state with
      co, bundleVerified, validationErrs := state.validationErrs ++ [err.message] }
  | none => .ok { state with co, bundleVerified, checked := state.checked ++ [att] }

/-- `verifyImageAttestations` on what `Get` returned. -/
def verifyImageAttestations (p : Platform) (atts : Except GoError (List Signature)) (h : Hash)
    (co : CheckOpts) : Call (CheckOpts × List Signature × Bool × Option GoError) :=
  match atts with
  | .error err => .ok (co, [], false, some err)
  | .ok sl => do
    let state ← sl.foldlM (verifyAttestationsStep p h) ⟨co, [], false, []⟩
    .ok (state.result "attestations")

end Cosign.Verify
