import Cosign.Remote.Registry
import Cosign.Verif.Publication
import Cosign.Verif.SecretKeys
import Cosign.Verif.Signing

/-!
# The sources of an authority

The sources of an authority become options for the registry, each of which sets the same field of
one record. Verification therefore reads the signatures of an image from the last source alone
(`accepted_iff`), and a signature in another one is found only if the last one has an acceptable
signature anyway (`sources_consulted_iff`).
-/
namespace Cosign.Verif

open Cosign.Go Cosign.Encoding Cosign.Oci Cosign.Verify Cosign.Webhook Cosign.Spec
open Cosign.Remote (Digest DigestNames Faults TagOption Tag tagOption signatureTag)

variable {p : WebhookPlatform} {oracle : SignatureOracle} {ref : Reference} {kc : Keychain}
  {authority : Authority} {co : CheckOpts} {opts : List RemoteOption} {h : Hash} {value : Json}
  {pem : PemLoader} {se : Oci.SignedEntity}

/-! ## What an authority asks of verification -/

/-- Verification under the options, if it returns, does so without an error. -/
def Grants (oracle : SignatureOracle) (ref : Reference) (co : CheckOpts) : Prop :=
  ∀ answer, oracle.verify ref co = .ok answer → ∃ sigs, answer = .ok sigs

/-- The loop over keys that returns has found signatures if one of the keys grants some. -/
theorem validKeys_granted {lastErr err : Option GoError} {keys : List PublicKey}
    {sigs : List Signature} (run : validKeys p oracle ref opts lastErr keys = .ok (sigs, err))
    {key : PublicKey} {verifier : Verifier} (member : key ∈ keys)
    (loaded : p.loadVerifier key = .ok verifier)
    (grants : Grants oracle ref (keyOpts verifier opts)) : err = none ∧ sigs ≠ [] := by
  induction keys generalizing lastErr with
  | nil => exact absurd member List.not_mem_nil
  | cons first rest ih =>
    unfold validKeys at run
    have later : p.loadVerifier first ≠ .ok verifier → key ∈ rest := fun other =>
      (List.mem_cons.mp member).resolve_left fun same => other (same ▸ loaded)
    cases tried : p.loadVerifier first with
    | error failure =>
      simp only [tried] at run
      exact ih run (later (by simp [tried]))
    | ok found =>
      simp only [tried] at run
      obtain ⟨answer, verified, run⟩ := bind_eq_ok.mp run
      cases answer with
      | error failure =>
        refine ih run (later fun same => ?_)
        rw [← Except.ok.inj (tried.symm.trans same)] at grants
        obtain ⟨sps, granted⟩ := grants _ verified
        cases granted
      | ok sps =>
        have some_found : sps ≠ [] := oracle.nonempty _ _ _ verified
        dsimp only at run
        rw [if_pos (List.length_pos_iff.mpr some_found)] at run
        cases run
        exact ⟨rfl, some_found⟩

/-- With keys, `valid` is the loop over them. -/
theorem valid_of_keys {keys : List PublicKey} (keyed : keys ≠ []) :
    valid p oracle ref keys opts = validKeys p oracle ref opts none keys :=
  if_neg fun empty => keyed (List.length_eq_zero_iff.mp empty)

/-- Both cases of the switch end with the signatures that were found. -/
theorem signaturesOutcome_found {sps : List Signature} (some_found : sps ≠ []) :
    signaturesOutcome ref sps = .passed sps :=
  if_pos (List.length_pos_iff.mpr some_found)

theorem checkAuthority_granted {outcome : AuthorityOutcome}
    (options : AuthorityOptions p kc authority co) (grants : Grants oracle ref co)
    (run : checkAuthority p oracle ref (optionsOf kc authority) authority = .ok outcome) :
    ∃ sigs, outcome = .passed sigs ∧ sigs ≠ [] := by
  unfold checkAuthority at run
  unfold AuthorityOptions at options
  by_cases unkeyed : authority.publicKeys = []
  · rw [if_pos unkeyed] at options
    obtain ⟨keyless, url, roots, rekorClient, given, named, fetched, connected, same⟩ := options
    rw [if_neg (by simp [unkeyed]), given] at run
    simp only [named, checkKeyless, fetched, connected] at run
    obtain ⟨answer, verified, run⟩ := bind_eq_ok.mp run
    rw [same] at grants
    obtain ⟨sps, granted⟩ := grants _ verified
    rw [granted] at run verified
    have some_found : sps ≠ [] := oracle.nonempty _ _ _ verified
    dsimp only at run
    rw [signaturesOutcome_found some_found] at run
    exact ⟨sps, (Except.ok.inj run).symm, some_found⟩
  · rw [if_neg unkeyed] at options
    obtain ⟨key, member, verifier, loaded, same⟩ := options
    rw [if_pos (List.length_pos_iff.mpr unkeyed)] at run
    obtain ⟨⟨sps, err⟩, verified, run⟩ := bind_eq_ok.mp run
    rw [valid_of_keys unkeyed] at verified
    rw [same] at grants
    obtain ⟨noError, some_found⟩ := validKeys_granted verified member loaded grants
    rw [noError] at run
    dsimp only at run
    rw [signaturesOutcome_found some_found] at run
    exact ⟨sps, (Except.ok.inj run).symm, some_found⟩

/-- Verification with a key or with roots grants exactly when, if it returns, the list of the entity
has a signature that is accepted alone. -/
theorem grants_registry {p : Platform} {registry : Registry} {se : Verify.SignedEntity}
    (rooted : (co.rootCerts.isNone && co.sigVerifier.isNone) = false)
    (found : getSignedEntity registry ref.name co.registryClientOpts = .ok (se, h)) :
    Grants (registryOracle p registry) ref co ↔
      (Returns ((registryOracle p registry).verify ref co) →
        ∃ sl sig, se.signatures = .ok (.ok sl) ∧ sig ∈ sl ∧ acceptedAlone p h co sig = true) := by
  unfold Grants registryOracle
  simp only [verifyImageSignatures, rooted, found, Bool.false_eq_true, if_false]
  rcases se.signatures with err | err | sl
  · simp [Outcome.failed, bind, Except.bind]
  · simp [verifySignatures, bind, Except.bind]
  · cases run : verifySignatures p (.ok sl) h co with
    | error panic => simp [run, bind, Except.bind]
    | ok outcome =>
      obtain ⟨after, kept, flag, err⟩ := outcome
      obtain ⟨same, none_iff⟩ := verifySignatures_list run
      have some_kept : kept ≠ [] ↔ ∃ sig ∈ sl, acceptedAlone p h co sig = true := by
        rw [same, ne_eq, List.filter_eq_nil_iff]
        simp
      cases err with
      | none =>
        have exists_one := some_kept.mp (none_iff.mp rfl)
        simpa [run, bind, Except.bind] using exists_one
      | some err =>
        have exists_none : ¬∃ sig ∈ sl, acceptedAlone p h co sig = true := by
          rw [← some_kept, ← none_iff]
          exact Option.some_ne_none err
        simpa [run, bind, Except.bind] using exists_none

/-- Verification with a key or with roots returns exactly if the check of each signature does. -/
theorem returns_registry {p : Platform} {registry : Registry} {se : Verify.SignedEntity}
    (rooted : (co.rootCerts.isNone && co.sigVerifier.isNone) = false)
    (found : getSignedEntity registry ref.name co.registryClientOpts = .ok (se, h)) :
    Returns ((registryOracle p registry).verify ref co) ↔
      ∀ sl, se.signatures = .ok (.ok sl) → ∀ sig ∈ sl,
        Returns (verifyImageSignature p sig h co) := by
  have checked (sig : Signature) : Returns (verifyImageSignature p sig h co) ↔
      Returns (entryVerdict p "signature" verifyOCISignature sig h co) := by
    rw [verifyImageSignature_eq, entryCheck_eq]
    cases entryVerdict p "signature" verifyOCISignature sig h co <;> simp [Except.map]
  have carried : Returns ((registryOracle p registry).verify ref co) ↔
      Returns (verifyImageSignatures p registry ref.name co) := by
    unfold registryOracle
    rw [returns_bind]
    constructor
    · intro ⟨outcome, ran, _⟩
      exact ⟨outcome, ran⟩
    · intro ⟨outcome, ran⟩
      refine ⟨outcome, ran, ?_⟩
      have ⟨_, _, _, err⟩ := outcome
      cases err <;> exact returns_ok _
  rw [carried]
  simp only [verifyImageSignatures, rooted, found, Bool.false_eq_true, if_false, checked]
  rcases se.signatures with err | err | sl
  · simp
  · simp [verifySignatures]
  · simp [verifySignatures_eq, returns_verifyEntries]

/-- `ValidatePolicy` accepts an authority: it returns signatures and no error. -/
def Accepted (p : WebhookPlatform) (oracle : SignatureOracle) (ref : Reference) (kc : Keychain)
    (authority : Authority) : Prop :=
  ∃ sigs, validatePolicy p oracle ref kc [authority] = .ok (sigs, []) ∧ sigs ≠ []

/-- What `ValidatePolicy` returns for the outcome of its only authority. -/
def policyResult : AuthorityOutcome → List Signature × List GoError
  | .skipped => ([], [])
  | .failed err => ([], [err])
  | .passed sps => (sps, [])

/-- A policy with one authority has the outcome of that authority. -/
theorem validatePolicy_single :
    validatePolicy p oracle ref kc [authority] =
      (checkAuthority p oracle ref (optionsOf kc authority) authority).map policyResult := by
  show (checkAuthority p oracle ref (optionsOf kc authority) authority >>= _) = _
  cases checkAuthority p oracle ref (optionsOf kc authority) authority with
  | error panic => rfl
  | ok outcome => cases outcome <;> rfl

/-- A policy with one authority returns exactly when the check of that authority does. -/
theorem validatePolicy_single_eq_ok {result : List Signature × List GoError} :
    validatePolicy p oracle ref kc [authority] = .ok result ↔
      ∃ outcome, checkAuthority p oracle ref (optionsOf kc authority) authority = .ok outcome ∧
        policyResult outcome = result := by
  rw [validatePolicy_single]
  cases checkAuthority p oracle ref (optionsOf kc authority) authority <;> simp [Except.map]

/-- An authority that is accepted has options under which verification returned signatures. -/
theorem Accepted.vouched (accepted : Accepted p oracle ref kc authority) :
    ∃ co, AuthorityOptions p kc authority co ∧ Vouched oracle ref co := by
  obtain ⟨sigs, run, some_found⟩ := accepted
  obtain ⟨outcome, checked, same⟩ := validatePolicy_single_eq_ok.mp run
  have sound := checkAuthority_sound checked
  cases outcome with
  | skipped =>
    cases same
    exact absurd rfl some_found
  | failed err => cases same
  | passed sps => exact sound

/-- An authority is accepted if `ValidatePolicy` returns and some of its options are granted. -/
theorem accepted_of_grants (returns : Returns (validatePolicy p oracle ref kc [authority]))
    (options : AuthorityOptions p kc authority co) (grants : Grants oracle ref co) :
    Accepted p oracle ref kc authority := by
  obtain ⟨result, run⟩ := returns
  obtain ⟨outcome, checked, _⟩ := validatePolicy_single_eq_ok.mp run
  obtain ⟨sigs, rfl, some_found⟩ := checkAuthority_granted options grants checked
  exact ⟨sigs, validatePolicy_single_eq_ok.mpr ⟨.passed sigs, checked, rfl⟩, some_found⟩

/-! ## Which options are tried -/

/-- The options that an authority tries, in order: those of its keys that can be loaded or, without
keys, those of the Fulcio that it names. -/
def tried (p : WebhookPlatform) (kc : Keychain) (authority : Authority) : List CheckOpts :=
  if authority.publicKeys = [] then
    match authority.keyless.bind fun keyless => keyless.url.map (keyless, ·) with
    | none => []
    | some (keyless, url) =>
      match getFulcioCert p url, authorityRekorClient p authority with
      | .ok roots, .ok rekorClient =>
        [fulcioOpts roots rekorClient keyless.identities (optionsOf kc authority)]
      | _, _ => []
  else authority.publicKeys.filterMap fun key =>
    (p.loadVerifier key).toOption.map (keyOpts · (optionsOf kc authority))

/-- Options are tried one after another until some are granted, and each that is tried returns. -/
def Proceeds (returns granted : CheckOpts → Prop) : List CheckOpts → Prop
  | [] => True
  | co :: rest => returns co ∧ (granted co ∨ Proceeds returns granted rest)

theorem proceeds_congr {returns returns' granted granted' : CheckOpts → Prop}
    {opts : List CheckOpts}
    (same : ∀ co ∈ opts, (returns co ↔ returns' co) ∧ (returns co → (granted co ↔ granted' co))) :
    Proceeds returns granted opts ↔ Proceeds returns' granted' opts := by
  induction opts with
  | nil => exact .rfl
  | cons co rest ih =>
    have ⟨alike, grantedAlike⟩ := same co List.mem_cons_self
    have later := ih fun other member => same other (List.mem_cons_of_mem _ member)
    unfold Proceeds
    rw [← alike, later]
    exact and_congr_right fun returned => or_congr_left (grantedAlike returned)

/-- Verification of one image returns. -/
def VerifyReturns (oracle : SignatureOracle) (ref : Reference) (co : CheckOpts) : Prop :=
  Returns (oracle.verify ref co)

/-- Verification of one image returns signatures. -/
def VerifyGranted (oracle : SignatureOracle) (ref : Reference) (co : CheckOpts) : Prop :=
  ∃ sigs, oracle.verify ref co = .ok (.ok sigs)

/-- The loop over keys returns exactly if verification does with each key that is tried. -/
theorem returns_validKeys {lastErr : Option GoError} {keys : List PublicKey} :
    Returns (validKeys p oracle ref opts lastErr keys) ↔
      Proceeds (VerifyReturns oracle ref) (VerifyGranted oracle ref)
        (keys.filterMap fun key => (p.loadVerifier key).toOption.map (keyOpts · opts)) := by
  induction keys generalizing lastErr with
  | nil => exact iff_of_true (returns_ok _) trivial
  | cons key rest ih =>
    unfold validKeys
    cases loaded : p.loadVerifier key with
    | error err =>
      rw [List.filterMap_cons_none (by rw [loaded]; rfl)]
      exact ih
    | ok verifier =>
      rw [List.filterMap_cons_some (by rw [loaded]; rfl)]
      simp only [Proceeds, VerifyReturns, VerifyGranted, validSignatures, returns_bind]
      cases answered : oracle.verify ref (keyOpts verifier opts) with
      | error panic => simp
      | ok answer =>
        cases answer with
        | error err => simpa using ih
        | ok sps =>
          have found : 0 < sps.length :=
            List.length_pos_iff.mpr (oracle.nonempty _ _ _ answered)
          simp [found]

/-- The check of an authority returns exactly if verification does with all options that are
tried. -/
theorem returns_checkAuthority :
    Returns (checkAuthority p oracle ref (optionsOf kc authority) authority) ↔
      Proceeds (VerifyReturns oracle ref) (VerifyGranted oracle ref) (tried p kc authority) := by
  unfold checkAuthority tried
  by_cases unkeyed : authority.publicKeys = []
  · rw [if_neg (by simp [unkeyed]), if_pos unkeyed]
    cases authority.keyless with
    | none => exact iff_of_true (returns_ok _) trivial
    | some keyless =>
      cases named : keyless.url with
      | none => simp [named, Proceeds]
      | some url =>
        simp only [Option.bind_some, named, Option.map_some, checkKeyless]
        cases getFulcioCert p url with
        | error err => exact iff_of_true (returns_ok _) trivial
        | ok roots =>
          cases authorityRekorClient p authority with
          | error err => exact iff_of_true (returns_ok _) trivial
          | ok rekorClient =>
            simp only [Proceeds, or_true, and_true, VerifyReturns, validSignaturesWithFulcio,
              returns_bind]
            constructor
            · intro ⟨answer, answered, _⟩
              exact ⟨answer, answered⟩
            · intro ⟨answer, answered⟩
              refine ⟨answer, answered, ?_⟩
              cases answer <;> exact returns_ok _
  · rw [if_pos (List.length_pos_iff.mpr unkeyed), if_neg unkeyed, returns_bind,
      valid_of_keys unkeyed]
    constructor
    · intro ⟨found, ran, _⟩
      exact returns_validKeys.mp ⟨found, ran⟩
    · intro proceeds
      have returned : Returns (validKeys p oracle ref (optionsOf kc authority) none
        authority.publicKeys) := returns_validKeys.mpr proceeds
      have ⟨found, ran⟩ := returned
      refine ⟨found, ran, ?_⟩
      have ⟨sps, err⟩ := found
      cases err <;> exact returns_ok _

theorem authorityOptions_of_tried (member : co ∈ tried p kc authority) :
    AuthorityOptions p kc authority co := by
  unfold tried at member
  unfold AuthorityOptions
  split at member
  · rename_i unkeyed
    rw [if_pos unkeyed]
    split at member
    · cases member
    · rename_i keyless url found
      have ⟨_, given, named⟩ := Option.bind_eq_some_iff.mp found
      have ⟨_, isUrl, same⟩ := Option.map_eq_some_iff.mp named
      cases same
      split at member
      · rename_i roots rekorClient fetched connected
        exact ⟨keyless, url, roots, rekorClient, given, isUrl, fetched, connected,
          List.mem_singleton.mp member⟩
      · cases member
  · rename_i keyed
    rw [if_neg keyed]
    have ⟨key, listed, made⟩ := List.mem_filterMap.mp member
    cases loaded : p.loadVerifier key with
    | error err =>
      rw [loaded] at made
      cases made
    | ok verifier =>
      rw [loaded] at made
      cases made
      exact ⟨key, listed, verifier, loaded, rfl⟩

/-! ## The repository that is read -/

/-- The repositories of the sources of an authority, in order. -/
def SourceRepositories (p : WebhookPlatform) (sources : List Source) (repos : List Repository) :
    Prop :=
  List.Forall₂ (fun source repo => p.newRepository source.oci = .ok repo ∧ repo ≠ ⟨"", false, ""⟩)
    sources repos

theorem sourceOptions_eq {sources : List Source} {repos : List Repository}
    (valid : SourceRepositories p sources repos) :
    sourceOptions p sources = .ok (repos.map .targetRepository) := by
  induction valid with
  | nil => rfl
  | cons named _ ih =>
    unfold sourceOptions
    simp only [named.1, ih, if_pos named.2, List.map_cons]

/-- The options of an authority that was parsed are those of its sources. -/
theorem remoteOpts_parsed {repos : List Repository}
    (parsed : Authority.fill p value = .ok authority)
    (valid : SourceRepositories p authority.sources repos) :
    authority.remoteOpts = repos.map .targetRepository := by
  unfold Authority.fill at parsed
  split at parsed
  · cases parsed
  · rename_i rawAuthority _
    cases options : sourceOptions p rawAuthority.sources with
    | error err => simp [options] at parsed
    | ok remoteOpts =>
      simp only [options] at parsed
      cases parsed
      exact Except.ok.inj (options.symm.trans (sourceOptions_eq valid))

/-- Of the options that set the repository of the lists, the last one counts. -/
theorem makeOptions_targets (repository : Repository) (repos : List Repository) :
    Remote.makeOptions repository (repos.map .withTargetRepository) =
      ⟨"sig", "att", "sbom", "", repos.getLast?.getD repository⟩ := by
  unfold Remote.makeOptions
  induction repos generalizing repository with
  | nil => rfl
  | cons first rest ih =>
    rw [List.map_cons, List.foldl_cons, List.getLast?_cons, Option.getD_some]
    exact ih first

theorem filterMap_tagOption (kc : Keychain) (repos : List Repository) :
    (RemoteOption.authFromKeychain kc :: repos.map .targetRepository).filterMap tagOption =
      repos.map .withTargetRepository := by
  rw [List.filterMap_cons_none rfl, List.filterMap_map]
  exact congrFun List.filterMap_eq_map' repos

/-- A signature that can be read at the signature tag of a digest in a repository. -/
def StoredIn (pem : PemLoader) (registry : Remote.Registry) (faults : Faults) (digest : Digest)
    (repo : Repository) (sig : Signature) : Prop :=
  ∃ list sl, Remote.signatures pem registry faults (signatureTag repo digest []) = .ok list ∧
    list.get = .ok sl ∧ sig ∈ sl.map (·.toSignature)

section

variable {registry : Remote.Registry} {faults : Faults} {names : DigestNames} {name : String}
  {repository : Repository} {digest : Digest} {repos : List Repository}

theorem signedEntity_found
    (found : Remote.signedEntity pem registry faults repository digest [] = .ok se)
    (opts : List TagOption) :
    ∃ se, Remote.signedEntity pem registry faults repository digest opts = .ok se := by
  unfold Remote.signedEntity at found ⊢
  rcases got : Remote.remoteGet registry faults repository digest
    with (⟨code, err⟩ | err) | mediaType
  · simp only [got] at found
    split at found <;> cases found
  · simp only [got] at found
    cases found
  · simp only [got] at found ⊢
    cases known : Remote.entityKind mediaType with
    | none => simp [known] at found
    | some kind =>
      cases resolved : faults.resolve with
      | some err => simp [known, resolved] at found
      | none => exact ⟨_, rfl⟩

/-- The lists of an image are read from the last repository that the options name. -/
theorem getSignedEntity_reader (named : names name = .ok (repository, digest))
    (found : Remote.signedEntity pem registry faults repository digest [] = .ok se)
    (targets : opts.filterMap tagOption = repos.map .withTargetRepository) :
    getSignedEntity (Remote.reader pem names registry faults) name opts =
      .ok (Remote.readEntity pem registry faults digest.hash
        ⟨"sig", "att", "sbom", "", repos.getLast?.getD repository⟩, digest.hash) := by
  obtain ⟨other, found⟩ := signedEntity_found found (repos.map .withTargetRepository)
  unfold getSignedEntity Remote.reader
  simp only [named, targets, found, bind, Except.bind, makeOptions_targets]
  rfl

/-- The oracle of the webhook on a registry. -/
def remoteOracle (p : WebhookPlatform) (names : DigestNames) (registry : Remote.Registry)
    (faults : Faults) : SignatureOracle :=
  registryOracle p.toPlatform (Remote.reader p.pem names registry faults)

/-- What is read of the lists in a repository is what is stored there. -/
theorem storedIn_iff {repo : Repository} {sig : Signature} :
    StoredIn pem registry faults digest repo sig ↔
      ∃ sl, (Remote.signatures pem registry faults (signatureTag repo digest [])).map
        Verify.Signatures.ofList = .ok (.ok sl) ∧ sig ∈ sl := by
  unfold StoredIn Verify.Signatures.ofList
  cases Remote.signatures pem registry faults (signatureTag repo digest []) with
  | error err => simp [Except.map]
  | ok list => cases listed : list.get <;> simp [Except.map, listed]

/-- With a key or with roots, verification looks at the signatures of the last repository. -/
theorem grants_remote (named : names name = .ok (repository, digest))
    (found : Remote.signedEntity p.pem registry faults repository digest [] = .ok se)
    (rooted : (co.rootCerts.isNone && co.sigVerifier.isNone) = false)
    (targets : co.registryClientOpts.filterMap tagOption = repos.map .withTargetRepository) :
    Grants (remoteOracle p names registry faults) (.digest name) co ↔
      (Returns ((remoteOracle p names registry faults).verify (.digest name) co) →
        ∃ sig, StoredIn p.pem registry faults digest (repos.getLast?.getD repository) sig ∧
          acceptedAlone p.toPlatform digest.hash co sig = true) := by
  unfold remoteOracle
  rw [grants_registry rooted (getSignedEntity_reader named found targets)]
  refine imp_congr_right fun _ => ?_
  simp only [storedIn_iff]
  constructor
  · rintro ⟨sl, sig, read, member, accepted⟩
    exact ⟨sig, ⟨sl, read, member⟩, accepted⟩
  · rintro ⟨sig, ⟨sl, read, member⟩, accepted⟩
    exact ⟨sl, sig, read, member, accepted⟩

/-- Verification returns exactly if the check of each signature in the last repository does. -/
theorem returns_remote (named : names name = .ok (repository, digest))
    (found : Remote.signedEntity p.pem registry faults repository digest [] = .ok se)
    (rooted : (co.rootCerts.isNone && co.sigVerifier.isNone) = false)
    (targets : co.registryClientOpts.filterMap tagOption = repos.map .withTargetRepository) :
    VerifyReturns (remoteOracle p names registry faults) (.digest name) co ↔
      ∀ sig, StoredIn p.pem registry faults digest (repos.getLast?.getD repository) sig →
        Returns (verifyImageSignature p.toPlatform sig digest.hash co) := by
  unfold VerifyReturns remoteOracle
  rw [returns_registry rooted (getSignedEntity_reader named found targets)]
  simp only [storedIn_iff]
  constructor
  · intro each sig ⟨sl, read, member⟩
    exact each sl read sig member
  · intro each sl read sig member
    exact each sig ⟨sl, read, member⟩

/-- A signature that an authority accepts for a digest. -/
def Acceptable (p : WebhookPlatform) (kc : Keychain) (authority : Authority) (h : Hash)
    (sig : Signature) : Prop :=
  ∃ co, AuthorityOptions p kc authority co ∧ acceptedAlone p.toPlatform h co sig = true

/-- The options of an authority have a key or roots, and its own options for the registry. -/
theorem authorityOptions_rooted (options : AuthorityOptions p kc authority co) :
    (co.rootCerts.isNone && co.sigVerifier.isNone) = false ∧
      co.registryClientOpts = optionsOf kc authority := by
  unfold AuthorityOptions at options
  split at options
  · obtain ⟨keyless, url, roots, rekorClient, -, -, -, -, same⟩ := options
    rw [same]
    exact ⟨rfl, rfl⟩
  · obtain ⟨key, -, verifier, -, same⟩ := options
    rw [same]
    exact ⟨rfl, rfl⟩

/-- The signatures in a repository stop no check: whichever options an authority comes to try, the
check of each of these signatures returns. The options after the first that accept one are not
tried. -/
def ChecksReturn (p : WebhookPlatform) (kc : Keychain) (authority : Authority) (h : Hash)
    (stored : Signature → Prop) : Prop :=
  Proceeds (fun co => ∀ sig, stored sig → Returns (verifyImageSignature p.toPlatform sig h co))
    (fun co => ∃ sig, stored sig ∧ acceptedAlone p.toPlatform h co sig = true)
    (tried p kc authority)

/-- The options of an authority that was parsed name its sources. -/
theorem targets_parsed (kc : Keychain) (parsed : Authority.fill p value = .ok authority)
    (valid : SourceRepositories p authority.sources repos) :
    (optionsOf kc authority).filterMap tagOption = repos.map .withTargetRepository := by
  unfold optionsOf
  rw [remoteOpts_parsed parsed valid, filterMap_tagOption]

/-- `ValidatePolicy` returns exactly if the signatures in the last source stop no check. -/
theorem returns_validatePolicy (parsed : Authority.fill p value = .ok authority)
    (valid : SourceRepositories p authority.sources repos)
    (named : names name = .ok (repository, digest))
    (found : Remote.signedEntity p.pem registry faults repository digest [] = .ok se) :
    Returns (validatePolicy p (remoteOracle p names registry faults) (.digest name) kc
        [authority]) ↔
      ChecksReturn p kc authority digest.hash
        (StoredIn p.pem registry faults digest (repos.getLast?.getD repository)) := by
  have single : Returns (validatePolicy p (remoteOracle p names registry faults) (.digest name) kc
      [authority]) ↔ Returns (checkAuthority p (remoteOracle p names registry faults)
        (.digest name) (optionsOf kc authority) authority) := by
    rw [validatePolicy_single]
    cases checkAuthority p (remoteOracle p names registry faults) (.digest name)
      (optionsOf kc authority) authority <;> simp [Except.map]
  rw [single, returns_checkAuthority]
  apply proceeds_congr
  intro co member
  have ⟨rooted, own⟩ := authorityOptions_rooted (authorityOptions_of_tried member)
  have targets := targets_parsed kc parsed valid
  rw [← own] at targets
  refine ⟨returns_remote named found rooted targets, fun ⟨answer, answered⟩ => ?_⟩
  -- what is granted is what a signature is accepted for, once verification has returned
  have grants := grants_remote named found rooted targets
  constructor
  · intro ⟨sigs, granted⟩
    apply grants.mp _ ⟨answer, answered⟩
    intro other same
    exact ⟨sigs, Except.ok.inj (same.symm.trans granted)⟩
  · intro accepted
    have ⟨sigs, granted⟩ := grants.mpr (fun _ => accepted) answer answered
    exact ⟨sigs, granted ▸ answered⟩

/-- **An authority is accepted exactly for an acceptable signature in its last source**, or in the
repository of the image if it has no source, as far as the signatures there stop no check. -/
theorem accepted_iff (parsed : Authority.fill p value = .ok authority)
    (valid : SourceRepositories p authority.sources repos)
    (named : names name = .ok (repository, digest))
    (found : Remote.signedEntity p.pem registry faults repository digest [] = .ok se) :
    Accepted p (remoteOracle p names registry faults) (.digest name) kc authority ↔
      ChecksReturn p kc authority digest.hash
        (StoredIn p.pem registry faults digest (repos.getLast?.getD repository)) ∧
      ∃ sig, StoredIn p.pem registry faults digest (repos.getLast?.getD repository) sig ∧
        Acceptable p kc authority digest.hash sig := by
  have targets := targets_parsed kc parsed valid
  rw [← returns_validatePolicy parsed valid named found]
  constructor
  · intro accepted
    have returns : Returns (validatePolicy p (remoteOracle p names registry faults)
        (.digest name) kc [authority]) := by
      obtain ⟨sigs, run, -⟩ := accepted
      exact ⟨_, run⟩
    obtain ⟨co, options, sigs, verified, -⟩ := accepted.vouched
    obtain ⟨rooted, own⟩ := authorityOptions_rooted options
    have grants : Grants (remoteOracle p names registry faults) (.digest name) co :=
      fun answer answered => ⟨sigs, Except.ok.inj (answered.symm.trans verified)⟩
    rw [← own] at targets
    obtain ⟨sig, stored, accepts⟩ :=
      (grants_remote named found rooted targets).mp grants ⟨_, verified⟩
    exact ⟨returns, sig, stored, co, options, accepts⟩
  · rintro ⟨returns, sig, stored, co, options, accepts⟩
    obtain ⟨rooted, own⟩ := authorityOptions_rooted options
    rw [← own] at targets
    apply accepted_of_grants returns options
    exact (grants_remote named found rooted targets).mpr fun _ => ⟨sig, stored, accepts⟩

/-- **Every source is consulted exactly as far as the last one makes up for the others.** An
acceptable signature in any of the sources makes `ValidatePolicy` accept the authority if and only
if, once there is one, the last source has an acceptable signature itself and no signature that
makes a check panic. -/
theorem sources_consulted_iff {value : Json} {se : Oci.SignedEntity}
    (parsed : Authority.fill p value = .ok authority)
    (valid : SourceRepositories p authority.sources repos)
    (named : names name = .ok (repository, digest))
    (found : Remote.signedEntity p.pem registry faults repository digest [] = .ok se)
    (kc : Keychain) :
    (∀ repo ∈ repos, ∀ sig, StoredIn p.pem registry faults digest repo sig →
        Acceptable p kc authority digest.hash sig →
        Accepted p (remoteOracle p names registry faults) (.digest name) kc authority) ↔
      ((∃ repo ∈ repos, ∃ sig, StoredIn p.pem registry faults digest repo sig ∧
          Acceptable p kc authority digest.hash sig) →
        ChecksReturn p kc authority digest.hash
          (StoredIn p.pem registry faults digest (repos.getLast?.getD repository)) ∧
        ∃ sig, StoredIn p.pem registry faults digest (repos.getLast?.getD repository) sig ∧
          Acceptable p kc authority digest.hash sig) := by
  rw [← accepted_iff parsed valid named found]
  constructor
  · rintro consulted ⟨repo, member, sig, stored, acceptable⟩
    exact consulted repo member sig stored acceptable
  · intro last repo member sig stored acceptable
    exact last ⟨repo, member, sig, stored, acceptable⟩

end

/-! ## A signature in one of two sources -/

/-- A repository of the sample, which its text names. -/
def sourceRepository (text : String) : Repository := ⟨text, false, text⟩

/-- An authority with a key and two sources, as it is written. -/
def twoSources (first second : String) : Json :=
  .obj [("key", .obj [("data", .str "key")]),
    ("source", .arr [.obj [("oci", .str first)], .obj [("oci", .str second)]])]

/-- That authority as it is parsed. -/
def twoSourcesAuthority (first second : String) : Authority :=
  ⟨some ⟨"key", [⟨.ecdsa, utf8Bytes "key"⟩]⟩, none, [⟨first⟩, ⟨second⟩], none,
    [.targetRepository (sourceRepository first), .targetRepository (sourceRepository second)]⟩

theorem twoSources_repositories {first second : String} (given : first ≠ "" ∧ second ≠ "") :
    SourceRepositories keyWebhook (twoSourcesAuthority first second).sources
      [sourceRepository first, sourceRepository second] := by
  have named : ∀ text : String, text ≠ "" → sourceRepository text ≠ ⟨"", false, ""⟩ :=
    fun text filled same => filled (congrArg Repository.registry same)
  exact .cons ⟨rfl, named _ given.1⟩ (.cons ⟨rfl, named _ given.2⟩ .nil)

/-- A signature of the sample image, as a registry stores it. -/
def signedLayer : StoredLayer where
  descriptor := ⟨"application/vnd.dev.cosign.simplesigning.v1+json", ⟨"sha256", "01"⟩,
    AList.singleton sigkey "AQ=="⟩
  content := Sign.cosignPayload "registry.example.com/app" sampleManifest.hash none

/-- A registry with that signature in one repository. -/
def sourceRegistry : Remote.Registry where
  manifests _ _ := some "application/vnd.oci.image.manifest.v1+json"
  images tag :=
    if tag = signatureTag (sourceRepository "a") sampleManifest [] then some [signedLayer] else none

/-- Every name is that of the sample image. -/
def sampleNames : DigestNames := fun _ => .ok (sampleRepository, sampleManifest)

/-- The oracle of the webhook on that registry. -/
def sourceOracle : SignatureOracle := remoteOracle keyWebhook sampleNames sourceRegistry .nothing

/-- The signature, as it is read. -/
def signedSignature : Signature :=
  (newSigLayer keyWebhook.pem signedLayer.layer signedLayer.descriptor).toSignature

theorem signedSignature_stored :
    StoredIn keyWebhook.pem sourceRegistry .nothing sampleManifest (sourceRepository "a")
      signedSignature := by
  refine ⟨_, [newSigLayer keyWebhook.pem signedLayer.layer signedLayer.descriptor], rfl, rfl, ?_⟩
  exact List.mem_singleton_self _

/-- With a key, the claims of a signature are those of a container image. -/
theorem checkClaims_keyOpts {sig : Signature} {verifier : Verifier} :
    checkClaims sig h (keyOpts verifier opts) = simpleClaimVerifier sig h none :=
  rfl

theorem signedSignature_acceptable (first second : String) :
    Acceptable keyWebhook ⟨"default"⟩ (twoSourcesAuthority first second) sampleManifest.hash
      signedSignature := by
  refine ⟨keyOpts sampleVerifier (optionsOf ⟨"default"⟩ (twoSourcesAuthority first second)), ?_, ?_⟩
  · exact ⟨⟨.ecdsa, utf8Bytes "key"⟩, List.mem_singleton_self _, sampleVerifier, rfl, rfl⟩
  · refine acceptedAlone_iff.mpr ⟨sampleVerifier, false, .inl rfl, ?_, ?_, ?_⟩
    · exact verifyOCISignature_eq_none.mpr ⟨"AQ==", [1], _, rfl, by decide +kernel, rfl, rfl⟩
    · rw [checkClaims_keyOpts]
      have read : signedSignature.payload = .ok
          (Sign.cosignPayload "registry.example.com/app" sampleManifest.hash none) := rfl
      exact simpleClaimVerifier_built read fun asked given => nomatch given
    · exact .nothing rfl rfl

theorem twoSources_parsed : Authority.fill keyWebhook (twoSources "b" "a") =
    .ok (twoSourcesAuthority "b" "a") := by
  decide +kernel

/-- With the repository as its last source, the signatures there stop no check. -/
theorem checks_last : ChecksReturn keyWebhook ⟨"default"⟩ (twoSourcesAuthority "b" "a")
    sampleManifest.hash (StoredIn keyWebhook.pem sourceRegistry .nothing sampleManifest
      (sourceRepository "a")) := by
  have returns : Returns (validatePolicy keyWebhook sourceOracle (.digest "app") ⟨"default"⟩
      [twoSourcesAuthority "b" "a"]) := by
    decide +kernel
  exact (returns_validatePolicy twoSources_parsed (twoSources_repositories (by decide)) rfl
    rfl).mp returns

/-- Where the last source has the signature, the sources are as good as consulted. -/
theorem sources_consulted_iff_last :
    Authority.fill keyWebhook (twoSources "b" "a") = .ok (twoSourcesAuthority "b" "a") ∧
    ∀ repo ∈ [sourceRepository "b", sourceRepository "a"], ∀ sig,
      StoredIn keyWebhook.pem sourceRegistry .nothing sampleManifest repo sig →
      Acceptable keyWebhook ⟨"default"⟩ (twoSourcesAuthority "b" "a") sampleManifest.hash sig →
      Accepted keyWebhook sourceOracle (.digest "app") ⟨"default"⟩
        (twoSourcesAuthority "b" "a") := by
  refine ⟨twoSources_parsed, (sources_consulted_iff twoSources_parsed
    (twoSources_repositories (by decide)) rfl rfl ⟨"default"⟩).mpr fun _ =>
      ⟨checks_last, signedSignature, signedSignature_stored, ?_⟩⟩
  exact signedSignature_acceptable "b" "a"

/-- **A signature in the first of two sources is not found.** It is acceptable and stored in the
first source; the authority is not accepted, but it is with the sources in the other order. -/
theorem first_source_ignored :
    Authority.fill keyWebhook (twoSources "a" "b") = .ok (twoSourcesAuthority "a" "b") ∧
    Authority.fill keyWebhook (twoSources "b" "a") = .ok (twoSourcesAuthority "b" "a") ∧
    StoredIn keyWebhook.pem sourceRegistry .nothing sampleManifest (sourceRepository "a")
      signedSignature ∧
    Acceptable keyWebhook ⟨"default"⟩ (twoSourcesAuthority "a" "b") sampleManifest.hash
      signedSignature ∧
    ¬Accepted keyWebhook sourceOracle (.digest "app") ⟨"default"⟩ (twoSourcesAuthority "a" "b") ∧
    Accepted keyWebhook sourceOracle (.digest "app") ⟨"default"⟩ (twoSourcesAuthority "b" "a") := by
  have parsed : Authority.fill keyWebhook (twoSources "a" "b") =
      .ok (twoSourcesAuthority "a" "b") := by
    decide +kernel
  refine ⟨parsed, twoSources_parsed, signedSignature_stored, signedSignature_acceptable _ _, ?_, ?_⟩
  · intro accepted
    obtain ⟨-, sig, ⟨list, sl, read, listed, member⟩, -⟩ :=
      (accepted_iff parsed (twoSources_repositories (by decide)) rfl rfl).mp accepted
    cases read
    cases listed
    exact List.not_mem_nil member
  · exact (accepted_iff twoSources_parsed (twoSources_repositories (by decide)) rfl rfl).mpr
      ⟨checks_last, signedSignature, signedSignature_stored, signedSignature_acceptable "b" "a"⟩

end Cosign.Verif
