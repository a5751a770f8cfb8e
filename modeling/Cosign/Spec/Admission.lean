import Cosign.Webhook.Validator

/-!
# What admission is for

An image may run when it is named by digest and somebody vouches for it: an authority of every
policy that matches it or, when none matches, the keys of the secret, or Fulcio when it has none. To
vouch is to have signatures under the options that are asked for. Nothing here runs the webhook.
-/
namespace Cosign.Spec

open Cosign.Go Cosign.Encoding Cosign.Oci Cosign.Verify Cosign.Webhook

section

variable (p : WebhookPlatform)

/-- The pattern compiles and matches the image. -/
def patternHits (image : String) (pattern : ImagePattern) : Bool :=
  match matchPattern p image pattern with
  | .ok hit => hit
  | .error _ => false

/-- Some pattern of the policy matches the image. -/
def PolicyMatches (image : String) (policy : ClusterImagePolicy) : Prop :=
  ∃ pattern ∈ policy.images, patternHits p image pattern = true

/-- Verification under the options returned signatures of the image. -/
def Vouched (oracle : SignatureOracle) (ref : Reference) (co : CheckOpts) : Prop :=
  ∃ sigs, oracle.verify ref co = .ok (.ok sigs) ∧ sigs ≠ []

/-- Options for verification with one of some keys. -/
def KeyOptions (keys : List PublicKey) (opts : List RemoteOption) (co : CheckOpts) : Prop :=
  ∃ key ∈ keys, ∃ verifier, p.loadVerifier key = .ok verifier ∧ co = keyOpts verifier opts

/-- Options for verification with the keys of a secret or, when it has none, with the roots of
Fulcio. -/
def SecretOptions (keys : List PublicKey) (opts : List RemoteOption) (co : CheckOpts) : Prop :=
  if keys = [] then ∃ roots, p.fulcioRoots = .ok roots ∧ co = fulcioOpts roots none [] opts
  else KeyOptions p keys opts co

/-- The address of Fulcio that an authority names, if any. -/
def fulcioOf (authority : Authority) : Option Url := authority.keyless.bind KeylessRef.url

/-- An authority that verification can be run for: it has a public key, or it names Fulcio. -/
def Checkable (authority : Authority) : Prop :=
  authority.publicKeys ≠ [] ∨ fulcioOf authority ≠ none

instance (authority : Authority) : Decidable (Checkable authority) :=
  inferInstanceAs (Decidable (_ ∨ _))

/-- The remote options of an authority. -/
def optionsOf (kc : Keychain) (authority : Authority) : List RemoteOption :=
  .authFromKeychain kc :: authority.remoteOpts

/-- Options for verification for an authority: with its keys or, when it has none, with the
roots of the Fulcio it names, its log and its identities. -/
def AuthorityOptions (kc : Keychain) (authority : Authority) (co : CheckOpts) : Prop :=
  if authority.publicKeys = [] then
    ∃ keyless url roots rekorClient, authority.keyless = some keyless ∧ keyless.url = some url ∧
      getFulcioCert p url = .ok roots ∧ authorityRekorClient p authority = .ok rekorClient ∧
      co = fulcioOpts roots rekorClient keyless.identities (optionsOf kc authority)
  else KeyOptions p authority.publicKeys (optionsOf kc authority) co

variable (vouched : Reference → CheckOpts → Prop)

/-- An image that may run, by what it means to vouch for an image under some options. -/
structure ImageVerified (config : ImagePolicyConfig) (kc : Keychain) (keys : List PublicKey)
    (image name : String) : Prop where
  /-- It is named by digest. -/
  digest : p.parseReference image = .ok (.digest name)
  /-- Every policy that matches has an authority that vouches for it. -/
  policies : ∀ key policy, config.policies.lookup key = some policy → PolicyMatches p name policy →
    ∃ authority ∈ policy.authorities, ∃ co, AuthorityOptions p kc authority co ∧
      vouched (.digest name) co
  /-- When no policy matches, the secret vouches for it. -/
  secret : (∀ key policy, config.policies.lookup key = some policy →
      ¬PolicyMatches p name policy) →
    ∃ co, SecretOptions p keys [.authFromKeychain kc] co ∧ vouched (.digest name) co

/-- A pod that may run: with the keychain of the request and the keys of the secret, every image
of its init containers and of its containers may. -/
def PodVerified (config : ImagePolicyConfig) (secret : Except GoError (GoMap Bytes))
    (ps : PodSpec) (opt : KeychainOptions) : Prop :=
  ∃ kc data keys, p.newKeychain opt = .ok kc ∧ secret = .ok data ∧ getKeys p data = .ok keys ∧
    ∀ c ∈ ps.initContainers ++ ps.containers,
      ∃ name, ImageVerified p vouched config kc keys c.image name

/-- Every policy that matches the image has an authority that verification can be run for. -/
def PoliciesCheckable (config : ImagePolicyConfig) (image : String) : Prop :=
  ∀ name, p.parseReference image = .ok (.digest name) →
    ∀ key policy, config.policies.lookup key = some policy → PolicyMatches p name policy →
      ∃ authority ∈ policy.authorities, Checkable authority

end

variable {p : WebhookPlatform} {vouched : Reference → CheckOpts → Prop}

/-- There are options only for an authority that verification can be run for. -/
theorem AuthorityOptions.checkable {kc : Keychain} {authority : Authority} {co : CheckOpts}
    (options : AuthorityOptions p kc authority co) : Checkable authority := by
  unfold AuthorityOptions at options
  split at options
  · obtain ⟨keyless, url, -, -, given, named, -⟩ := options
    right
    simp [fulcioOf, given, named]
  · rename_i keyed
    exact .inl keyed

/-- What may run has only checkable policies. -/
theorem ImageVerified.checkable {config : ImagePolicyConfig} {kc : Keychain}
    {keys : List PublicKey} {image name : String}
    (verified : ImageVerified p vouched config kc keys image name) :
    PoliciesCheckable p config image := by
  intro name' parsed key policy named hit
  cases verified.digest.symm.trans parsed
  obtain ⟨authority, member, co, options, -⟩ := verified.policies key policy named hit
  exact ⟨authority, member, options.checkable⟩

/-- What may run by one meaning of vouching may run by a weaker one. -/
theorem ImageVerified.mono {weaker : Reference → CheckOpts → Prop}
    (weakens : ∀ ref co, vouched ref co → weaker ref co) {config : ImagePolicyConfig}
    {kc : Keychain} {keys : List PublicKey} {image name : String}
    (verified : ImageVerified p vouched config kc keys image name) :
    ImageVerified p weaker config kc keys image name where
  digest := verified.digest
  policies key policy named hit := by
    obtain ⟨authority, member, co, options, vouches⟩ := verified.policies key policy named hit
    exact ⟨authority, member, co, options, weakens _ _ vouches⟩
  secret unmatched := by
    obtain ⟨co, options, vouches⟩ := verified.secret unmatched
    exact ⟨co, options, weakens _ _ vouches⟩

/-- A pod that may run by one meaning of vouching may run by a weaker one. -/
theorem PodVerified.mono {weaker : Reference → CheckOpts → Prop}
    (weakens : ∀ ref co, vouched ref co → weaker ref co) {config : ImagePolicyConfig}
    {secret : Except GoError (GoMap Bytes)} {ps : PodSpec} {opt : KeychainOptions}
    (verified : PodVerified p vouched config secret ps opt) :
    PodVerified p weaker config secret ps opt := by
  obtain ⟨kc, data, keys, chained, fetched, loaded, images⟩ := verified
  refine ⟨kc, data, keys, chained, fetched, loaded, fun c member => ?_⟩
  obtain ⟨name, image⟩ := images c member
  exact ⟨name, image.mono weakens⟩

end Cosign.Spec
