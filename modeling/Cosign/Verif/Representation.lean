import Cosign.Oci.Mutate
import Cosign.Verif.Sample
import Mathlib.Logic.Relation

/-!
# One signature before upload and after download

What is left of a signature after an upload is its payload and its annotations. A signature that was
built in memory and changed any number of times answers from its options and wrappers instead. Here
the annotations that the code writes are described key by key, and each accessor is compared with
what the layer reads under its key. A change keeps the agreement exactly when it does not replace a
certificate that has a chain by one without.
-/
namespace Cosign.Verif

open Cosign.Go Cosign.Encoding Cosign.Oci

variable {pem : PemLoader} {sha256 : Bytes → Bytes} {sig original : OciSignature}
  {ann oldAnn newAnn : GoMap String} {key other : String} {so : SignatureOpts} {next : OciSignature}
  {o : StaticOptions}

/-! ## What a layer reads from its annotations -/

/-- The text under a key; an absent one is empty. -/
def textAt (ann : GoMap String) (key : String) : String := (ann.lookup key).getD ""

/-- The certificate in a PEM text. -/
def readCert (pem : PemLoader) (certPem : String) : Except GoError (Option Certificate) := do
  let certs ← pem.load certPem
  .ok certs.head?

/-- The bundle in a JSON text. -/
def readBundle (val : String) : Except GoError (Option RekorBundle) :=
  if val = "" then .ok none
  else match RekorBundle.unmarshal (utf8Bytes val) with
    | .error err => .error (err.wrap "unmarshaling bundle")
    | .ok bundle => .ok (some bundle)

/-- `LoadCertificatesFromPEM` finds no certificates in an empty text. -/
def LoadsEmpty (pem : PemLoader) : Prop := pem.load "" = .ok []

/-- Encoding a bundle and decoding the text gives the bundle back. -/
def RoundTrips (bundle : RekorBundle) : Prop :=
  RekorBundle.unmarshal (utf8Bytes bundle.marshal) = .ok bundle

/-- The signature means the same when it is rebuilt from its payload and its annotations. -/
def Survives (pem : PemLoader) (sig : OciSignature) : Prop :=
  ∃ ann, sig.annotations = .ok ann ∧
    ∀ hash, sig.toSignature = SigLayer.signature pem ⟨sig.payload, hash, ann⟩

/-- Each accessor answers what stands under its annotation key. -/
structure ReadsFrom (pem : PemLoader) (sig : OciSignature) (ann : GoMap String) : Prop where
  annotations : sig.annotations = .ok ann
  /-- The signature annotation is there, and it is the signature. -/
  signature : ∃ b64sig, ann.lookup sigkey = some b64sig ∧ sig.base64Signature = .ok b64sig
  /-- The certificate annotation. -/
  cert : sig.cert = readCert pem (textAt ann certkey)
  /-- The chain annotation. -/
  chain : sig.chain = pem.load (textAt ann chainkey)
  /-- The bundle annotation. -/
  bundle : sig.bundle = readBundle (textAt ann bundleKey)

theorem layer_cert (loadsEmpty : LoadsEmpty pem) (layer : SigLayer) :
    layer.cert pem = readCert pem (textAt layer.annotations certkey) := by
  show layer.cert pem = readCert pem (layer.annotation certkey)
  unfold SigLayer.cert readCert
  by_cases blank : layer.annotation certkey = ""
  · rw [dif_pos blank, blank, loadsEmpty]
    rfl
  · rw [dif_neg blank]
    split
    · rename_i err loaded
      rw [loaded]
      rfl
    · rename_i certs loaded
      have nonempty := pem.nonempty _ _ blank loaded
      rw [← List.head?_eq_some_head nonempty]
      exact (congrArg (fun result => result >>= fun certs => Except.ok certs.head?) loaded).symm

theorem layer_chain (loadsEmpty : LoadsEmpty pem) (layer : SigLayer) :
    layer.chain pem = pem.load (textAt layer.annotations chainkey) := by
  show layer.chain pem = pem.load (layer.annotation chainkey)
  unfold SigLayer.chain
  by_cases blank : layer.annotation chainkey = ""
  · rw [if_pos blank, blank, loadsEmpty]
  · rw [if_neg blank]

theorem layer_base64Signature (compressed : Except GoError Bytes) (hash : Hash) {b64sig : String}
    (found : ann.lookup sigkey = some b64sig) :
    SigLayer.base64Signature ⟨compressed, hash, ann⟩ = .ok b64sig := by
  unfold SigLayer.base64Signature
  rw [found]

/-- A layer without a signature reports its digest, so nothing else answers the same. -/
theorem missing_signature (compressed : Except GoError Bytes) (given : Except GoError String)
    (absent : ann.lookup sigkey = none) :
    ¬∀ hash, given = SigLayer.base64Signature ⟨compressed, hash, ann⟩ := by
  intro same
  have first := same ⟨"", ""⟩
  have second := same ⟨"a", ""⟩
  rw [first] at second
  simp [SigLayer.base64Signature, absent, Hash.string, String.ext_iff] at second

/-- A signature agrees with what is rebuilt exactly when each accessor reads its annotation. -/
theorem survives_iff (loadsEmpty : LoadsEmpty pem) :
    Survives pem sig ↔ ∃ ann, ReadsFrom pem sig ann := by
  constructor
  · rintro ⟨ann, annotations, same⟩
    refine ⟨ann, annotations, ?_, ?_, ?_, ?_⟩
    · cases found : ann.lookup sigkey with
      | none =>
        have every : ∀ hash, sig.base64Signature =
            SigLayer.base64Signature ⟨sig.payload, hash, ann⟩ := fun hash => by
          rw [same hash]
          rfl
        exact absurd every (missing_signature _ _ found)
      | some b64sig =>
        refine ⟨b64sig, rfl, ?_⟩
        rw [same ⟨"", ""⟩]
        exact layer_base64Signature _ _ found
    · rw [same ⟨"", ""⟩]
      exact layer_cert loadsEmpty _
    · rw [same ⟨"", ""⟩]
      exact layer_chain loadsEmpty _
    · rw [same ⟨"", ""⟩]
      rfl
  · intro reads
    obtain ⟨ann, reads⟩ := reads
    refine ⟨ann, reads.annotations, fun hash => ?_⟩
    obtain ⟨b64sig, found, signature⟩ := reads.signature
    have annotations := reads.annotations
    have cert := reads.cert.trans (layer_cert loadsEmpty ⟨sig.payload, hash, ann⟩).symm
    have chain := reads.chain.trans (layer_chain loadsEmpty ⟨sig.payload, hash, ann⟩).symm
    have b64 := signature.trans (layer_base64Signature sig.payload hash found).symm
    have bundle := reads.bundle
    generalize sig.toSignature = value at *
    cases value
    simp only at annotations cert chain b64 bundle
    subst annotations cert chain b64 bundle
    rfl

/-! ## The annotations that are written -/

/-- The keys the code reserves for itself. -/
def reservedKeys : List String := [sigkey, certkey, chainkey, bundleKey]

theorem textAt_insert (value : String) :
    textAt (ann.insert key value) other = if other = key then value else textAt ann other := by
  unfold textAt
  by_cases same : other = key
  · rw [if_pos same, same, AList.lookup_insert]
    rfl
  · rw [if_neg same, AList.lookup_insert_ne same]

theorem textAt_erase :
    textAt (ann.erase key) other = if other = key then "" else textAt ann other := by
  unfold textAt
  by_cases same : other = key
  · rw [if_pos same, same, AList.lookup_erase]
    rfl
  · rw [if_neg same, AList.lookup_erase_ne same]

/-- A kept annotation is the old one, and the others are the new ones. -/
theorem lookup_keepUnreserved :
    (keepUnreserved oldAnn newAnn key).lookup other =
      if other = key then oldAnn.lookup key else newAnn.lookup other := by
  unfold keepUnreserved
  by_cases same : other = key
  · rw [if_pos same, same]
    cases found : oldAnn.lookup key with
    | none => exact AList.lookup_erase _ _
    | some val => exact AList.lookup_insert _
  · rw [if_neg same]
    cases found : oldAnn.lookup key with
    | none => exact AList.lookup_erase_ne same
    | some val => exact AList.lookup_insert_ne same

/-- The reserved annotations stay as they were, whatever the new annotations say. -/
theorem lookup_withReserved {given : GoMap String} (present : (oldAnn.lookup sigkey).isSome)
    (reserved : key ∈ reservedKeys) :
    (withReserved oldAnn given).lookup key = oldAnn.lookup key := by
  simp only [reservedKeys, List.mem_cons, List.not_mem_nil, or_false] at reserved
  simp only [withReserved, List.foldl_cons, List.foldl_nil, lookup_keepUnreserved,
    signatureAnnotationKey_eq, certificateAnnotationKey_eq, chainAnnotationKey_eq,
    bundleAnnotationKey_eq]
  rcases reserved with rfl | rfl | rfl | rfl
  · rw [if_neg (by decide), if_neg (by decide), if_neg (by decide), AList.lookup_insert]
    obtain ⟨b64sig, found⟩ := Option.isSome_iff_exists.mp present
    rw [found]
    rfl
  · rw [if_neg (by decide), if_pos rfl]
  · rw [if_pos rfl]
  · rw [if_neg (by decide), if_neg (by decide), if_pos rfl]

/-- What `Signature` writes before it sets a certificate: the reserved annotations stay as they
were, but for a new bundle. -/
theorem lookup_mutated_kept (present : (oldAnn.lookup sigkey).isSome)
    (reserved : key ∈ reservedKeys) (kept : so.bundle = none ∨ key ≠ bundleKey) :
    (mutatedAnnotations so oldAnn).lookup key = oldAnn.lookup key := by
  unfold mutatedAnnotations
  cases bundled : so.bundle with
  | none =>
    cases so.annotations with
    | none => rfl
    | some given => exact lookup_withReserved present reserved
  | some bundle =>
    have different : key ≠ bundleKey :=
      kept.resolve_left fun absent => Option.some_ne_none _ (bundled.symm.trans absent)
    cases so.annotations with
    | none => exact AList.lookup_insert_ne different
    | some given =>
      exact (AList.lookup_insert_ne different).trans (lookup_withReserved present reserved)

theorem lookup_mutated_bundle {bundle : RekorBundle} (given : so.bundle = some bundle) :
    (mutatedAnnotations so oldAnn).lookup bundleKey = some bundle.marshal := by
  unfold mutatedAnnotations
  rw [given]
  exact AList.lookup_insert _

/-! ## One change -/

/-- A bundle that survives its encoding is read back from its text. -/
theorem readBundle_marshal {bundle : RekorBundle} (roundTrips : RoundTrips bundle) :
    readBundle bundle.marshal = .ok (some bundle) := by
  have nonempty : bundle.marshal ≠ "" := by
    intro blank
    have failed := roundTrips
    unfold RoundTrips at failed
    rw [blank] at failed
    have parsed : RekorBundle.unmarshal (utf8Bytes "") = .error syntaxError := rfl
    rw [parsed] at failed
    cases failed
  unfold readBundle
  rw [if_neg nonempty, roundTrips]

/-- A changed signature before its certificate is set. -/
def bareWrapper (original : OciSignature) (so : SignatureOpts) (newAnn : GoMap String) :
    SigWrapper :=
  ⟨original, some newAnn, so.bundle, none, none, so.mediaType⟩

/-- The text of a reserved annotation other than the bundle is unchanged. -/
theorem textAt_mutatedAnnotations (present : (oldAnn.lookup sigkey).isSome)
    (reserved : key ∈ reservedKeys) (different : key ≠ bundleKey) :
    textAt (mutatedAnnotations so oldAnn) key = textAt oldAnn key := by
  unfold textAt
  rw [lookup_mutated_kept present reserved (.inr different)]

/-- The bundle of a changed signature is the one in its annotation. -/
theorem bundle_mutatedAnnotations (reads : ReadsFrom pem original oldAnn)
    (present : (oldAnn.lookup sigkey).isSome)
    (roundTrips : ∀ bundle, so.bundle = some bundle → RoundTrips bundle) :
    SigWrapper.orWrapped (so.bundle.map some) original.bundle =
      readBundle (textAt (mutatedAnnotations so oldAnn) bundleKey) := by
  unfold textAt
  cases given : so.bundle with
  | none =>
    rw [lookup_mutated_kept present (by decide) (.inl given)]
    exact reads.bundle
  | some bundle =>
    rw [lookup_mutated_bundle given]
    exact (readBundle_marshal (roundTrips bundle given)).symm

theorem readsFrom_bare (reads : ReadsFrom pem original oldAnn)
    (roundTrips : ∀ bundle, so.bundle = some bundle → RoundTrips bundle) :
    ReadsFrom pem (bareWrapper original so (mutatedAnnotations so oldAnn)).signature
      (mutatedAnnotations so oldAnn) := by
  obtain ⟨b64sig, found, signature⟩ := reads.signature
  have present : (oldAnn.lookup sigkey).isSome := Option.isSome_of_mem found
  refine ⟨rfl, ⟨b64sig, ?_, signature⟩, ?_, ?_, ?_⟩
  · rw [lookup_mutated_kept present (by decide) (.inr (by decide)), found]
  · rw [textAt_mutatedAnnotations present (by decide) (by decide)]
    exact reads.cert
  · rw [textAt_mutatedAnnotations present (by decide) (by decide)]
    exact reads.chain
  · exact bundle_mutatedAnnotations reads present roundTrips

/-- The annotations of a signature are the ones it has to read from. -/
theorem survives_iff_reads (loadsEmpty : LoadsEmpty pem) (annotations : sig.annotations = .ok ann) :
    Survives pem sig ↔ ReadsFrom pem sig ann := by
  rw [survives_iff loadsEmpty]
  constructor
  · intro reads
    obtain ⟨other, reads⟩ := reads
    have same : other = ann := by
      rw [reads.annotations] at annotations
      exact Except.ok.inj annotations
    rw [← same]
    exact reads
  · exact fun reads => ⟨ann, reads⟩

/-- The annotations after a certificate is set, without a chain. -/
def certAnnotations (newAnn : GoMap String) (certPem : String) : GoMap String :=
  (newAnn.insert certkey certPem).erase chainkey

/-- Setting a certificate touches the certificate and the chain only. -/
theorem lookup_certAnnotations (certPem : String) (first : key ≠ certkey)
    (second : key ≠ chainkey) :
    (certAnnotations newAnn certPem).lookup key = newAnn.lookup key := by
  unfold certAnnotations
  rw [AList.lookup_erase_ne second, AList.lookup_insert_ne first]

/-- A changed signature with a new certificate and, where one is given, a new chain. -/
def certWrapper (original : OciSignature) (so : SignatureOpts) (newAnn : GoMap String)
    (cert : Certificate) (chain : Option (List Certificate)) : SigWrapper :=
  ⟨original, some newAnn, so.bundle, some cert, chain, so.mediaType⟩

/-- What a signature with a new certificate reads, the chain apart. -/
theorem readsFrom_cert {cert : Certificate} {rest : List Certificate}
    {certPem : String} {chain : Option (List Certificate)}
    (reads : ReadsFrom pem original oldAnn)
    (roundTrips : ∀ bundle, so.bundle = some bundle → RoundTrips bundle)
    (loaded : pem.load certPem = .ok (cert :: rest))
    (certified : textAt newAnn certkey = certPem)
    (others : ∀ key, key ≠ certkey → key ≠ chainkey →
      newAnn.lookup key = (mutatedAnnotations so oldAnn).lookup key) :
    ReadsFrom pem (certWrapper original so newAnn cert chain).signature newAnn ↔
      SigWrapper.orWrapped chain original.chain = pem.load (textAt newAnn chainkey) := by
  have bare := readsFrom_bare reads roundTrips
  obtain ⟨b64sig, found, signature⟩ := bare.signature
  refine ⟨fun agreed => agreed.chain,
    fun chained => ⟨rfl, ⟨b64sig, ?_, signature⟩, ?_, chained, ?_⟩⟩
  · rw [others sigkey (by decide) (by decide), found]
  · rw [certified]
    unfold readCert
    rw [loaded]
    rfl
  · have same : textAt newAnn bundleKey = textAt (mutatedAnnotations so oldAnn) bundleKey := by
      unfold textAt
      rw [others bundleKey (by decide) (by decide)]
    rw [same]
    exact bare.bundle

/-- A new certificate comes with a chain, or the signature has none so far. -/
def KeepsChain (sig : OciSignature) (opts : List SignatureOption) : Prop :=
  (makeSignatureOption opts).cert ≠ none → (makeSignatureOption opts).chain = none →
    sig.chain = .ok []

/-- A call of `mutate.Signature` that returns a signature, with a bundle that survives its
encoding. -/
structure Mutates (pem : PemLoader) (original : OciSignature) (opts : List SignatureOption)
    (next : OciSignature) : Prop where
  /-- The call returns the signature. -/
  returned : mutateSignature pem original opts = .ok (.ok next)
  /-- A new bundle survives its encoding. -/
  roundTrips : ∀ bundle, (makeSignatureOption opts).bundle = some bundle → RoundTrips bundle

theorem setCertChain_chainless {certPem : String}
    (returned : setCertChain pem (bareWrapper original so newAnn) newAnn certPem none =
      .ok (.ok next)) :
    ∃ cert rest, pem.load certPem = .ok (cert :: rest) ∧
      next = (certWrapper original so (certAnnotations newAnn certPem) cert none).signature := by
  unfold setCertChain at returned
  split at returned
  · cases returned
  · cases returned
  · rename_i cert rest loaded
    exact ⟨cert, rest, loaded, (Except.ok.inj (Except.ok.inj returned)).symm⟩

theorem setCertChain_chained {certPem chainPem : String}
    (returned : setCertChain pem (bareWrapper original so newAnn) newAnn certPem (some chainPem) =
      .ok (.ok next)) :
    ∃ cert rest chain, pem.load certPem = .ok (cert :: rest) ∧ pem.load chainPem = .ok chain ∧
      next = (certWrapper original so
        ((certAnnotations newAnn certPem).insert chainkey chainPem) cert
          (some chain)).signature := by
  unfold setCertChain at returned
  split at returned
  · cases returned
  · cases returned
  · rename_i cert rest loaded
    dsimp only at returned
    split at returned
    · cases returned
    · rename_i chain chained
      exact ⟨cert, rest, chain, loaded, chained, (Except.ok.inj (Except.ok.inj returned)).symm⟩

/-- One change of a signature that agrees keeps the agreement exactly when it does not replace a
certificate that has a chain by one without. -/
theorem survives_mutates_iff {opts : List SignatureOption} (loadsEmpty : LoadsEmpty pem)
    (agrees : Survives pem original)
    (mutates : Mutates pem original opts next) : Survives pem next ↔ KeepsChain original opts := by
  obtain ⟨oldAnn, reads⟩ := (survives_iff loadsEmpty).mp agrees
  have roundTrips := mutates.roundTrips
  have returned := mutates.returned
  unfold mutateSignature at returned
  rw [reads.annotations] at returned
  unfold KeepsChain
  generalize makeSignatureOption opts = so at roundTrips returned ⊢
  cases given : so.cert with
  | none =>
    simp only [given, Except.ok.injEq] at returned
    subst returned
    refine iff_of_true ?_ (fun given => absurd rfl given)
    exact (survives_iff loadsEmpty).mpr ⟨_, readsFrom_bare reads roundTrips⟩
  | some certPem =>
    simp only [given] at returned
    have others : ∀ key, key ≠ certkey → key ≠ chainkey →
        (certAnnotations (mutatedAnnotations so oldAnn) certPem).lookup key =
          (mutatedAnnotations so oldAnn).lookup key :=
      fun key first second => lookup_certAnnotations certPem first second
    have certified : textAt (certAnnotations (mutatedAnnotations so oldAnn) certPem) certkey =
        certPem := by
      unfold certAnnotations
      rw [textAt_erase, if_neg (by decide), textAt_insert, if_pos rfl]
    cases chained : so.chain with
    | none =>
      rw [chained] at returned
      obtain ⟨cert, rest, loaded, built⟩ := setCertChain_chainless returned
      rw [built, survives_iff_reads loadsEmpty rfl,
        readsFrom_cert reads roundTrips loaded certified others]
      have blank :
          textAt (certAnnotations (mutatedAnnotations so oldAnn) certPem) chainkey = "" := by
        unfold certAnnotations
        rw [textAt_erase, if_pos rfl]
      rw [blank, loadsEmpty]
      exact ⟨fun same _ _ => same, fun keeps => keeps (Option.some_ne_none _) rfl⟩
    | some chainPem =>
      rw [chained] at returned
      obtain ⟨cert, rest, chain, loaded, chainLoaded, built⟩ := setCertChain_chained returned
      refine iff_of_true ?_ (fun _ absent => absurd absent (Option.some_ne_none _))
      rw [built, survives_iff_reads loadsEmpty rfl, readsFrom_cert reads roundTrips loaded]
      · rw [textAt_insert, if_pos rfl, chainLoaded]
        rfl
      · rw [textAt_insert, if_neg (by decide), certified]
      · intro key first second
        rw [AList.lookup_insert_ne second]
        exact others key first second

/-! ## A signature as it is built -/

/-- Options that set no reserved annotation, give a chain only with a certificate, and give a
bundle that survives its encoding. -/
structure PlainOptions (o : StaticOptions) : Prop where
  /-- The reserved keys are left to the code. -/
  unreserved : ∀ ann, o.annotations = some ann → ∀ key ∈ reservedKeys, key ∉ ann
  /-- There is no chain without a certificate. -/
  chained : o.cert = none → o.chain = none
  /-- The bundle survives its encoding. -/
  roundTrips : ∀ bundle, o.bundle = some bundle → RoundTrips bundle

theorem textAt_assign {entries next : Option (GoMap String)} {value : String}
    (assigned : assign entries key value = .ok next) :
    textAt (next.getD ∅) other = if other = key then value else textAt (entries.getD ∅) other := by
  cases entries with
  | none => cases assigned
  | some entries =>
    rw [← Except.ok.inj assigned]
    exact textAt_insert value

/-- No reserved key has a text in the annotations the user gives. -/
theorem textAt_unreserved (plain : PlainOptions o)
    (reserved : key ∈ reservedKeys) : textAt (o.annotations.getD ∅) key = "" := by
  unfold textAt
  cases given : o.annotations with
  | none => rfl
  | some ann =>
    have absent := plain.unreserved ann given key reserved
    rw [Option.getD_some, AList.lookup_eq_none.mpr absent]
    rfl

/-- The annotations after a certificate: its text and that of its chain. -/
theorem textAt_assignCert {ann : Option (GoMap String)} (plain : PlainOptions o)
    (assigned : assignCert o = .ok ann) :
    textAt (ann.getD ∅) certkey = o.cert.getD "" ∧ textAt (ann.getD ∅) chainkey = o.chain.getD "" ∧
      textAt (ann.getD ∅) bundleKey = "" := by
  unfold assignCert at assigned
  cases given : o.cert with
  | none =>
    simp only [given, Except.ok.injEq] at assigned
    rw [← assigned, plain.chained given]
    exact ⟨textAt_unreserved plain (by decide), textAt_unreserved plain (by decide),
      textAt_unreserved plain (by decide)⟩
  | some cert =>
    simp only [given] at assigned
    obtain ⟨middle, first, second⟩ := bind_eq_ok.mp assigned
    simp only [certificateAnnotationKey_eq, chainAnnotationKey_eq] at first second
    refine ⟨?_, ?_, ?_⟩
    · rw [textAt_assign second, if_neg (by decide), textAt_assign first, if_pos rfl]
      rfl
    · rw [textAt_assign second, if_pos rfl]
    · rw [textAt_assign second, if_neg (by decide), textAt_assign first, if_neg (by decide)]
      exact textAt_unreserved plain (by decide)

/-- The options that `makeOptions` returns: those given, with annotations that say the same. -/
theorem makeStaticOptions_eq_ok {opts : List StaticOption} (plain : PlainOptions (.given opts))
    (made : makeStaticOptions opts = .ok o) :
    o.bundle = (StaticOptions.given opts).bundle ∧
      textAt (o.annotations.getD ∅) certkey = o.cert.getD "" ∧
      textAt (o.annotations.getD ∅) chainkey = o.chain.getD "" ∧
      textAt (o.annotations.getD ∅) bundleKey = (o.bundle.map RekorBundle.marshal).getD "" := by
  obtain ⟨ann, assigned, rest⟩ := bind_eq_ok.mp made
  obtain ⟨cert, chain, bundle⟩ := textAt_assignCert plain assigned
  cases given : (StaticOptions.given opts).bundle with
  | none =>
    simp only [given, Except.ok.injEq] at rest
    rw [← rest]
    exact ⟨rfl, cert, chain, bundle⟩
  | some value =>
    simp only [given] at rest
    obtain ⟨last, assigned, rest⟩ := bind_eq_ok.mp rest
    rw [← Except.ok.inj rest]
    simp only [bundleAnnotationKey_eq] at assigned
    refine ⟨rfl, ?_, ?_, ?_⟩
    · rw [textAt_assign assigned, if_neg (by decide)]
      exact cert
    · rw [textAt_assign assigned, if_neg (by decide)]
      exact chain
    · rw [textAt_assign assigned, if_pos rfl]
      rfl

/-- A signature built from plain options agrees with what is rebuilt from it. -/
theorem survives_newSignature {payload : Bytes} {b64sig : String} {opts : List StaticOption}
    (loadsEmpty : LoadsEmpty pem) (plain : PlainOptions (.given opts))
    (built : newSignature pem sha256 payload b64sig opts = .ok sig) : Survives pem sig := by
  obtain ⟨o, made, rest⟩ := bind_eq_ok.mp built
  obtain ⟨same, cert, chain, bundle⟩ := makeStaticOptions_eq_ok plain made
  rw [← Except.ok.inj rest]
  have elsewhere : ∀ key, key ≠ sigkey → textAt (StaticLayer.annotations ⟨payload, b64sig, o⟩) key =
      textAt (o.annotations.getD ∅) key := by
    intro key different
    unfold StaticLayer.annotations
    rw [signatureAnnotationKey_eq, textAt_insert, if_neg different]
  refine (survives_iff loadsEmpty).mpr ⟨_, rfl, ⟨b64sig, AList.lookup_insert _, rfl⟩, ?_, ?_, ?_⟩
  · rw [elsewhere certkey (by decide), cert]
    rfl
  · rw [elsewhere chainkey (by decide), chain]
    rfl
  · rw [elsewhere bundleKey (by decide), bundle]
    show Except.ok o.bundle = _
    cases given : o.bundle with
    | none => rfl
    | some value =>
      rw [same] at given
      exact (readBundle_marshal (plain.roundTrips value given)).symm

/-! ## Any number of changes -/

/-- One change that keeps the chain. -/
def KeepingStep (pem : PemLoader) (sig next : OciSignature) : Prop :=
  ∃ opts, Mutates pem sig opts next ∧ KeepsChain sig opts

/-- **A signature means the same before upload and after download** in every run of changes that do
not replace a certificate with a chain by one without; where a change does that, the signature does
not agree with what is rebuilt from it. -/
theorem representation_agrees {payload : Bytes} {b64sig : String} {opts : List StaticOption}
    {start : OciSignature} (loadsEmpty : LoadsEmpty pem) (plain : PlainOptions (.given opts))
    (built : newSignature pem sha256 payload b64sig opts = .ok start)
    (run : Relation.ReflTransGen (KeepingStep pem) start sig) :
    Survives pem sig ∧ ∀ changes next, Mutates pem sig changes next →
      (Survives pem next ↔ KeepsChain sig changes) := by
  have agrees : Survives pem sig := by
    induction run with
    | refl => exact survives_newSignature loadsEmpty plain built
    | tail before step ih =>
      obtain ⟨changes, mutates, keeps⟩ := step
      exact (survives_mutates_iff loadsEmpty ih mutates).mpr keeps
  exact ⟨agrees, fun changes next mutates => survives_mutates_iff loadsEmpty agrees mutates⟩

/-- A loader that reads every text as one certificate. -/
def sampleLoader : PemLoader where
  load pemText :=
    if pemText = "" then .ok [] else .ok [{ sampleCert with raw := utf8Bytes pemText }]
  nonempty pemText certs nonempty loaded := by
    rw [if_neg nonempty] at loaded
    rw [← Except.ok.inj loaded]
    exact List.cons_ne_nil _ _

theorem sampleLoader_empty : LoadsEmpty sampleLoader := rfl

/-- Options with nothing but a certificate and its chain are plain. -/
theorem plain_certChain (cert : String) (chain : Option String) :
    PlainOptions (.given [.withCertChain (some cert) chain]) where
  unreserved ann given key _ := by
    rw [← Option.some.inj given]
    exact AList.notMem_empty key
  chained absent := absurd absent (Option.some_ne_none _)
  roundTrips bundle given := absurd given.symm (Option.some_ne_none _)

theorem mutates_certChain (cert : String) (chain : Option String)
    (returned : mutateSignature pem sig [.withCertChain (some cert) chain] = .ok (.ok next)) :
    Mutates pem sig [.withCertChain (some cert) chain] next where
  returned := returned
  roundTrips _ given := absurd given.symm (Option.some_ne_none _)

/-- A certificate without a chain on a signature that has one: the wrapper still answers the old
chain, which is not in the annotations any more. -/
theorem old_chain_survives :
    ∃ start next, newSignature sampleLoader id samplePayload "AQ=="
        [.withCertChain (some "leaf") (some "intermediate")] = .ok start ∧
      mutateSignature sampleLoader start [.withCertChain (some "renewed") none] = .ok (.ok next) ∧
      next.chain = sampleLoader.load "intermediate" ∧
      (∀ ann, next.annotations = .ok ann → ann.lookup chainkey = none) ∧
      ¬Survives sampleLoader next := by
  refine ⟨_, _, rfl, rfl, rfl, ?_, ?_⟩
  · intro ann annotations
    rw [← Except.ok.inj annotations]
    exact AList.lookup_erase _ _
  · intro agrees
    have built : newSignature sampleLoader id samplePayload "AQ=="
        [.withCertChain (some "leaf") (some "intermediate")] = .ok _ := rfl
    have before := survives_newSignature sampleLoader_empty (plain_certChain _ _) built
    have keeps := (survives_mutates_iff sampleLoader_empty before
      (mutates_certChain "renewed" none rfl)).mp agrees
    have lost := keeps (Option.some_ne_none _) rfl
    exact absurd (Except.ok.inj lost) (List.cons_ne_nil _ _)

/-- A run with one change: a signature without a chain gets a new certificate and a chain. -/
theorem representation_agrees_renewed :
    ∃ start next, newSignature sampleLoader id samplePayload "AQ=="
        [.withCertChain (some "leaf") none] = .ok start ∧
      mutateSignature sampleLoader start [.withCertChain (some "renewed") (some "intermediate")] =
        .ok (.ok next) ∧
      Survives sampleLoader next := by
  have built : newSignature sampleLoader id samplePayload "AQ=="
      [.withCertChain (some "leaf") none] = .ok _ := rfl
  refine ⟨_, _, built, rfl, ?_⟩
  have keeps : ∀ sig, KeepsChain sig [.withCertChain (some "renewed") (some "intermediate")] :=
    fun sig _ absent => absurd absent (Option.some_ne_none _)
  exact (representation_agrees sampleLoader_empty (plain_certChain _ _) built
    (.single ⟨_, mutates_certChain "renewed" (some "intermediate") rfl, keeps _⟩)).1

end Cosign.Verif
