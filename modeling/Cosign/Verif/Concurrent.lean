import Cosign.Remote.Concurrent
import Cosign.Spec.Overwrite
import Cosign.Verif.Publication

/-!
# Publication by several clients

What a command writes is decided by what it has seen (`runFrom_fst`), and a signing command writes
an extension of it. So the commands of all clients extend one list by overwriting (`cellOf_run`).
Signatures that were there before a run stay, and only signatures of commands for the digest are
added (`concurrent_publication`). A published signature is safe exactly when no command is under way
that has read the list without it (`signatures_kept_iff`).
-/
namespace Cosign.Verif

open Cosign.Go Cosign.Encoding Cosign.Oci Cosign.Remote Cosign.Spec
open Cosign.Verify (Repository)

variable {pem : PemLoader} {opts : List TagOption} {runs : Publication → Prop} {tag : Tag}

/-! ## What a command writes -/

/-- The layers that a command will write, unless it fails. -/
def plan (pem : PemLoader) (opts : List TagOption) (client : Client) : Option (List StoredLayer) :=
  match client.publication.runFrom pem opts client.seen client.seen with
  | (next, .ok none) => some (layersAt next (client.publication.tag opts))
  | _ => none

/-- Whether a list is written, and what is written, does not depend on the registry. -/
theorem writeList_uniform (faults : Faults) (list : Call (Except GoError Signatures))
    (digest : Except GoError Hash) (tagOf : Hash → Tag) :
    (∃ failure ≠ .ok none, ∀ registry,
      writeList registry faults list digest tagOf = (registry, failure)) ∨
      ∃ h layers, digest = .ok h ∧ ∀ registry, writeList registry faults list digest tagOf =
        (written registry (tagOf h) layers, .ok none) := by
  have failed : ∀ err : GoError, (Except.ok (some err) : Call (Option GoError)) ≠ .ok none :=
    fun err same => Option.some_ne_none err (Except.ok.inj same)
  unfold writeList remoteWrite
  cases list with
  | error panic => exact .inl ⟨.error panic, nofun, fun _ => rfl⟩
  | ok read =>
    cases read with
    | error err => exact .inl ⟨_, failed err, fun _ => rfl⟩
    | ok sigs =>
      cases digest with
      | error err => exact .inl ⟨_, failed err, fun _ => rfl⟩
      | ok h =>
        cases faults.write with
        | some err => exact .inl ⟨_, failed err, fun _ => rfl⟩
        | none =>
          cases published : sigs.image.published with
          | error err => exact .inl ⟨_, failed err, fun _ => by simp only [published]⟩
          | ok layers => exact .inr ⟨h, layers, rfl, fun _ => by simp only [published]; rfl⟩

theorem publishFrom_uniform {op : Operation} {seen : Registry} (tagOf : Hash → Tag)
    (list : SignedEntity → Call (Except GoError Signatures))
    {attach : SignedEntity → OciSignature → List SignOption → SignedEntity}
    {write : Registry → Faults → Repository → SignedEntity → List TagOption →
      Registry × Call (Option GoError)}
    (sameDigest : ∀ se, (attach se op.sig op.signOpts).digest = se.digest)
    (writes : ∀ registry se, write registry op.faults op.repository se opts =
      writeList registry op.faults (list se) se.digest tagOf) :
    (∃ failure ≠ .ok none, ∀ current,
      publishFrom pem opts seen current op attach write = (current, failure)) ∨
      ∃ layers, ∀ current, publishFrom pem opts seen current op attach write =
        (written current (tagOf op.digest.hash) layers, .ok none) := by
  cases found : signedEntity pem seen op.faults op.repository op.digest opts with
  | error err =>
    refine .inl ⟨.ok (some err), fun same => Option.some_ne_none err (Except.ok.inj same), ?_⟩
    intro current
    simp only [publishFrom, found]
  | ok se =>
    simp only [publishFrom, found, writes, sameDigest]
    obtain ⟨kind, seIs⟩ := signedEntity_eq_ok found
    cases writeList_uniform op.faults (list (attach se op.sig op.signOpts)) se.digest tagOf with
    | inl refused => exact .inl refused
    | inr succeeded =>
      obtain ⟨h, layers, digested, wrote⟩ := succeeded
      have hashIs : op.digest.hash = h := by
        rw [seIs] at digested
        exact Except.ok.inj digested
      rw [hashIs]
      exact .inr ⟨layers, wrote⟩

/-- Whether a command writes, and what it writes, is decided by what it has seen. -/
theorem runFrom_uniform (pem : PemLoader) (opts : List TagOption) (publication : Publication)
    (seen : Registry) :
    (∃ failure ≠ .ok none, ∀ current,
      publication.runFrom pem opts seen current = (current, failure)) ∨
      ∃ layers, ∀ current, publication.runFrom pem opts seen current =
        (written current (publication.tag opts) layers, .ok none) := by
  cases publication with
  | signature op =>
    exact publishFrom_uniform (fun h => (makeOptions op.repository opts).suffixTag h
      (makeOptions op.repository opts).signatureSuffix) SignedEntity.signatures
      (fun _ => rfl) fun _ _ => rfl
  | attestation op =>
    exact publishFrom_uniform (fun h => (makeOptions op.repository opts).suffixTag h
      (makeOptions op.repository opts).attestationSuffix) SignedEntity.attestations
      (fun _ => rfl) fun _ _ => rfl

theorem runFrom_fst (pem : PemLoader) (opts : List TagOption) (client : Client)
    (current : Registry) :
    (client.publication.runFrom pem opts client.seen current).1 =
      (plan pem opts client).elim current (written current (client.publication.tag opts)) := by
  unfold plan
  cases runFrom_uniform pem opts client.publication client.seen with
  | inl refused =>
    obtain ⟨failure, fails, refused⟩ := refused
    rw [refused, refused]
    cases failure with
    | error panic => rfl
    | ok err =>
      cases err with
      | none => exact absurd rfl fails
      | some err => rfl
  | inr succeeded =>
    obtain ⟨layers, succeeded⟩ := succeeded
    rw [succeeded, succeeded]
    show _ = written current _ (layersAt (written client.seen _ layers) _)
    rw [layersAt_written, Function.update_self]

/-- A signing command writes an extension of what it has seen by at most its signature. -/
theorem plan_signature {op : Operation} {seen : Registry} {list : List StoredLayer}
    (planned : plan pem opts ⟨.signature op, seen⟩ = some list) :
    ∃ added, list = layersAt seen (signatureTag op.repository op.digest opts) ++ added ∧
      ∀ stored ∈ added, Stores op.sig stored := by
  unfold plan at planned
  rw [Publication.runFrom_signature] at planned
  cases run_eq pem opts seen op with
  | inl refused =>
    obtain ⟨failure, fails, refused⟩ := refused
    rw [refused] at planned
    split at planned
    · next ran => exact absurd (congrArg Prod.snd ran) fails
    · cases planned
  | inr succeeded =>
    obtain ⟨layers, ran, either⟩ := succeeded
    rw [ran] at planned
    have listIs : layers = list := by
      have wrote := Option.some.inj planned
      rw [layersAt_written] at wrote
      rw [← wrote]
      exact (Function.update_self (signatureTag op.repository op.digest opts) layers
        (layersAt seen)).symm
    rw [← listIs]
    cases either with
    | inl same => exact ⟨[], by rw [same, List.append_nil], nofun⟩
    | inr appended =>
      obtain ⟨stored, stores, added⟩ := appended
      refine ⟨[stored], added, fun other member => ?_⟩
      rw [List.mem_singleton.mp member]
      exact stores

/-! ## The list of a digest -/

/-- What is going to be written to a tag by a command. -/
def planAt (pem : PemLoader) (opts : List TagOption) (tag : Tag) (client : Client) :
    Option (List StoredLayer) :=
  if client.publication.tag opts = tag then plan pem opts client else none

/-- The list under a tag and what is going to be written there. -/
def cellOf (pem : PemLoader) (opts : List TagOption) (tag : Tag) (service : Service) :
    Cell StoredLayer :=
  ⟨layersAt service.registry tag, service.clients.filterMap (planAt pem opts tag)⟩

/-- The layers that signing commands for a tag store. -/
def Signed (opts : List TagOption) (runs : Publication → Prop) (tag : Tag) (stored : StoredLayer) :
    Prop :=
  ∃ op, runs (.signature op) ∧ signatureTag op.repository op.digest opts = tag ∧
    Stores op.sig stored

/-- Only signing commands write to the tag. -/
def OnlySigned (opts : List TagOption) (runs : Publication → Prop) (tag : Tag) : Prop :=
  ∀ op, runs (.attestation op) → attestationTag op.repository op.digest opts ≠ tag

theorem layersAt_runFrom (client : Client) (current : Registry) :
    layersAt (client.publication.runFrom pem opts client.seen current).1 tag =
      (planAt pem opts tag client).getD (layersAt current tag) := by
  rw [runFrom_fst]
  unfold planAt
  cases planned : plan pem opts client with
  | none => rw [ite_self]; rfl
  | some list =>
    show layersAt (written current _ list) tag = _
    rw [layersAt_written]
    by_cases here : client.publication.tag opts = tag
    · rw [if_pos here, here, Function.update_self]
      rfl
    · rw [if_neg here, Function.update_of_ne (Ne.symm here)]
      rfl

/-- A step of a command is a step of a client of the list, or none. -/
theorem cellOf_step (signed : OnlySigned opts runs tag) {service next : Service}
    (step : ServiceStep pem opts runs service next) :
    CellRun (Signed opts runs tag) (cellOf pem opts tag service) (cellOf pem opts tag next) := by
  cases step with
  | read publication may =>
    unfold cellOf
    cases planned : planAt pem opts tag ⟨publication, service.registry⟩ with
    | none =>
      rw [List.filterMap_cons_none planned]
      exact .refl
    | some list =>
      rw [List.filterMap_cons_some planned]
      unfold planAt at planned
      split at planned
      · next here =>
        cases publication with
        | attestation op => exact absurd here (signed op may)
        | signature op =>
          obtain ⟨added, listIs, stores⟩ := plan_signature planned
          have here : signatureTag op.repository op.digest opts = tag := here
          rw [here] at listIs
          rw [listIs]
          exact .single (.read _ added fun stored member => ⟨op, may, here, stores stored member⟩)
      · cases planned
  | write before after client waiting =>
    unfold cellOf
    rw [waiting, layersAt_runFrom, List.filterMap_append, List.filterMap_append]
    cases planned : planAt pem opts tag client with
    | none =>
      rw [List.filterMap_cons_none planned]
      exact .refl
    | some list =>
      rw [List.filterMap_cons_some planned]
      exact .single (.write _ _ _ list rfl)

theorem cellOf_run (signed : OnlySigned opts runs tag) {service next : Service}
    (run : ServiceRun pem opts runs service next) :
    CellRun (Signed opts runs tag) (cellOf pem opts tag service) (cellOf pem opts tag next) := by
  induction run with
  | refl => exact .refl
  | tail _ step ih => exact ih.trans (cellOf_step signed step)

theorem onlySigned_signatureTag (distinct : DistinctSuffixes opts) (runs : Publication → Prop)
    (repository : Repository) (digest : Digest) :
    OnlySigned opts runs (signatureTag repository digest opts) :=
  fun op _ => suffixTag_ne (.inr (distinct.attestation op.repository))

/-- **When published signatures are safe.** Whatever commands run from now on, a beginning of the
signature list of a digest stays there exactly when every command that is under way, has read the
list and is going to write it, writes it with that beginning. Commands that start later, for other
digests or that attest are no danger. -/
theorem signatures_kept_iff (distinct : DistinctSuffixes opts) (repository : Repository)
    (digest : Digest) (service : Service) (base : List StoredLayer) :
    (∀ next, ServiceRun pem opts runs service next →
        base <+: layersAt next.registry (signatureTag repository digest opts)) ↔
      base <+: layersAt service.registry (signatureTag repository digest opts) ∧
        ∀ client ∈ service.clients,
          client.publication.tag opts = signatureTag repository digest opts →
            ∀ list, plan pem opts client = some list → base <+: list := by
  have signed := onlySigned_signatureTag distinct runs repository digest
  constructor
  · intro safe
    refine ⟨safe service .refl, fun client member here list planned => ?_⟩
    obtain ⟨before, after, waiting⟩ := List.append_of_mem member
    have later := safe _ (.single (.write service before after client waiting))
    rwa [layersAt_runFrom, planAt, if_pos here, planned] at later
  · intro kept next run
    have keeps : Throughout (base <+: ·)
        (cellOf pem opts (signatureTag repository digest opts) service) := by
      refine ⟨kept.1, fun list member => ?_⟩
      obtain ⟨client, inside, planned⟩ := List.mem_filterMap.mp member
      unfold planAt at planned
      split at planned
      · next here => exact kept.2 client inside here list planned
      · cases planned
    exact (keeps.run (prefix_keptByExtending _ base) (cellOf_run signed run)).held

/-- Another signature for the image of the sample registry. -/
def secondOperation : Operation :=
  { sampleOperation with
    sig := StaticLayer.signature sampleLoader id ⟨[5], "", StaticOptions.given []⟩ }

/-- Two commands have read the empty list and the first has written its signature. -/
def overlapping : Service where
  registry := runAll sampleLoader [] sampleRegistry [sampleOperation]
  clients := [⟨.signature secondOperation, sampleRegistry⟩]

/-- The signature that is published is not safe: the second command overwrites it. -/
theorem signatures_kept_iff_overlapping :
    ¬ ∀ next, ServiceRun sampleLoader [] (fun _ => True) overlapping next →
      layersAt overlapping.registry (signatureTag sampleRepository sampleManifest []) <+:
        layersAt next.registry (signatureTag sampleRepository sampleManifest []) := by
  rw [signatures_kept_iff distinctSuffixes_default]
  intro kept
  have begins := kept.2 ⟨.signature secondOperation, sampleRegistry⟩ List.mem_cons_self rfl _ rfl
  have contents := begins.map StoredLayer.content
  revert contents
  decide

theorem images_kept {service next : Service} (run : ServiceRun pem opts runs service next)
    (idle : ∀ client ∈ service.clients, client.publication.tag opts ≠ tag)
    (elsewhere : ∀ publication, runs publication → publication.tag opts ≠ tag) :
    next.registry.images tag = service.registry.images tag ∧
      ∀ client ∈ next.clients, client.publication.tag opts ≠ tag := by
  induction run with
  | refl => exact ⟨rfl, idle⟩
  | @tail middle _ _ step ih =>
    obtain ⟨same, idle⟩ := ih
    cases step with
    | read publication may =>
      refine ⟨same, fun client member => ?_⟩
      rcases List.mem_cons.mp member with rfl | member
      · exact elsewhere publication may
      · exact idle client member
    | write before after client waiting =>
      rw [waiting] at idle
      have other := idle client (by simp)
      refine ⟨?_, fun client member => idle client ?_⟩
      · rw [runFrom_fst, ← same]
        cases plan pem opts client with
        | none => rfl
        | some list => exact Function.update_of_ne (Ne.symm other) _ _
      · rcases List.mem_append.mp member with member | member
        · exact List.mem_append_left _ member
        · exact List.mem_append_right _ (List.mem_cons_of_mem _ member)

/-- From a moment when no command is under way, the list of a digest is extended by signatures of
commands for the digest. -/
theorem layersAt_extends (distinct : DistinctSuffixes opts) {service next : Service}
    (quiet : service.clients = []) (run : ServiceRun pem opts runs service next)
    (repository : Repository) (digest : Digest) :
    Extends (layersAt service.registry (signatureTag repository digest opts))
      (Signed opts runs (signatureTag repository digest opts))
      (layersAt next.registry (signatureTag repository digest opts)) := by
  have cells := cellOf_run (onlySigned_signatureTag distinct runs repository digest) run
  have start : Throughout (Extends (layersAt service.registry (signatureTag repository digest opts))
      (Signed opts runs (signatureTag repository digest opts)))
      (cellOf pem opts (signatureTag repository digest opts) service) := by
    refine ⟨⟨[], (List.append_nil _).symm, nofun⟩, ?_⟩
    simp [cellOf, quiet]
  exact (start.run (extends_keptByExtending _ _) cells).held

/-- **Publication by any number of clients at the same time.** However the commands interleave from
a moment when none is under way, the signatures that were there stay at the beginning of their list,
everything after them is the signature of a command for that digest, and other tags are as they
were. -/
theorem concurrent_publication (distinct : DistinctSuffixes opts) {service next : Service}
    (quiet : service.clients = []) (run : ServiceRun pem opts runs service next) :
    (∀ repository digest, ∃ added,
      layersAt next.registry (signatureTag repository digest opts) =
        layersAt service.registry (signatureTag repository digest opts) ++ added ∧
      ∀ stored ∈ added, ∃ op, runs (.signature op) ∧
        signatureTag op.repository op.digest opts = signatureTag repository digest opts ∧
        Stores op.sig stored) ∧
    ∀ tag, (∀ publication, runs publication → publication.tag opts ≠ tag) →
      next.registry.images tag = service.registry.images tag := by
  have idle : ∀ tag, ∀ client ∈ service.clients, client.publication.tag opts ≠ tag := by
    simp [quiet]
  exact ⟨layersAt_extends distinct quiet run,
    fun tag elsewhere => (images_kept run (idle tag) elsewhere).1⟩

/-- Commands that run one after another are one way for them to interleave. -/
theorem serviceRun_runAll (registry : Registry) {ops : List Operation}
    (may : ∀ op ∈ ops, runs (.signature op)) :
    ServiceRun pem opts runs ⟨registry, []⟩ ⟨runAll pem opts registry ops, []⟩ := by
  induction ops generalizing registry with
  | nil => exact .refl
  | cons op rest ih =>
    have others : ∀ other ∈ rest, runs (.signature other) :=
      fun other member => may other (List.mem_cons_of_mem _ member)
    exact .head (.read _ (.signature op) (may op List.mem_cons_self))
      (.head (.write _ [] [] ⟨.signature op, registry⟩ rfl) (ih _ others))

/-- The list then holds the signature of that command. -/
theorem concurrent_publication_sample : ∃ added,
    layersAt (runAll sampleLoader [] sampleRegistry [sampleOperation])
        (signatureTag sampleRepository sampleManifest []) =
      layersAt sampleRegistry (signatureTag sampleRepository sampleManifest []) ++ added ∧
    ∀ stored ∈ added, ∃ op : Operation, Publication.signature op = .signature sampleOperation ∧
      signatureTag op.repository op.digest [] = signatureTag sampleRepository sampleManifest [] ∧
      Stores op.sig stored := by
  have run : ServiceRun sampleLoader [] (· = .signature sampleOperation) ⟨sampleRegistry, []⟩
      ⟨runAll sampleLoader [] sampleRegistry [sampleOperation], []⟩ :=
    serviceRun_runAll sampleRegistry (by simp)
  exact (concurrent_publication distinctSuffixes_default rfl run).1 sampleRepository sampleManifest

end Cosign.Verif
