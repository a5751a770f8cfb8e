import Cosign.Go.Results
import Cosign.Oci.Attach
import Cosign.Verif.SignatureList

/-!
# Stacks of attach operations

The lists of the entity under a stack of wrappers are the lists of the base followed by what was
attached, in order (`lists_attachAll`). For a file, a wrapper does not ask the entity it wraps, so
that every other operation hides the files below it (`layered_iff`).
-/
namespace Cosign.Verif

open Cosign.Go Cosign.Encoding Cosign.Oci

variable {quote : String → String} {base : Call (Except GoError Oci.Signatures)}
  {sig : OciSignature} {sl : List OciSignature} {so : SignOpts} {se : FiledEntity}
  {ops : List AttachOp}

/-- What `Signatures()` or `Attestations()` returned lists some elements. -/
def Lists (list : Call (Except GoError Oci.Signatures)) (sl : List OciSignature) : Prop :=
  ∃ value, list = .ok (.ok value) ∧ value.get = .ok sl

/-- The annotations of an element can be read. -/
def Annotated (sig : OciSignature) : Prop := ∃ ann, sig.annotations = .ok ann

/-- A longer list lists the base and then what was appended, if the annotations of that can be
read. -/
theorem lists_appendSignatures {value : Oci.Signatures} :
    Lists (.ok (appendSignatures value [sig])) sl ↔
      ∃ before, value.get = .ok before ∧ Annotated sig ∧ sl = before ++ [sig] := by
  unfold Lists appendSignatures Annotated
  rw [List.mapM_cons, List.mapM_nil]
  cases annotations : sig.annotations with
  | error err => simp [addendum, annotations, bind, Except.bind]
  | ok ann =>
    cases got : value.get with
    | error err =>
      simp [addendum, annotations, bind, Except.bind, pure, Except.pure, sigAppenderGet, got]
    | ok before =>
      simp [addendum, annotations, bind, Except.bind, pure, Except.pure, sigAppenderGet, got,
        eq_comm]

/-- A wrapper without a detector lists what is listed below it and then the new element, if there
is one. -/
theorem lists_attached {new : Option OciSignature} (unchecked : so.dd = none) :
    Lists (attached base new so fun value sig => .ok (appendSignatures value [sig])) sl ↔
      ∃ before, Lists base before ∧ (∀ sig ∈ new.toList, Annotated sig) ∧
        sl = before ++ new.toList := by
  unfold attached
  cases base with
  | error panic => simp [Lists, bind, Except.bind]
  | ok outcome =>
    cases outcome with
    | error err => simp [Lists, bind, Except.bind]
    | ok value =>
      have below : ∀ before, Lists (.ok (.ok value)) before ↔ value.get = .ok before := by
        intro before
        simp [Lists]
      cases new with
      | none => simp [below, bind, Except.bind]
      | some sig =>
        have novel : findExisting so value sig = .ok none := by
          unfold findExisting
          rw [unchecked]
        simp only [bind, Except.bind, novel, lists_appendSignatures, below, Option.toList_some,
          List.forall_mem_singleton]

/-- The two lists of an entity. -/
inductive Role where
  /-- The signatures. -/
  | signature
  | attestation
  deriving DecidableEq, Repr

namespace Role

/-- The list of an entity. -/
def list (se : Oci.SignedEntity) : Role → Call (Except GoError Oci.Signatures)
  | .signature => se.signatures
  | .attestation => se.attestations

/-- Of two optional elements, the one for the list. -/
def pick (sig att : Option OciSignature) : Role → Option OciSignature
  | .signature => sig
  | .attestation => att

end Role

/-- Without a replace operation, both lists of a wrapper are made alike. -/
theorem list_attach (se : Oci.SignedEntity) (sig att : Option OciSignature)
    (unreplaced : so.ro = none) (role : Role) :
    role.list (attach se sig att so) = attached (role.list se) (role.pick sig att) so
      fun value sig => .ok (appendSignatures value [sig]) := by
  cases role with
  | signature => rfl
  | attestation =>
    have extend : ∀ publish, extendAttestations so publish =
        fun value att => .ok (appendSignatures value [att]) := by
      intro publish
      funext value att
      unfold extendAttestations
      rw [unreplaced]
    unfold attach Role.list Role.pick
    cases se.kind with
    | image =>
      dsimp only
      rw [signedImageAttestations, extend]
    | index =>
      dsimp only
      rw [signedImageIndexAttestations, extend]

/-- What an operation adds to a list. -/
def givenTo (role : Role) : AttachOp → List OciSignature
  | .signature sig => (role.pick (some sig) none).toList
  | .attestation att => (role.pick none (some att)).toList
  | .file _ _ => []

/-- The file that an operation attaches under a name. -/
def fileNamed (name : String) : AttachOp → Option File
  | .file other f => if other = name then some f else none
  | _ => none

@[simp]
theorem fileNamed_file (name other : String) (f : File) :
    fileNamed name (.file other f) = if other = name then some f else none :=
  rfl

theorem fileNamed_eq_some {name : String} {op : AttachOp} {f : File} :
    fileNamed name op = some f ↔ op = .file name f := by
  cases op with
  | signature sig => simp [fileNamed]
  | attestation att => simp [fileNamed]
  | file other given => simp

/-- The last file that operations attach under a name. -/
def lastFile (name : String) (ops : List AttachOp) : Option File :=
  ops.reverse.findSome? (fileNamed name)

theorem lists_run (role : Role) (op : AttachOp) :
    Lists (role.list (op.run quote se).toSignedEntity) sl ↔
      ∃ before, Lists (role.list se.toSignedEntity) before ∧
        (∀ sig ∈ givenTo role op, Annotated sig) ∧ sl = before ++ givenTo role op := by
  have plain : ∀ sig att, role.list (attach se.toSignedEntity sig att (makeSignOpts [])) = _ :=
    fun sig att => list_attach se.toSignedEntity sig att rfl role
  cases op with
  | signature sig =>
    show Lists (role.list (attach _ (some sig) none (makeSignOpts []))) sl ↔ _
    rw [plain]
    exact lists_attached rfl
  | attestation att =>
    show Lists (role.list (attach _ none (some att) (makeSignOpts []))) sl ↔ _
    rw [plain]
    exact lists_attached rfl
  | file name f =>
    have nothing : role.pick none none = none := by
      cases role <;> rfl
    show Lists (role.list (attach _ none none (makeSignOpts []))) sl ↔ _
    rw [plain, nothing]
    exact lists_attached rfl

/-- **What a stack of operations lists**: what the base lists, and then what was attached to the
list, in order; it lists nothing when the annotations of something attached cannot be read. -/
theorem lists_attachAll (role : Role) (ops : List AttachOp) :
    Lists (role.list (attachAll quote se ops).toSignedEntity) sl ↔
      ∃ before, Lists (role.list se.toSignedEntity) before ∧
        (∀ sig ∈ ops.flatMap (givenTo role), Annotated sig) ∧
        sl = before ++ ops.flatMap (givenTo role) := by
  induction ops generalizing se with
  | nil => simp [attachAll]
  | cons op rest ih =>
    show Lists (role.list (attachAll quote (op.run quote se) rest).toSignedEntity) sl ↔ _
    rw [ih, List.flatMap_cons]
    simp only [lists_run, List.mem_append]
    constructor
    · rintro ⟨middle, ⟨before, listed, own, middleIs⟩, others, slIs⟩
      refine ⟨before, listed, ?_, ?_⟩
      · intro sig inside
        exact inside.elim (own sig) (others sig)
      · rw [slIs, middleIs, List.append_assoc]
    · rintro ⟨before, listed, all, slIs⟩
      refine ⟨before ++ givenTo role op, ⟨before, listed, ?_, rfl⟩, ?_, ?_⟩
      · exact fun sig inside => all sig (.inl inside)
      · exact fun sig inside => all sig (.inr inside)
      · rw [slIs, List.append_assoc]

/-- The files under a stack of operations are those of the last one. -/
theorem attachment_attachAll (rest : List AttachOp) (op : AttachOp) (name : String) :
    (attachAll quote se (rest ++ [op])).attachment name =
      (fileNamed name op).elim (.error (attachmentNotFound quote name)) .ok := by
  have last : attachAll quote se (rest ++ [op]) = op.run quote (attachAll quote se rest) := by
    unfold attachAll
    rw [List.foldl_append, List.foldl_cons, List.foldl_nil]
  rw [last]
  cases op with
  | signature sig => rfl
  | attestation att => rfl
  | file other f =>
    show wrapperAttachment quote (AList.singleton other f) name = _
    unfold wrapperAttachment
    rw [fileNamed_file]
    by_cases same : other = name
    · rw [if_pos same, ← same, ← AList.insert_empty, AList.lookup_insert]
      rfl
    · rw [if_neg same, ← AList.insert_empty, AList.lookup_insert_ne (Ne.symm same)]
      rfl

/-- The law of the attach operations: each list is that of the base and then what was attached to
it, and a file is the last one that was attached under its name, or else that of the base. -/
structure Layered (quote : String → String) (se : FiledEntity) (ops : List AttachOp) : Prop where
  lists : ∀ role sl, Lists (Role.list se.toSignedEntity role) sl →
    Lists (Role.list (attachAll quote se ops).toSignedEntity role)
      (sl ++ ops.flatMap (givenTo role))
  files : ∀ name f, (attachAll quote se ops).attachment name = .ok f ↔
    lastFile name ops = some f ∨ lastFile name ops = none ∧ se.attachment name = .ok f

/-- The condition for the law: what is attached to a list that can be read has annotations that can
be read; and for each name, the last operation attaches a file under it, or no operation does and
the base has none either. -/
structure LayersVisible (se : FiledEntity) (ops : List AttachOp) : Prop where
  /-- The annotations of what is attached can be read. -/
  annotated : ∀ role sl, Lists (Role.list se.toSignedEntity role) sl →
    ∀ sig ∈ ops.flatMap (givenTo role), Annotated sig
  /-- No file is hidden. -/
  files : ops = [] ∨ ∀ name, (∃ rest f, ops = rest ++ [.file name f]) ∨
    lastFile name ops = none ∧ ∀ f, se.attachment name ≠ .ok f

theorem files_layered_iff (rest : List AttachOp) (op : AttachOp) (name : String) :
    (∀ f, (attachAll quote se (rest ++ [op])).attachment name = .ok f ↔
        lastFile name (rest ++ [op]) = some f ∨
          lastFile name (rest ++ [op]) = none ∧ se.attachment name = .ok f) ↔
      (∃ before f, rest ++ [op] = before ++ [.file name f]) ∨
        lastFile name (rest ++ [op]) = none ∧ ∀ f, se.attachment name ≠ .ok f := by
  have split : lastFile name (rest ++ [op]) =
      (fileNamed name op).or (lastFile name rest) := by
    unfold lastFile
    rw [List.reverse_append, List.reverse_singleton, List.singleton_append, List.findSome?_cons]
    cases fileNamed name op <;> rfl
  have lastIs : (∃ before f, rest ++ [op] = before ++ [.file name f]) ↔
      ∃ f, op = .file name f := by
    simp only [List.append_singleton_inj, exists_and_left, exists_eq_left']
  rw [attachment_attachAll, lastIs, split]
  cases named : fileNamed name op with
  | some f => exact iff_of_true (by simp) (.inl ⟨f, fileNamed_eq_some.mp named⟩)
  | none =>
    have noFile : ¬∃ f, op = .file name f := by
      intro ⟨f, isFile⟩
      rw [fileNamed_eq_some.mpr isFile] at named
      cases named
    rw [Option.none_or, or_iff_right noFile]
    cases lastFile name rest with
    | none => simp
    | some f => simp

/-- **When attach operations are layered without interference.** The law holds exactly when no file
is hidden: one that was attached before another operation, or that the base has, is not found any
more. What is attached to the lists never interferes. -/
theorem layered_iff (quote : String → String) (se : FiledEntity) (ops : List AttachOp) :
    Layered quote se ops ↔ LayersVisible se ops := by
  have lists : (∀ role sl, Lists (Role.list se.toSignedEntity role) sl →
      Lists (Role.list (attachAll quote se ops).toSignedEntity role)
        (sl ++ ops.flatMap (givenTo role))) ↔
      ∀ role sl, Lists (Role.list se.toSignedEntity role) sl →
        ∀ sig ∈ ops.flatMap (givenTo role), Annotated sig := by
    apply forall_congr'
    intro role
    apply forall_congr'
    intro sl
    apply imp_congr_right
    intro listed
    rw [lists_attachAll]
    constructor
    · intro ⟨_, _, all, _⟩
      exact all
    · intro all
      exact ⟨sl, listed, all, rfl⟩
  have files : (∀ name f, (attachAll quote se ops).attachment name = .ok f ↔
        lastFile name ops = some f ∨ lastFile name ops = none ∧ se.attachment name = .ok f) ↔
      (ops = [] ∨ ∀ name, (∃ rest f, ops = rest ++ [.file name f]) ∨
        lastFile name ops = none ∧ ∀ f, se.attachment name ≠ .ok f) := by
    cases List.eq_nil_or_concat ops with
    | inl nothing =>
      rw [nothing]
      exact iff_of_true (fun name f => by simp [attachAll, lastFile]) (.inl rfl)
    | inr found =>
      have ⟨rest, op, opsIs⟩ := found
      rw [List.concat_eq_append] at opsIs
      have nonempty : ops ≠ [] := by
        rw [opsIs]
        simp
      rw [or_iff_right nonempty, opsIs]
      exact forall_congr' fun name => files_layered_iff rest op name
  constructor
  · intro layered
    exact ⟨lists.mp layered.lists, files.mp layered.files⟩
  · intro visible
    exact ⟨lists.mpr visible.annotated, files.mpr visible.files⟩

/-- A file. -/
def sampleFile : File := ⟨.ok "text/spdx", .ok [1]⟩

/-- An unsigned image with one file. -/
def imageWithFile : FiledEntity :=
  ⟨⟨.image, .ok ⟨"sha256", "00"⟩, .ok (.ok emptySignatures), .ok (.ok emptySignatures)⟩,
    fun name => if name = "sbom" then .ok sampleFile else .error (attachmentNotFound id name)⟩

/-- A signature that is attached after a file hides the file, and so does one attached to an image
which has the file: the wrapper looks in its own empty map only. -/
theorem attached_file_hidden :
    (attachAll id imageWithFile
        [.file "other" sampleFile, .signature sampleAttestation]).attachment "other" =
      .error (attachmentNotFound id "other") ∧
    ¬Layered id imageWithFile [.file "other" sampleFile, .signature sampleAttestation] ∧
    imageWithFile.attachment "sbom" = .ok sampleFile ∧
    ¬Layered id imageWithFile [.signature sampleAttestation] := by
  refine ⟨rfl, fun layered => ?_, rfl, fun layered => ?_⟩
  · cases (layered.files "other" sampleFile).mpr (.inl rfl)
  · cases (layered.files "sbom" sampleFile).mpr (.inr ⟨rfl, rfl⟩)

end Cosign.Verif
