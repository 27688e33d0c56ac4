import SignalService.Attachments.Resume
import SignalService.Attachments.Cipher

/-! # Attachments

`upload_attachment` of `sender.rs`: contents are padded, encrypted under a fresh key and
uploaded, and the pointer that comes back has the key, the length before the padding, and the
digest that the upload computed.
-/

namespace SignalService

open Effect Prog

variable {U : UrlSyntax}

structure AttachmentSpec where
  contentType : String
  length : Nat
  fileName : Option String := none
  preview : Option Bytes := none
  voiceNote : Option Bool := none
  borderless : Option Bool := none
  width : Option Nat := none
  height : Option Nat := none
  caption : Option String := none
  blurHash : Option String := none
  deriving DecidableEq, Repr

inductive AttachmentIdentifier where
  | cdnId (id : Nat)
  | cdnKey (key : String)
  deriving DecidableEq, Repr

structure AttachmentPointer where
  attachmentIdentifier : Option AttachmentIdentifier := none
  contentType : Option String := none
  key : Option Bytes := none
  size : Option Nat := none
  digest : Option Bytes := none
  fileName : Option String := none
  flags : Option Nat := none
  width : Option Nat := none
  height : Option Nat := none
  caption : Option String := none
  blurHash : Option String := none
  uploadTimestamp : Option Nat := none
  cdnNumber : Option Nat := none
  deriving DecidableEq, Repr

inductive AttachmentUploadError where
  | serviceError (error : ServiceError)
  | ioError
  deriving DecidableEq, Repr

/-- The pure functions of the dependencies that an attachment passes through. -/
structure AttachmentExternals (U : UrlSyntax) extends CdnExternals U where
  ciphers : AttachmentCiphers
  /-- `1.05f64.powf((len as f64).log(1.05).ceil()).floor() as usize`. -/
  bracket : Nat → Nat

variable (W : AttachmentExternals U)

def paddedLen (length : Nat) : Nat := max 541 (W.bracket length)

/-- Contents are padded with zeros, unless they are longer than the padded length. -/
def padContents (contents : Bytes) : Bytes :=
  if paddedLen W contents.length < contents.length then contents
  else contents ++ List.replicate (paddedLen W contents.length - contents.length) 0

theorem padContents_eq (contents : Bytes) :
    padContents W contents =
      contents ++ List.replicate (paddedLen W contents.length - contents.length) 0 := by
  unfold padContents
  split
  case isTrue longer =>
      rw [Nat.sub_eq_zero_of_le (Nat.le_of_lt longer), List.replicate_zero, List.append_nil]
  case isFalse => rfl

/-- A key and what was encrypted with it. -/
structure EncryptedAttachment where
  key : Bytes
  contents : Bytes
  deriving DecidableEq, Repr

/-- The first part of `upload_attachment`: contents are padded and encrypted. -/
def encryptAttachment (contents : Bytes) : HttpAsync U AttachmentUploadError EncryptedAttachment := do
  let key ← (.call (.fillBytes 64) fun key => pure key.val : HttpAsync U _ Bytes)
  let iv ← (.call (.fillBytes 16) fun iv => pure iv.val : HttpAsync U _ Bytes)
  let encrypted ← Prog.ofExit (encryptInPlace W.ciphers iv key (padContents W contents))
  return ⟨key, encrypted⟩

/-- `VoiceMessage` and `Borderless`. -/
def attachmentFlags (spec : AttachmentSpec) : Nat :=
  (if spec.voiceNote = some true then 1 else 0) ||| (if spec.borderless = some true then 2 else 0)

variable (X : Externals) (service : PushService U)

def uploadAttachment (spec : AttachmentSpec) (contents : Bytes) :
    HttpAsync U AttachmentUploadError AttachmentPointer := do
  let attachment ← encryptAttachment W contents
  let form ← (service.getAttachmentV4UploadAttributes W.toCdnExternals X).mapErr
    AttachmentUploadError.serviceError
  let resumableUrl ← (service.getAttachmentResumableUploadUrl W.toCdnExternals form).mapErr
    AttachmentUploadError.serviceError
  let digest ← (service.uploadAttachmentV4 W.toCdnExternals form.cdn resumableUrl
    attachment.contents.length form.headers ⟨attachment.contents, 0⟩).mapErr
      AttachmentUploadError.serviceError
  let now ← (.call .now fun now => pure now : HttpAsync U _ Nat)
  return {
    attachmentIdentifier := some (.cdnKey form.key)
    contentType := some spec.contentType
    key := some attachment.key
    size := some (contents.length % 2 ^ 32)
    digest := some digest.digest
    fileName := spec.fileName
    flags := some (attachmentFlags spec)
    width := spec.width
    height := spec.height
    caption := spec.caption
    blurHash := spec.blurHash
    uploadTimestamp := some now
    cdnNumber := some form.cdn }

variable {W X service} {σ : Type} {h : HttpEnv U σ} {s : σ} {spec : AttachmentSpec}
  {contents : Bytes} {pointer : AttachmentPointer}

/-- The upload behind a pointer. -/
structure UploadedAs (W : AttachmentExternals U) (service : PushService U) (h : HttpEnv U σ)
    (attachment : EncryptedAttachment) (pointer : AttachmentPointer) where
  form : AttachmentUploadForm U
  url : Url U
  state : σ
  digest : AttachmentDigest
  uploaded : ((service.uploadAttachmentV4 W.toCdnExternals form.cdn url attachment.contents.length
    form.headers ⟨attachment.contents, 0⟩).run h state).exit = .ret digest
  pointerKey : pointer.key = some attachment.key
  pointerDigest : pointer.digest = some digest.digest

theorem encryptAttachment_ret (lawful : W.ciphers.Lawful) {attachment : EncryptedAttachment}
    (encrypted : ((encryptAttachment W contents).run h s).exit = .ret attachment) :
    attachment.key.length = 64 ∧ ∃ iv : Bytes, iv.length = 16 ∧
      attachment.contents =
        sealedAttachment W.ciphers iv attachment.key (padContents W contents) := by
  unfold encryptAttachment at encrypted
  simp only [bind_eq, run_bind_exit] at encrypted
  obtain ⟨key, generated, encrypted⟩ := Exit.bind_eq_ret.mp encrypted
  obtain ⟨iv, generated', encrypted⟩ := Exit.bind_eq_ret.mp encrypted
  obtain ⟨blocks, sealing, encrypted⟩ := Exit.bind_eq_ret.mp encrypted
  have keyLength : key.length = 64 := by
    cases generated
    exact (h (.fillBytes 64) _).1.property
  have sixteen : iv.length = 16 := by
    cases generated'
    exact (h (.fillBytes 16) _).1.property
  rw [run_ofExit, encryptInPlace_eq lawful sixteen] at sealing
  cases sealing
  cases encrypted
  exact ⟨keyLength, iv, sixteen, rfl⟩

/-- A pointer has the key of what was uploaded, and the low half of the length. -/
theorem uploadAttachment_ret_size
    (returned : ((uploadAttachment W X service spec contents).run h s).exit = .ret pointer) :
    ∃ attachment, ((encryptAttachment W contents).run h s).exit = .ret attachment ∧
      Nonempty (UploadedAs W service h attachment pointer) ∧
      pointer.size = some (contents.length % 2 ^ 32) := by
  unfold uploadAttachment at returned
  simp only [bind_eq, run_bind_exit, run_mapErr] at returned
  obtain ⟨attachment, encrypted, returned⟩ := Exit.bind_eq_ret.mp returned
  obtain ⟨form, -, returned⟩ := Exit.bind_eq_ret.mp returned
  obtain ⟨url, -, returned⟩ := Exit.bind_eq_ret.mp returned
  obtain ⟨digest, uploaded, returned⟩ := Exit.bind_eq_ret.mp returned
  obtain ⟨now, -, returned⟩ := Exit.bind_eq_ret.mp returned
  cases returned
  exact ⟨attachment, encrypted,
    ⟨form, url, _, digest, Exit.mapErr_eq_ret.mp uploaded, rfl, rfl⟩, rfl⟩

theorem uploadAttachment_ret
    (returned : ((uploadAttachment W X service spec contents).run h s).exit = .ret pointer) :
    ∃ attachment, ((encryptAttachment W contents).run h s).exit = .ret attachment ∧
      Nonempty (UploadedAs W service h attachment pointer) := by
  obtain ⟨attachment, encrypted, uploaded, -⟩ := uploadAttachment_ret_size returned
  exact ⟨attachment, encrypted, uploaded⟩

/-! ## What is restored -/

/-- What a receiver makes of the uploaded bytes, with what is in the pointer. -/
def Restores (C : AttachmentCiphers) (pointer : AttachmentPointer) (uploaded contents : Bytes) :
    Prop :=
  ∃ key size padded, pointer.key = some key ∧ pointer.size = some size ∧
    decryptInPlace C key uploaded = (.ret (), padded) ∧ padded.take size = contents

theorem Restores.length_le {C : AttachmentCiphers} {uploaded : Bytes} {size : Nat}
    (restored : Restores C pointer uploaded contents) (sized : pointer.size = some size) :
    contents.length ≤ size := by
  obtain ⟨key, size', padded, -, sized', -, rfl⟩ := restored
  obtain rfl := Option.some.inj (sized.symm.trans sized')
  exact List.length_take_le _ _

/-- The size in the pointer is that of the contents below four gigabytes, whatever their padded
    length is. -/
theorem uploadAttachment_restores_iff (lawful : W.ciphers.Lawful)
    (returned : ((uploadAttachment W X service spec contents).run h s).exit = .ret pointer) :
    ∃ attachment, Nonempty (UploadedAs W service h attachment pointer) ∧
      (Restores W.ciphers pointer attachment.contents contents ↔ contents.length < 2 ^ 32) := by
  obtain ⟨attachment, encrypted, ⟨upload⟩, narrowed⟩ := uploadAttachment_ret_size returned
  obtain ⟨-, iv, sixteen, sealing⟩ := encryptAttachment_ret lawful encrypted
  have decrypted : decryptInPlace W.ciphers attachment.key (sealedAttachment W.ciphers iv
      attachment.key (padContents W contents)) = _ :=
    decryptInPlace_sealedAttachment lawful sixteen (padContents W contents)
  rw [← sealing] at decrypted
  refine ⟨attachment, ⟨upload⟩, ?_⟩
  constructor
  · intro restored
    have shorter := restored.length_le narrowed
    omega
  · intro small
    refine ⟨_, _, _, upload.pointerKey, narrowed, decrypted, ?_⟩
    rw [Nat.mod_eq_of_lt small, padContents_eq, List.take_left]

/-! ## The digest -/

section Digest

variable {V : CdnExternals U} {url : Url U} {fields : List (String × String)} {cdnId : Nat}
  {content : Bytes} {info : ResumeInfo} {digest : AttachmentDigest}

/-- The digest is that of the bytes that were read for the last request: everything, but for
    CDN3 what is left of an interrupted upload. -/
theorem uploadAttachmentV4_digest
    (reported : ((service.resumeInfo V cdnId url content.length fields).run h s).exit = .ret info)
    (returned : ((service.uploadAttachmentV4 V cdnId url content.length fields
      ⟨content, 0⟩).run h s).exit = .ret digest) :
    digest.digest = V.sha256 (if cdnId = 2 ∨ info.contentStart = content.length then content
      else content.drop info.contentStart) := by
  unfold PushService.resumeInfo at reported
  unfold PushService.uploadAttachmentV4 at returned
  by_cases second : cdnId = 2
  · simp only [second, if_true] at reported returned
    obtain ⟨-, -, -, -, -, whole⟩ := PushService.uploadToCdn2_run content reported
    rw [whole digest returned]
    simp [second]
  · simp only [second, if_false] at reported returned
    by_cases complete : info.contentStart = content.length
    · rw [PushService.uploadToCdn3_complete reported complete] at returned
      cases returned
      simp [complete]
    · obtain ⟨-, -, -, -, -, -, -, rest⟩ := PushService.uploadToCdn3_run content reported complete
      rw [rest digest returned]
      simp [second, complete]

/-- The digest of an upload is that of the whole content, unless CDN3 had a part of it, and
    it is the digest in the pointer. -/
theorem attachment_digest_iff :
    (∀ {s : σ} {cdnId : Nat} {url : Url U} {fields : List (String × String)} {content : Bytes}
      {info : ResumeInfo} {digest : AttachmentDigest},
      ((service.resumeInfo W.toCdnExternals cdnId url content.length fields).run h s).exit =
        .ret info →
      info.contentStart ≤ content.length →
      ((service.uploadAttachmentV4 W.toCdnExternals cdnId url content.length fields
        ⟨content, 0⟩).run h s).exit = .ret digest →
      (∀ k, 0 < k → k < content.length → W.sha256 (content.drop k) ≠ W.sha256 content) →
      (digest.digest = W.sha256 content ↔
        cdnId = 2 ∨ info.contentStart = 0 ∨ info.contentStart = content.length)) ∧
    ∀ {s : σ} {spec : AttachmentSpec} {contents : Bytes} {pointer : AttachmentPointer},
      ((uploadAttachment W X service spec contents).run h s).exit = .ret pointer →
      ∃ attachment, ((encryptAttachment W contents).run h s).exit = .ret attachment ∧
        Nonempty (UploadedAs W service h attachment pointer) := by
  refine ⟨?_, uploadAttachment_ret⟩
  intro s cdnId url fields content info digest reported inside returned distinct
  rw [uploadAttachmentV4_digest reported returned]
  by_cases whole : cdnId = 2 ∨ info.contentStart = content.length
  · rw [if_pos whole]
    refine iff_of_true rfl ?_
    exact whole.imp_right .inr
  · rw [if_neg whole]
    obtain ⟨third, partly⟩ := not_or.mp whole
    constructor
    · intro same
      right
      left
      by_contra started
      exact distinct _ (Nat.pos_of_ne_zero started) (lt_of_le_of_ne inside partly) same
    · rintro (second | start | complete)
      · exact absurd second third
      · rw [start, List.drop_zero]
      · exact absurd complete partly

end Digest

namespace Sample

def threeBytes : Bytes := [1, 2, 3]

def attachmentExternals : AttachmentExternals plainUrls where
  toCdnExternals := cdnExternals
  ciphers := openCiphers
  bracket length := length

def attachmentSpec : AttachmentSpec where
  contentType := "application/octet-stream"
  length := 0

/-- Contents that are encrypted with a key and an IV of zeros. -/
def zeroKeyed (contents : Bytes) : EncryptedAttachment where
  key := (zeros 64).val
  contents := sealedAttachment openCiphers (zeros 16).val (zeros 64).val
    (padContents attachmentExternals contents)

theorem encryptAttachment_zeroKeyed (contents : Bytes) :
    ((encryptAttachment attachmentExternals contents).run cdn3AtStart ()).exit =
      .ret (zeroKeyed contents) := by
  have sealing : (encryptInPlace attachmentExternals.ciphers (zeros 16).val (zeros 64).val
      (padContents attachmentExternals contents) : Exit AttachmentUploadError _) = _ :=
    encryptInPlace_eq openCiphers_lawful (zeros 16).property _
  unfold encryptAttachment
  change ((Prog.bind (Prog.ofExit (encryptInPlace attachmentExternals.ciphers (zeros 16).val
    (zeros 64).val (padContents attachmentExternals contents))) _).run cdn3AtStart ()).exit = _
  rw [run_bind_exit, run_ofExit, sealing]
  rfl

theorem uploadAttachmentV4_returns {content : Bytes} (nonempty : 0 ≠ content.length) :
    ∃ digest, ((cdnService.uploadAttachmentV4 attachmentExternals.toCdnExternals 3 plainUrl
      content.length [] ⟨content, 0⟩).run cdn3AtStart ()).exit = .ret digest := by
  have reported : ((cdnService.getAttachmentResumeInfoCdn3 attachmentExternals.toCdnExternals
      plainUrl []).run cdn3AtStart ()).exit = .ret ⟨none, 0⟩ := rfl
  unfold PushService.uploadAttachmentV4
  rw [if_neg (by decide)]
  unfold PushService.uploadToCdn3
  rw [bind_eq, run_bind_of_ret _ reported]
  dsimp only
  rw [if_neg nonempty]
  exact ⟨_, rfl⟩

/-- Contents of any length are accepted. -/
theorem uploadAttachment_returns (contents : Bytes) :
    ∃ pointer, ((uploadAttachment attachmentExternals reference cdnService attachmentSpec
      contents).run cdn3AtStart ()).exit = .ret pointer := by
  have nonempty : 0 ≠ (zeroKeyed contents).contents.length := by
    unfold zeroKeyed sealedAttachment
    simp only [List.length_append, openCiphers, List.length_replicate]
    omega
  have form : ((cdnService.getAttachmentV4UploadAttributes attachmentExternals.toCdnExternals
      reference).run cdn3AtStart ()).exit = .ret ⟨3, "key", [], signedUrl⟩ := rfl
  have url : ((cdnService.getAttachmentResumableUploadUrl attachmentExternals.toCdnExternals
      ⟨3, "key", [], signedUrl⟩).run cdn3AtStart ()).exit = .ret plainUrl := rfl
  obtain ⟨digest, uploaded⟩ := uploadAttachmentV4_returns nonempty
  unfold uploadAttachment
  simp only [bind_eq, run_bind_exit, encryptAttachment_zeroKeyed, run_mapErr, Exit.ret_bind, form,
    url, uploaded, Exit.mapErr_ret]
  exact ⟨_, rfl⟩

end Sample

open Sample

theorem three_bytes_restored :
    ∃ pointer attachment, ((uploadAttachment attachmentExternals reference cdnService
        attachmentSpec threeBytes).run cdn3AtStart ()).exit = .ret pointer ∧
      Nonempty (UploadedAs attachmentExternals cdnService cdn3AtStart attachment pointer) ∧
      Restores openCiphers pointer attachment.contents threeBytes := by
  obtain ⟨pointer, returned⟩ := uploadAttachment_returns threeBytes
  obtain ⟨attachment, uploaded, restored⟩ :=
    uploadAttachment_restores_iff openCiphers_lawful returned
  exact ⟨pointer, attachment, returned, uploaded, restored.mpr (by decide)⟩

/-- Four gigabytes are uploaded, and the pointer says that there are none. -/
theorem four_gigabytes_not_restored :
    ∃ pointer attachment, ((uploadAttachment attachmentExternals reference cdnService
        attachmentSpec (List.replicate (2 ^ 32) 0)).run cdn3AtStart ()).exit = .ret pointer ∧
      Nonempty (UploadedAs attachmentExternals cdnService cdn3AtStart attachment pointer) ∧
      pointer.size = some 0 ∧
      ¬ Restores openCiphers pointer attachment.contents (List.replicate (2 ^ 32) 0) := by
  obtain ⟨pointer, returned⟩ := uploadAttachment_returns (List.replicate (2 ^ 32) 0)
  obtain ⟨attachment, -, uploaded, narrowed⟩ := uploadAttachment_ret_size returned
  rw [List.length_replicate, Nat.mod_self] at narrowed
  refine ⟨pointer, attachment, returned, uploaded, narrowed, ?_⟩
  intro restored
  have shorter := restored.length_le narrowed
  rw [List.length_replicate] at shorter
  omega

theorem digest_of_upload_from_start :
    ∃ digest, ((cdnService.uploadAttachmentV4 attachmentExternals.toCdnExternals 3 plainUrl
        threeBytes.length [] ⟨threeBytes, 0⟩).run cdn3AtStart ()).exit = .ret digest ∧
      (digest.digest = attachmentExternals.sha256 threeBytes ↔
        3 = 2 ∨ 0 = 0 ∨ 0 = threeBytes.length) := by
  have reported : ((cdnService.resumeInfo attachmentExternals.toCdnExternals 3 plainUrl
      threeBytes.length []).run cdn3AtStart ()).exit = .ret ⟨none, 0⟩ := rfl
  have returned : ((cdnService.uploadAttachmentV4 attachmentExternals.toCdnExternals 3 plainUrl
      threeBytes.length [] ⟨threeBytes, 0⟩).run cdn3AtStart ()).exit =
        .ret ⟨attachmentExternals.sha256 threeBytes, none, 0⟩ := rfl
  have distinct : ∀ k < threeBytes.length, 0 < k → attachmentExternals.sha256 (threeBytes.drop k) ≠
      attachmentExternals.sha256 threeBytes := by
    decide +kernel
  refine ⟨_, returned, ?_⟩
  apply (attachment_digest_iff (X := reference)).1 reported (Nat.zero_le _) returned
  intro k positive inside
  exact distinct k inside positive

/-- Of three bytes CDN3 has two, and the digest that comes back is that of the third. -/
theorem digest_of_interrupted_upload :
    ((cdnService.resumeInfo cdnExternals 3 plainUrl 3 []).run cdn3AtTwo ()).exit = .ret ⟨none, 2⟩ ∧
      ((cdnService.uploadAttachmentV4 cdnExternals 3 plainUrl 3 [] ⟨[1, 2, 3], 0⟩).run cdn3AtTwo
        ()).exit = .ret ⟨sha256 [3], none, 0⟩ ∧
      sha256 [3] ≠ sha256 [1, 2, 3] := by
  refine ⟨rfl, rfl, ?_⟩
  decide +kernel

end SignalService
