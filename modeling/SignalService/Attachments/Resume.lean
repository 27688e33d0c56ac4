import SignalService.Attachments.Cdn
import SignalService.Reference

/-! # Going on with an upload that was interrupted

The CDN is asked how much it has, and is then sent one more request. What is in that request
is put together in several places: the body by the reader, the declared range from the answer
or from the body, and the address once more from the URL.
-/

namespace SignalService

open Effect Prog

variable {U : UrlSyntax}

/-! ## What is read -/

namespace DigestingReader

/-- A read takes from the front of what remains, and gives the digest what it took. -/
theorem read_remaining (reader : DigestingReader) (room : Nat) :
    (reader.read room).1 ++ (reader.read room).2.inner.remaining = reader.inner.remaining ∧
      (reader.read room).2.digested = reader.digested ++ (reader.read room).1 := by
  simp only [read, Cursor.read, Cursor.remaining, and_true]
  rw [← List.drop_drop]
  exact (List.prefix_append_drop (List.take_prefix _ _)).symm

/-- Only at the end a read brings nothing. -/
theorem remaining_of_read_nil {reader : DigestingReader} {room : Nat}
    (nothing : (reader.read (room + 1)).1 = []) : reader.inner.remaining = [] := by
  simpa [read, Cursor.read, Cursor.remaining] using nothing

/-- However large the reads are, everything that remains is read and digested. -/
theorem readToEndInto_spec (spareCapacity : Nat → Nat) {fuel : Nat} {reader : DigestingReader}
    (enough : reader.inner.remaining.length < fuel) (buf : Bytes) :
    (readToEndInto spareCapacity fuel reader buf).1 = buf ++ reader.inner.remaining ∧
      (readToEndInto spareCapacity fuel reader buf).2.digested =
        reader.digested ++ reader.inner.remaining := by
  induction fuel generalizing reader buf with
  | zero => omega
  | succ fuel ih =>
      obtain ⟨split, digested⟩ := reader.read_remaining (spareCapacity buf.length + 1)
      unfold readToEndInto
      cases chunk : reader.read (spareCapacity buf.length + 1) with
      | mk taken next =>
          rw [chunk] at split digested
          dsimp only at split digested
          cases taken with
          | nil =>
              have done : reader.inner.remaining = [] := remaining_of_read_nil (by rw [chunk])
              simp [digested, done]
          | cons b taken =>
              have fewer : next.inner.remaining.length < fuel := by
                rw [← split] at enough
                simp only [List.length_append, List.length_cons] at enough
                omega
              obtain ⟨read, hashed⟩ := ih fewer (buf ++ b :: taken)
              simp only [read, hashed, digested, List.append_assoc, split, and_self]

theorem readToEnd_spec (spareCapacity : Nat → Nat) (reader : DigestingReader) :
    (reader.readToEnd spareCapacity).1 = reader.inner.remaining ∧
      (reader.readToEnd spareCapacity).2.digested = reader.digested ++ reader.inner.remaining := by
  unfold readToEnd
  have spec := readToEndInto_spec spareCapacity (Nat.lt_succ_self reader.inner.remaining.length) []
  simpa using spec

/-- What is read and digested from an offset on. -/
theorem readToEnd_seek (spareCapacity : Nat → Nat) (content : Bytes) (start : Nat) :
    ((seek ⟨⟨content, 0⟩, []⟩ start).readToEnd spareCapacity).1 = content.drop start ∧
      ((seek ⟨⟨content, 0⟩, []⟩ start).readToEnd spareCapacity).2.digested =
        content.drop start :=
  readToEnd_spec spareCapacity _

theorem readToEnd_start (spareCapacity : Nat → Nat) (content : Bytes) :
    (readToEnd spareCapacity ⟨⟨content, 0⟩, []⟩).1 = content ∧
      (readToEnd spareCapacity ⟨⟨content, 0⟩, []⟩).2.digested = content :=
  readToEnd_spec spareCapacity _

end DigestingReader

/-! ## What is sent -/

/-- The text of a number can be read again. -/
theorem toString_injective {m n : Nat} (same : toString m = toString n) : m = n := by
  have digits : Nat.toDigits 10 m = Nat.toDigits 10 n := by
    rw [← Nat.toList_repr, ← Nat.toList_repr]
    exact congrArg String.toList same
  rw [← Nat.ofDigitChars_ten_toDigits (n := m), digits, Nat.ofDigitChars_ten_toDigits]

theorem headerValue_eq_some {value text : String} (valid : headerValue value = some text) :
    text = value := by
  unfold headerValue at valid
  split at valid
  · cases valid
    rfl
  · cases valid

namespace PushService

variable {W : CdnExternals U} {service : PushService U} {σ : Type} {h : HttpEnv U σ} {s : σ}
  {url : Url U} {content : Bytes} {contentLength : Nat} {info : ResumeInfo}

theorem sendOk_run (request : HttpRequest U) (s : σ) :
    (sendOk (some request)).run h s =
      ⟨(Exit.ofExcept (h (.send request) s).1).bind fun response =>
        .ofExcept response.errorForStatus, (h (.send request) s).2,
        [⟨.send request, (h (.send request) s).1⟩]⟩ := by
  unfold sendOk RequestBuilder.send
  simp only [bind_eq, call_bind, run_call]
  cases (h (.send request) s).1 <;> rfl

/-- A request to a CDN goes to the CDN's own address, with a path and a query put in. -/
theorem request_cdnAt (method : Method) (cdnId : Nat) (path : String) (query : Option String) :
    service.request W.toUrlParsers method (.cdnAt cdnId path query) .unidentified =
      match service.cfg.cdnUrls.lookup cdnId with
      | none => .error (.unknownCdnVersion cdnId)
      | some base => .ok (some ⟨method, (base.setPath path).setQuery query, none, [], none⟩) := by
  simp only [request, Endpoint.intoUrl]
  cases service.cfg.cdnUrls.lookup cdnId <;> rfl

/-! ### CDN2 -/

/-- The question to CDN2 how much it has. -/
def askCdn2 (base url : Url U) (contentLength : Nat) : HttpRequest U where
  method := .put
  url := (base.setPath url.path).setQuery url.query
  basicAuth := none
  headers := [(Header.contentRange, s!"bytes */{contentLength}")]

/-- What CDN2 may have answered to be understood. -/
inductive ResumeInfo.OfCdn2 (contentLength : Nat) : ResumeInfo → Prop where
  | complete : OfCdn2 contentLength ⟨none, contentLength⟩
  | interrupted {offset : Nat} (nonempty : contentLength ≠ 0) : OfCdn2 contentLength
      ⟨some s!"bytes {offset}-{contentLength - 1}/{contentLength}", offset⟩

theorem readResumeInfoCdn2_ret {response : HttpResponse}
    (read : readResumeInfoCdn2 contentLength response = .ret info) :
    ResumeInfo.OfCdn2 contentLength info := by
  unfold readResumeInfoCdn2 at read
  split at read
  · cases read
    exact .complete
  split at read
  · simp only [Exit.bind_eq] at read
    obtain ⟨offset, -, read⟩ := Exit.bind_eq_ret.mp read
    split at read
    case isTrue empty => cases read
    case isFalse nonempty =>
        cases read
        exact .interrupted nonempty
  · cases read

theorem getAttachmentResumeInfoCdn2_ret
    (reported : ((service.getAttachmentResumeInfoCdn2 W url contentLength).run h s).exit =
      .ret info) :
    ResumeInfo.OfCdn2 contentLength info ∧
      ∃ base answer, service.cfg.cdnUrls.lookup 2 = some base ∧
        ((service.getAttachmentResumeInfoCdn2 W url contentLength).run h s).log =
          [⟨.send (askCdn2 base url contentLength), answer⟩] := by
  unfold getAttachmentResumeInfoCdn2 Endpoint.cdnUrl at reported ⊢
  rw [request_cdnAt] at reported ⊢
  cases found : service.cfg.cdnUrls.lookup 2 with
  | none => simp [found, Prog.ofExcept] at reported
  | some base =>
      simp only [found, Prog.ofExcept, Exit.ofExcept_ok, bind_eq, ret_bind] at reported ⊢
      cases valid : headerValue s!"bytes */{contentLength}" with
      | none =>
          rw [valid] at reported
          cases reported
      | some text =>
          cases headerValue_eq_some valid
          simp only [valid, RequestBuilder.header_some, Prog.ofExit, run_bind_done, sendOk_run]
            at reported ⊢
          obtain ⟨response, -, read⟩ := Exit.bind_eq_ret.mp reported
          exact ⟨readResumeInfoCdn2_ret read, base, _, rfl, rfl⟩

/-- The request that goes on with an upload to CDN2: it has the whole content. -/
def resumeCdn2 (base url : Url U) (info : ResumeInfo) (content : Bytes) : HttpRequest U where
  method := .put
  url := (base.setPath url.path).setQuery url.query
  basicAuth := none
  headers := info.contentRange.toList.map (Header.contentRange, ·)
  body := some content

theorem toDigits_visible (n : Nat) : ((Nat.toDigits 10 n).all fun c =>
    (32 ≤ c.toNat && c.toNat ≠ 127) || c = '\t') = true := by
  rw [List.all_eq_true]
  intro c member
  have isDigit := Nat.isDigit_of_mem_toDigits (by decide) (by decide) member
  simp only [Char.isDigit, Bool.and_eq_true, decide_eq_true_eq] at isDigit
  have low : 48 ≤ c.toNat := isDigit.1
  have high : c.toNat ≤ 57 := isDigit.2
  simp only [Bool.or_eq_true, Bool.and_eq_true, decide_eq_true_eq]
  omega

/-- The characters of a `Content-Range` can stand in a header. -/
theorem headerValue_contentRange (first last total : Nat) :
    headerValue s!"bytes {first}-{last}/{total}" = some s!"bytes {first}-{last}/{total}" := by
  unfold headerValue
  rw [if_pos]
  simp only [String.toList_append, toString, Nat.toList_repr, List.all_append, toDigits_visible,
    Bool.and_true]
  decide

theorem resumeCdn2_builder (base url : Url U) {info : ResumeInfo} (content : Bytes)
    (answered : ResumeInfo.OfCdn2 contentLength info) :
    (RequestBuilder.contentRange
      (some ⟨.put, (base.setPath url.path).setQuery url.query, none, [], none⟩)
      info.contentRange).body content = some (resumeCdn2 base url info content) := by
  cases answered with
  | complete => rfl
  | interrupted nonempty =>
      simp only [RequestBuilder.contentRange, headerValue_contentRange]
      rfl

/-- After the question CDN2 is sent one request, and the digest is that of its body. -/
theorem uploadToCdn2_run (content : Bytes)
    (reported : ((service.getAttachmentResumeInfoCdn2 W url contentLength).run h s).exit =
      .ret info) :
    ∃ base asked answer, service.cfg.cdnUrls.lookup 2 = some base ∧
      ((service.uploadToCdn2 W url contentLength ⟨content, 0⟩).run h s).log =
        [⟨.send (askCdn2 base url contentLength), asked⟩,
          ⟨.send (resumeCdn2 base url info content), answer⟩] ∧
      ∀ digest, ((service.uploadToCdn2 W url contentLength ⟨content, 0⟩).run h s).exit =
        .ret digest → digest = ⟨W.sha256 content, none, 0⟩ := by
  obtain ⟨answered, base, answer, found, asked⟩ := getAttachmentResumeInfoCdn2_ret reported
  obtain ⟨read, digested⟩ := DigestingReader.readToEnd_start W.spareCapacity content
  unfold uploadToCdn2
  rw [bind_eq, run_bind_of_ret h reported, asked]
  simp only [Endpoint.cdnUrl, request_cdnAt, found, Prog.ofExcept, Exit.ofExcept_ok, bind_eq,
    ret_bind, pure_eq]
  rw [read, resumeCdn2_builder base url content answered, run_bind_done, sendOk_run]
  refine ⟨base, answer, _, rfl, rfl, ?_⟩
  intro digest returned
  obtain ⟨response, -, returned⟩ := Exit.bind_eq_ret.mp returned
  cases returned
  simp only [attachmentDigest, DigestingReader.finalize, digested]

/-! ### CDN3 -/

variable {fields : List (String × String)}

@[simp] theorem headerName_tusResumable : headerName "Tus-Resumable" = some Header.tusResumable := by
  decide +kernel

@[simp] theorem headerName_uploadOffset : headerName "Upload-Offset" = some Header.uploadOffset := by
  decide +kernel

@[simp] theorem headerName_uploadLength : headerName "Upload-Length" = some Header.uploadLength := by
  decide +kernel

@[simp] theorem headerValue_version : headerValue "1.0.0" = some "1.0.0" := by
  decide +kernel

@[simp] theorem headerValue_octetStream :
    headerValue "application/offset+octet-stream" = some "application/offset+octet-stream" := by
  decide +kernel

/-- The question to CDN3 how much it has. -/
def askCdn3 (base url : Url U) (read : List (HeaderName × String)) : HttpRequest U where
  method := .head
  url := (base.setPath url.path).setQuery url.query
  basicAuth := none
  headers := (Header.tusResumable, "1.0.0") :: read

/-- The request that goes on with an upload to CDN3: its length is that of its body, and it
    has the path of the URL only. -/
def resumeCdn3 (base url : Url U) (read : List (HeaderName × String)) (start : Nat)
    (content : Bytes) : HttpRequest U where
  method := .patch
  url := (base.setPath url.path).setQuery none
  basicAuth := none
  headers := read ++ [(Header.tusResumable, "1.0.0"), (Header.uploadOffset, toString start),
    (Header.uploadLength, toString (content.drop start).length),
    (Header.contentType, "application/offset+octet-stream")]
  body := some (content.drop start)

theorem getAttachmentResumeInfoCdn3_ret
    (reported : ((service.getAttachmentResumeInfoCdn3 W url fields).run h s).exit = .ret info) :
    ∃ base read answer, service.cfg.cdnUrls.lookup 3 = some base ∧
      readHeaders fields = some read ∧
      ((service.getAttachmentResumeInfoCdn3 W url fields).run h s).log =
        [⟨.send (askCdn3 base url read), answer⟩] := by
  unfold getAttachmentResumeInfoCdn3 Endpoint.cdnUrl at reported ⊢
  rw [request_cdnAt] at reported ⊢
  cases found : service.cfg.cdnUrls.lookup 3 with
  | none => simp [found, Prog.ofExcept] at reported
  | some base =>
      simp only [found, Prog.ofExcept, Exit.ofExcept_ok, bind_eq, ret_bind, headerName_tusResumable,
        headerValue_version, RequestBuilder.header_some, RequestBuilder.headers_some]
        at reported ⊢
      cases valid : readHeaders fields with
      | none =>
          rw [valid] at reported
          cases reported
      | some read =>
          simp only [Option.map_some, Prog.ofExit, run_bind_done, sendOk_run]
          exact ⟨base, read, _, rfl, rfl, rfl⟩

/-- CDN3 is sent nothing more once it has everything. -/
theorem uploadToCdn3_complete
    (reported : ((service.getAttachmentResumeInfoCdn3 W url fields).run h s).exit = .ret info)
    (complete : info.contentStart = contentLength) :
    ((service.uploadToCdn3 W url fields contentLength ⟨content, 0⟩).run h s).exit =
      .ret ⟨W.sha256 content, none, 0⟩ := by
  obtain ⟨-, digested⟩ := DigestingReader.readToEnd_start W.spareCapacity content
  unfold uploadToCdn3
  rw [bind_eq, run_bind_of_ret h reported]
  simp only [complete, if_true, pure_eq, run_done, attachmentDigest, DigestingReader.finalize,
    digested]

/-- After the question CDN3 is sent one request, and the digest is that of its body. -/
theorem uploadToCdn3_run (content : Bytes)
    (reported : ((service.getAttachmentResumeInfoCdn3 W url fields).run h s).exit = .ret info)
    (interrupted : info.contentStart ≠ contentLength) :
    ∃ base read asked answer, service.cfg.cdnUrls.lookup 3 = some base ∧
      readHeaders fields = some read ∧
      ((service.uploadToCdn3 W url fields contentLength ⟨content, 0⟩).run h s).log =
        [⟨.send (askCdn3 base url read), asked⟩,
          ⟨.send (resumeCdn3 base url read info.contentStart content), answer⟩] ∧
      ∀ digest, ((service.uploadToCdn3 W url fields contentLength ⟨content, 0⟩).run h s).exit =
        .ret digest → digest = ⟨W.sha256 (content.drop info.contentStart), none, 0⟩ := by
  obtain ⟨base, read, answer, found, valid, asked⟩ := getAttachmentResumeInfoCdn3_ret reported
  obtain ⟨body, digested⟩ := DigestingReader.readToEnd_seek W.spareCapacity content
    info.contentStart
  unfold uploadToCdn3
  rw [bind_eq, run_bind_of_ret h reported, asked]
  simp only [interrupted, if_false, Endpoint.cdn, request_cdnAt, found, Prog.ofExcept,
    Exit.ofExcept_ok, bind_eq, ret_bind, pure_eq, RequestBuilder.headers_some, valid,
    Option.map_some, headerName_tusResumable, headerValue_version, headerName_uploadOffset,
    headerName_uploadLength, headerValue_octetStream, RequestBuilder.header_some,
    RequestBuilder.body_some, body, run_bind_done, sendOk_run, List.append_assoc, List.nil_append,
    List.cons_append]
  refine ⟨base, read, answer, _, rfl, rfl, rfl, ?_⟩
  intro digest returned
  obtain ⟨response, -, returned⟩ := Exit.bind_eq_ret.mp returned
  cases returned
  simp only [attachmentDigest, DigestingReader.finalize, digested]

/-! ## Requests that go on where the upload stopped -/

/-- How much the CDN says it has. -/
def resumeInfo (W : CdnExternals U) (service : PushService U) (cdnId : Nat) (url : Url U)
    (contentLength : Nat) (fields : List (String × String)) :
    HttpAsync U ServiceError ResumeInfo :=
  if cdnId = 2 then service.getAttachmentResumeInfoCdn2 W url contentLength
  else service.getAttachmentResumeInfoCdn3 W url fields

/-- The request says where it goes on, and how long the whole is: the only value under each
    name says so. -/
def Declares (cdnId : Nat) (request : HttpRequest U) (offset total : Nat) : Prop :=
  if cdnId = 2 then
    request.values Header.contentRange = [s!"bytes {offset}-{total - 1}/{total}"]
  else
    request.values Header.uploadOffset = [toString offset] ∧
      request.values Header.uploadLength = [toString total]

structure Resumes (cdnId : Nat) (asked request : HttpRequest U) (content : Bytes) (offset : Nat) :
    Prop where
  body : request.body = some (content.drop offset)
  declares : Declares cdnId request offset content.length
  path : request.url.path = asked.url.path
  query : request.url.query = asked.url.query

theorem drop_eq_self_iff {offset : Nat} (inside : offset < content.length) :
    content.drop offset = content ↔ offset = 0 := by
  constructor
  · intro same
    have lengths := congrArg List.length same
    rw [List.length_drop] at lengths
    omega
  · rintro rfl
    rfl

theorem resumeCdn2_resumes_iff (base url : Url U) (answered : ResumeInfo.OfCdn2 content.length info)
    (inside : info.contentStart < content.length) :
    Resumes 2 (askCdn2 base url content.length) (resumeCdn2 base url info content) content
      info.contentStart ↔ info.contentStart = 0 := by
  constructor
  · intro resumes
    have body : some content = some (content.drop info.contentStart) := resumes.body
    exact (drop_eq_self_iff inside).mp (Option.some.inj body).symm
  · intro start
    refine ⟨?_, ?_, rfl, rfl⟩
    · rw [start]
      rfl
    · cases answered with
      | complete => exact absurd inside (lt_irrefl _)
      | interrupted nonempty => simp [Declares, HttpRequest.values, resumeCdn2]

theorem resumeCdn3_resumes_iff {cdnId : Nat} (other : cdnId ≠ 2) (base url : Url U)
    {read : List (HeaderName × String)} (valid : readHeaders fields = some read) {start : Nat}
    (inside : start < content.length) :
    Resumes cdnId (askCdn3 base url read) (resumeCdn3 base url read start content) content start ↔
      start = 0 ∧ url.query = none ∧
        ∀ field ∈ fields, headerName field.1 ≠ some Header.uploadOffset ∧
          headerName field.1 ≠ some Header.uploadLength := by
  have offsets : (resumeCdn3 base url read start content).values Header.uploadOffset =
      (read.filter fun field => field.1 = Header.uploadOffset).map Prod.snd ++
        [toString start] := by
    simp only [HttpRequest.values, resumeCdn3, List.filter_append, List.map_append]
    rfl
  have lengths : (resumeCdn3 base url read start content).values Header.uploadLength =
      (read.filter fun field => field.1 = Header.uploadLength).map Prod.snd ++
        [toString (content.length - start)] := by
    simp only [HttpRequest.values, resumeCdn3, List.filter_append, List.map_append,
      List.length_drop]
    rfl
  have declares : Declares cdnId (resumeCdn3 base url read start content) start content.length ↔
      ((∀ field ∈ fields, headerName field.1 ≠ some Header.uploadOffset) ∧
        toString start = toString start) ∧
      ((∀ field ∈ fields, headerName field.1 ≠ some Header.uploadLength) ∧
        toString (content.length - start) = toString content.length) := by
    rw [Declares, if_neg other, offsets, lengths, readHeaders_values_iff valid,
      readHeaders_values_iff valid]
  constructor
  · rintro ⟨-, declared, -, query⟩
    obtain ⟨⟨noOffset, -⟩, noLength, same⟩ := declares.mp declared
    have start_eq : start = 0 := by
      have := toString_injective same
      omega
    have noQuery : none = url.query := query.trans (Url.setQuery_query _ url)
    exact ⟨start_eq, noQuery.symm, fun field member =>
      ⟨noOffset field member, noLength field member⟩⟩
  · rintro ⟨rfl, noQuery, unnamed⟩
    refine ⟨rfl, declares.mpr ⟨⟨?_, rfl⟩, ?_, rfl⟩, rfl, ?_⟩
    · exact fun field member => (unnamed field member).1
    · exact fun field member => (unnamed field member).2
    · exact noQuery.symm.trans (Url.setQuery_query _ url).symm

/-- The log has two requests, so that what is said of it is said of these. -/
theorem sent_resumes_iff {log : List (Event (HttpCall U) HttpAnswer)} {ask request : HttpRequest U}
    {asked answer : Except ServiceError HttpResponse} {cdnId offset : Nat}
    (sent : log = [⟨.send ask, asked⟩, ⟨.send request, answer⟩]) (path : ask.url.path = url.path)
    (query : ask.url.query = url.query) :
    (∃ ask asked request answer, log = [⟨.send ask, asked⟩, ⟨.send request, answer⟩] ∧
      ask.url.path = url.path ∧ ask.url.query = url.query ∧
      Resumes cdnId ask request content offset) ↔ Resumes cdnId ask request content offset := by
  constructor
  · rintro ⟨ask', asked', request', answer', same, -, -, resumes⟩
    rw [sent] at same
    cases same
    exact resumes
  · intro resumes
    exact ⟨ask, asked, request, answer, sent, path, query, resumes⟩

/-- The request that goes on with an interrupted upload goes on where it stopped, exactly
    when it has to start over: CDN2 is sent the whole content whatever it has, and CDN3 is
    told the length of the rest for that of the whole. For CDN3 the query of the URL is left
    out too, and the headers of the upload form come before those of the request. -/
theorem uploadAttachmentV4_resumes_iff {cdnId : Nat} (content : Bytes)
    (reported : ((service.resumeInfo W cdnId url content.length fields).run h s).exit = .ret info)
    (interrupted : info.contentStart < content.length) :
    (∃ ask asked request answer,
      ((service.uploadAttachmentV4 W cdnId url content.length fields ⟨content, 0⟩).run h s).log =
        [⟨.send ask, asked⟩, ⟨.send request, answer⟩] ∧
      ask.url.path = url.path ∧ ask.url.query = url.query ∧
      Resumes cdnId ask request content info.contentStart) ↔
    info.contentStart = 0 ∧ (cdnId ≠ 2 → url.query = none ∧
      ∀ field ∈ fields, headerName field.1 ≠ some Header.uploadOffset ∧
        headerName field.1 ≠ some Header.uploadLength) := by
  unfold resumeInfo at reported
  unfold uploadAttachmentV4
  by_cases second : cdnId = 2
  · subst second
    simp only [if_true] at reported ⊢
    obtain ⟨answered, -⟩ := getAttachmentResumeInfoCdn2_ret reported
    obtain ⟨base, asked, answer, -, sent, -⟩ :=
      uploadToCdn2_run content reported
    rw [sent_resumes_iff sent (Url.setPath_path base url) (Url.setQuery_query _ url),
      resumeCdn2_resumes_iff base url answered interrupted]
    simp
  · simp only [second, if_false] at reported ⊢
    obtain ⟨base, read, asked, answer, -, valid, sent, -⟩ :=
      uploadToCdn3_run content reported (Nat.ne_of_lt interrupted)
    rw [sent_resumes_iff sent (Url.setPath_path base url) (Url.setQuery_query _ url),
      resumeCdn3_resumes_iff second base url valid interrupted]
    simp [second]

/-! ### What CDN2 says it has -/

/-- The last byte that the `Range` of a response names, if it names one. -/
def lastByte? (response : HttpResponse) : Option Nat := do
  let text ← headerText (← response.header Header.range)
  parseU64 (← (text.splitOn '-')[1]?)

/-- An upload is complete, or goes on with a range that is not empty. -/
structure ResumeInfo.WellFormed (contentLength : Nat) (info : ResumeInfo) : Prop where
  start_le : info.contentStart ≤ contentLength
  complete : info.contentRange = none ↔ info.contentStart = contentLength
  range : ∀ range, info.contentRange = some range → info.contentStart < contentLength ∧
    range = s!"bytes {info.contentStart}-{contentLength - 1}/{contentLength}"

theorem readOffsetCdn2_named {response : HttpResponse} {last : Nat}
    (named : lastByte? response = some last) :
    readOffsetCdn2 (response.header Header.range) =
      if last + 1 < 2 ^ 64 then .ret (last + 1) else .panic "attempt to add with overflow" := by
  simp only [lastByte?, Option.bind_eq_bind, Option.bind_eq_some_iff] at named
  obtain ⟨range, given, text, read, part, second, number⟩ := named
  simp [readOffsetCdn2, given, read, second, number]

theorem readOffsetCdn2_unnamed {response : HttpResponse} (unnamed : lastByte? response = none) :
    readOffsetCdn2 (response.header Header.range) = .ret 0 ∨
      ∃ e, readOffsetCdn2 (response.header Header.range) = .throw e := by
  unfold lastByte? at unnamed
  cases given : response.header Header.range with
  | none => exact .inl rfl
  | some range =>
      right
      cases read : headerText range with
      | none => simp [readOffsetCdn2, read, invalidFrame]
      | some text =>
          cases second : (text.splitOn '-')[1]? with
          | none => simp [readOffsetCdn2, read, second, invalidFrame]
          | some part =>
              have number : parseU64 part = none := by simpa [given, read, second] using unnamed
              simp [readOffsetCdn2, read, second, number, invalidFrame]

theorem wellFormed_rest {offset : Nat} : ResumeInfo.WellFormed contentLength
    ⟨some s!"bytes {offset}-{contentLength - 1}/{contentLength}", offset⟩ ↔
      offset < contentLength := by
  constructor
  · intro sound
    exact (sound.range _ rfl).1
  · intro inside
    refine ⟨inside.le, ?_, ?_⟩
    · simp [Nat.ne_of_lt inside]
    · rintro range ⟨⟩
      exact ⟨inside, rfl⟩

theorem readResumeInfoCdn2_sound_iff {response : HttpResponse} (positive : 1 ≤ contentLength)
    (fits : contentLength < 2 ^ 64) :
    (¬ (readResumeInfoCdn2 contentLength response).Panics ∧
      ∀ info, readResumeInfoCdn2 contentLength response = .ret info →
        ResumeInfo.WellFormed contentLength info) ↔
    (response.status = 308 → ∀ last, lastByte? response = some last → last + 1 < contentLength) := by
  unfold readResumeInfoCdn2
  split
  case isTrue success =>
    have other : response.status ≠ 308 := by
      unfold HttpResponse.IsSuccess at success
      omega
    refine iff_of_true ⟨id, ?_⟩ fun redirect => absurd redirect other
    rintro info ⟨⟩
    exact ⟨le_rfl, by simp, by simp⟩
  case isFalse =>
    split
    case isFalse other =>
      exact iff_of_true ⟨id, nofun⟩ fun redirect => absurd redirect other
    case isTrue redirect =>
      have nonempty : contentLength ≠ 0 := by omega
      simp only [nonempty, if_false, redirect, true_implies]
      cases named : lastByte? response with
      | none =>
          refine iff_of_true ?_ (by simp)
          obtain start | ⟨e, refused⟩ := readOffsetCdn2_unnamed named
          · rw [start]
            refine ⟨id, ?_⟩
            rintro info ⟨⟩
            exact wellFormed_rest.mpr (by omega)
          · rw [refused]
            exact ⟨id, nofun⟩
      | some last =>
          rw [readOffsetCdn2_named named]
          have only : (∀ other, some last = some other → other + 1 < contentLength) ↔
              last + 1 < contentLength := by simp
          rw [only]
          by_cases held : last + 1 < 2 ^ 64
          · rw [if_pos held, ← wellFormed_rest]
            constructor
            · intro sound
              exact sound.2 _ rfl
            · intro sound
              refine ⟨id, ?_⟩
              rintro info ⟨⟩
              exact sound
          · rw [if_neg held]
            apply iff_of_false
            · intro sound
              exact sound.1 trivial
            · omega

/-- CDN2's answer is believed, whatever range it names. -/
theorem getAttachmentResumeInfoCdn2_sound_iff {base : Url U} {response : HttpResponse}
    (configured : service.cfg.cdnUrls.lookup 2 = some base)
    (answered : (h (.send (askCdn2 base url contentLength)) s).1 = .ok response)
    (positive : 1 ≤ contentLength) (fits : contentLength < 2 ^ 64) :
    (¬ ((service.getAttachmentResumeInfoCdn2 W url contentLength).run h s).exit.Panics ∧
      ∀ info, ((service.getAttachmentResumeInfoCdn2 W url contentLength).run h s).exit =
        .ret info → ResumeInfo.WellFormed contentLength info) ↔
    (response.status = 308 → ∀ last, lastByte? response = some last → last + 1 < contentLength) := by
  have question : headerValue s!"bytes */{contentLength}" = some s!"bytes */{contentLength}" := by
    unfold headerValue
    rw [if_pos]
    simp only [String.toList_append, toString, Nat.toList_repr, List.all_append, toDigits_visible,
      Bool.and_true]
    decide
  have ran : ((service.getAttachmentResumeInfoCdn2 W url contentLength).run h s).exit =
      (Exit.ofExcept response.errorForStatus).bind (readResumeInfoCdn2 contentLength) := by
    unfold getAttachmentResumeInfoCdn2 Endpoint.cdnUrl
    rw [request_cdnAt]
    simp only [configured, Prog.ofExcept, Exit.ofExcept_ok, bind_eq, ret_bind, question,
      RequestBuilder.header_some, Prog.ofExit, run_bind_done, sendOk_run]
    change ((Exit.ofExcept (h (.send (askCdn2 base url contentLength)) s).1).bind _).bind _ = _
    rw [answered]
    rfl
  rw [ran]
  unfold HttpResponse.errorForStatus
  split
  case isTrue failed =>
    refine iff_of_true ⟨id, nofun⟩ ?_
    omega
  case isFalse => exact readResumeInfoCdn2_sound_iff positive fits

end PushService

namespace Sample

/-- Paths and queries in which nothing needs to be escaped. -/
def plainUrls : UrlSyntax := ⟨id, id, fun _ => rfl, fun _ => rfl⟩

def cdnBase : Url plainUrls := ⟨"https://cdn.example", "/", none, rfl, rfl⟩

def cdnService : PushService plainUrls where
  cfg := ⟨⟨"https://chat.example", "/", none, rfl, rfl⟩,
    ⟨"https://storage.example", "/", none, rfl, rfl⟩, [(2, cdnBase), (3, cdnBase)]⟩
  credentials := none

/-- SHA-256 of the three bytes below, of their last two, of their last one, and of nothing. -/
def sha256 (bytes : Bytes) : Bytes :=
  bigEndian 32 <|
    if bytes = [1, 2, 3] then
      0x039058c6f2c0cb492c533b0a4d14ef77cc0f78abccced5287d84a1a2011cfb81
    else if bytes = [2, 3] then
      0xee9040f65c341855e070ff438eb0ea9d5b831b2a2c270fb7ef592d750408e3b3
    else if bytes = [3] then
      0x084fed08b978af4d7d196a7446a86b58009e636b611db16211b65a9aadff29c5
    else
      0xe3b0c44298fc1c149afbf4c8996fb92427ae41e4649b934ca495991b7852b855

def signedUrl : Url plainUrls := ⟨"https://cdn.example", "/upload", some "id=1", rfl, rfl⟩
def plainUrl : Url plainUrls := ⟨"https://cdn.example", "/upload", none, rfl, rfl⟩

def cdnExternals : CdnExternals plainUrls where
  parse _ := some plainUrl
  join base path := some (base.setPath path)
  jsonUploadForm _ := some ⟨3, "key", [], signedUrl⟩
  sha256 := sha256
  spareCapacity _ := 31

def zeros (length : Nat) : { bytes : Bytes // bytes.length = length } :=
  ⟨List.replicate length 0, List.length_replicate⟩

/-- A CDN that answers every question in the same way, and takes what it is sent. -/
def cdnEnv (status : Nat) (name : HeaderName) (value : Bytes) : HttpEnv plainUrls Unit := fun c s =>
  (match c with
    | .send request =>
        .ok (if request.body = none then
          ⟨status, [(name, value), (Header.location, Reference.ascii "https://cdn.example/upload")],
            some []⟩
        else ⟨200, [], some []⟩)
    | .fillBytes length => zeros length
    | .now => 0, s)

/-- CDN2 has the first two bytes. -/
def cdn2AtTwo : HttpEnv plainUrls Unit := cdnEnv 308 Header.range (Reference.ascii "bytes=0-1")

/-- CDN3 has the first two bytes. -/
def cdn3AtTwo : HttpEnv plainUrls Unit := cdnEnv 200 Header.uploadOffset [0x32]

def cdn3AtStart : HttpEnv plainUrls Unit := cdnEnv 200 Header.uploadOffset [0x30]

end Sample

open Sample PushService

theorem upload_to_cdn3_from_start :
    (∃ ask asked request answer,
      ((cdnService.uploadAttachmentV4 cdnExternals 3 plainUrl 3 [] ⟨[1, 2, 3], 0⟩).run
        cdn3AtStart ()).log = [⟨.send ask, asked⟩, ⟨.send request, answer⟩] ∧
      ask.url.path = plainUrl.path ∧ ask.url.query = plainUrl.query ∧
      Resumes 3 ask request [1, 2, 3] 0) ↔
    0 = 0 ∧ (3 ≠ 2 → plainUrl.query = none ∧
      ∀ field ∈ ([] : List (String × String)), headerName field.1 ≠ some Header.uploadOffset ∧
        headerName field.1 ≠ some Header.uploadLength) := by
  have reported : ((cdnService.resumeInfo cdnExternals 3 plainUrl 3 []).run cdn3AtStart ()).exit =
      .ret ⟨none, 0⟩ := by
    rfl
  exact uploadAttachmentV4_resumes_iff [1, 2, 3] reported (by decide)

/-- Of three bytes each CDN has two. CDN2 is sent all three of them as the last one, and CDN3
    the last one as a whole of one byte. -/
theorem interrupted_uploads_start_over :
    (((cdnService.resumeInfo cdnExternals 2 signedUrl 3 []).run cdn2AtTwo ()).exit =
        .ret ⟨some "bytes 2-2/3", 2⟩ ∧
      ¬ ∃ ask asked request answer,
        ((cdnService.uploadAttachmentV4 cdnExternals 2 signedUrl 3 [] ⟨[1, 2, 3], 0⟩).run
          cdn2AtTwo ()).log = [⟨.send ask, asked⟩, ⟨.send request, answer⟩] ∧
        ask.url.path = signedUrl.path ∧ ask.url.query = signedUrl.query ∧
        Resumes 2 ask request [1, 2, 3] 2) ∧
    ((cdnService.resumeInfo cdnExternals 3 plainUrl 3 []).run cdn3AtTwo ()).exit =
        .ret ⟨none, 2⟩ ∧
      ¬ ∃ ask asked request answer,
        ((cdnService.uploadAttachmentV4 cdnExternals 3 plainUrl 3 [] ⟨[1, 2, 3], 0⟩).run
          cdn3AtTwo ()).log = [⟨.send ask, asked⟩, ⟨.send request, answer⟩] ∧
        ask.url.path = plainUrl.path ∧ ask.url.query = plainUrl.query ∧
        Resumes 3 ask request [1, 2, 3] 2 := by
  refine ⟨⟨rfl, ?_⟩, rfl, ?_⟩
  · rintro ⟨ask, asked, request, answer, sent, -, -, resumes⟩
    cases sent
    exact absurd resumes.body (by decide)
  · rintro ⟨ask, asked, request, answer, sent, -, -, resumes⟩
    cases sent
    exact absurd resumes.declares.2 (by decide)

/-- Of an upload of three bytes CDN2 names the fifth as its last, and of one the last that 64 bits
    can count. -/
theorem resume_beyond_end :
    ((cdnService.getAttachmentResumeInfoCdn2 cdnExternals plainUrl 3).run
      (cdnEnv 308 Header.range (Reference.ascii "bytes=0-4")) ()).exit =
        .ret ⟨some "bytes 5-2/3", 5⟩ ∧
    ¬ ResumeInfo.WellFormed 3 ⟨some "bytes 5-2/3", 5⟩ ∧
    ((cdnService.getAttachmentResumeInfoCdn2 cdnExternals plainUrl 3).run
      (cdnEnv 308 Header.range (Reference.ascii "bytes=0-18446744073709551615")) ()).exit =
        .panic "attempt to add with overflow" := by
  refine ⟨rfl, ?_, rfl⟩
  intro sound
  exact absurd sound.start_le (by decide)

theorem resume_at_two :
    ¬ ((cdnService.getAttachmentResumeInfoCdn2 cdnExternals plainUrl 3).run cdn2AtTwo
      ()).exit.Panics ∧
    ∀ info, ((cdnService.getAttachmentResumeInfoCdn2 cdnExternals plainUrl 3).run cdn2AtTwo
      ()).exit = .ret info → ResumeInfo.WellFormed 3 info := by
  refine (getAttachmentResumeInfoCdn2_sound_iff rfl rfl (by decide) (by decide)).mpr ?_
  intro _ last named
  cases named
  decide

end SignalService
