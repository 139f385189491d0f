import BulkJobs.Client.Query
import BulkJobs.Proofs.Client.Length
import BulkJobs.Proofs.Http.Headers
import BulkJobs.Proofs.Json.Written
import BulkJobs.Proofs.Org.Reaching
import Mathlib.Data.List.Nodup

/-!
# The creation of a job

A draft is checked before anything is sent (`IngestDraft.IsValid`, `QueryDraft.IsValid`); one that
fails the check ends creation and run alike. Otherwise its members are posted to the URL of its
family (`Client.creationRequest`). They are texts under different keys (`IsFlat`), so that the body
is read back as an object with just the members that the draft asks for (`IsPosted`). At a plain
instance this message is delivered when a request line can carry the URL, and no other message is
(`PostsJob`).

`createJob_account` has both families. A creation that cannot be built sends nothing, however valid
its draft is (`unfit_creation_sends_nothing`).
-/

set_option autoImplicit false
set_option relaxedAutoImplicit false

namespace BulkJobs

open Http (Message Traffic)

/-! ### What drafts ask for -/

/-- The members that a draft of an ingest job asks for, each a key with the text to be sent under
it. That of the external id field is there only if the draft has one. -/
inductive IngestDraft.HasMember (draft : IngestDraft) : String → Json → Prop where
  | object : HasMember draft "object" (.text draft.object)
  | operation : HasMember draft "operation" (.text draft.operation.name)
  | externalIdField {field : String} : draft.externalIdField = some field →
      HasMember draft "externalIdFieldName" (.text field)
  | contentType : HasMember draft "contentType" (.text draft.contentType.name)
  | columnDelimiter : HasMember draft "columnDelimiter" (.text draft.columnDelimiter.name)
  | lineEnding : HasMember draft "lineEnding" (.text draft.lineEnding.name)

/-- The members that a draft of a query job asks for, each a key with the text to be sent under
it. -/
inductive QueryDraft.HasMember (draft : QueryDraft) : String → Json → Prop where
  | query : HasMember draft "query" (.text draft.query)
  | operation : HasMember draft "operation" (.text draft.operation.name)
  | columnDelimiter : HasMember draft "columnDelimiter" (.text draft.columnDelimiter.name)
  | lineEnding : HasMember draft "lineEnding" (.text draft.lineEnding.name)

/-- Whether an ingest job can be created from a draft: there is an object, the operation is one of
ingest jobs, and an upsertion has the field that it goes by. -/
structure IngestDraft.IsValid (draft : IngestDraft) : Prop where
  object : Text.isBlankText draft.object = false
  operation : draft.operation.isQuery = false
  externalIdField : draft.operation = .upsert →
    ∃ field, draft.externalIdField = some field ∧ Text.isBlankText field = false

/-- Whether a query job can be created from a draft: there is a query, and the operation is one of
query jobs. -/
structure QueryDraft.IsValid (draft : QueryDraft) : Prop where
  query : Text.isBlankText draft.query = false
  operation : draft.operation.isQuery = true

/-- Whether members are texts, each under a key of its own. -/
structure IsFlat (members : List (String × Json)) : Prop where
  texts : ∀ member ∈ members, ∃ text, member.2 = .text text
  keys : (members.map (·.1)).Nodup

namespace IngestDraft

theorem mem_members_iff {draft : IngestDraft} {key : String} {value : Json} :
    (key, value) ∈ draft.members ↔ draft.HasMember key value := by
  constructor
  · intro h
    unfold members at h
    cases hfield : draft.externalIdField with
    | none =>
      simp only [hfield, List.append_nil, List.cons_append, List.nil_append, List.mem_cons,
        Prod.mk.injEq, List.not_mem_nil, or_false] at h
      rcases h with ⟨rfl, rfl⟩ | ⟨rfl, rfl⟩ | ⟨rfl, rfl⟩ | ⟨rfl, rfl⟩ | ⟨rfl, rfl⟩ <;> constructor
    | some field =>
      simp only [hfield, List.cons_append, List.nil_append, List.mem_cons, Prod.mk.injEq,
        List.not_mem_nil, or_false] at h
      rcases h with ⟨rfl, rfl⟩ | ⟨rfl, rfl⟩ | ⟨rfl, rfl⟩ | ⟨rfl, rfl⟩ | ⟨rfl, rfl⟩ | ⟨rfl, rfl⟩
      case inr.inr.inl => exact .externalIdField hfield
      all_goals constructor
  · rintro (_ | _ | hfield | _ | _ | _)
    case externalIdField => simp [members, hfield]
    all_goals simp [members]

theorem isFlat_members (draft : IngestDraft) : IsFlat draft.members where
  texts := by
    rintro ⟨key, value⟩ hmember
    cases mem_members_iff.mp hmember <;> exact ⟨_, rfl⟩
  keys := by
    unfold members
    cases draft.externalIdField <;> simp

end IngestDraft

namespace QueryDraft

theorem mem_members_iff {draft : QueryDraft} {key : String} {value : Json} :
    (key, value) ∈ draft.members ↔ draft.HasMember key value := by
  constructor
  · intro h
    simp only [members, List.mem_cons, Prod.mk.injEq, List.not_mem_nil, or_false] at h
    rcases h with ⟨rfl, rfl⟩ | ⟨rfl, rfl⟩ | ⟨rfl, rfl⟩ | ⟨rfl, rfl⟩ <;> constructor
  · rintro (_ | _ | _ | _) <;> simp [members]

theorem isFlat_members (draft : QueryDraft) : IsFlat draft.members where
  texts := by
    rintro ⟨key, value⟩ hmember
    cases mem_members_iff.mp hmember <;> exact ⟨_, rfl⟩
  keys := by simp [members]

end QueryDraft

namespace IsFlat

variable {members : List (String × Json)}

theorem mem_inKeyOrder_iff (h : IsFlat members) {member : String × Json} :
    member ∈ Json.inKeyOrder members ↔ member ∈ members := by
  refine ⟨Json.mem_of_mem_inKeyOrder, fun hmember ↦ ?_⟩
  obtain ⟨value, hvalue⟩ := Json.exists_mem_inKeyOrder hmember
  have hsame : (member.1, value) = member :=
    List.inj_on_of_nodup_map h.keys (Json.mem_of_mem_inKeyOrder hvalue) hmember rfl
  exact hsame ▸ hvalue

/-- The object with such members (`IsFlat`) is written so that reading the text gives the object
back, whatever characters are in the texts. -/
theorem readsBack_ofMembers (h : IsFlat members) : Json.ReadsBack (Json.ofMembers members) := by
  rw [Json.ofMembers_eq]
  refine .object (fun member hmember ↦ ?_) (Json.pairwise_inKeyOrder members)
  obtain ⟨text, htext⟩ := h.texts member (h.mem_inKeyOrder_iff.mp hmember)
  rw [htext]
  exact .text text

end IsFlat

/-! ### Posting -/

/-- Whether a message posts an object with certain members to a URL, as JSON. -/
structure IsPosted (target : Url) (HasMember : String → Json → Prop) (message : Message) :
    Prop where
  method : message.method = .post
  url : message.url = target
  contentType : message.values "content-type" = ["application/json"]
  /-- The body is JSON for an object that has each member once, and no other. -/
  body : ∃ members, Json.parse? message.body = some (.object members) ∧
    members.Pairwise (·.1 < ·.1) ∧ ∀ key value, (key, value) ∈ members ↔ HasMember key value

/-- Whether a job is asked for at the URL of its family, and nothing else is, from one state of the
network to another. The target is what the message of this request goes to. -/
structure PostsJob (client : Client) (family : JobKind) (HasMember : String → Json → Prop)
    {α : Type} (traffic : Traffic) (result : Except Failure α) (traffic' : Traffic)
    (target : Url) : Prop where
  leads : ∃ written, Url.parse (client.kindUrl family) = .ok written ∧
    Http.Extends target written []
  /-- It is asked for when a request line can carry the URL; what is sent then is this one message,
  if its host can be connected to, and what redirects lead to. -/
  asked : Http.Request.isCarriable target = true → ∃ delivery : Http.Delivery,
    IsPosted target HasMember delivery.message ∧ Http.Received traffic [delivery] traffic' ∧
      traffic'.sent = traffic.sent ++ delivery.messages ∧
      ((∀ reply ∈ traffic.replies, reply.isFinal = true) →
        delivery.messages = if delivery.reply.isRefused then [] else [delivery.message])
  unreachable : traffic.reachable = false → traffic' = traffic
  /-- A request with any other URL cannot be built. -/
  unfit : Http.Request.isCarriable target = false →
    traffic' = traffic ∧ result = .error (.ofHttp (Http.unbuildableFor target))

namespace Client

variable {client : Client} {scheme host : String}

/-- The request that posts members to the URL of a family, as the object that they make up. -/
def creationRequest (client : Client) (family : JobKind) (members : List (String × Json)) :
    Http.Request :=
  (client.org.request .post (client.kindUrl family)).withJson (Json.ofMembers members)

theorem lift_postJson (client : Client) (family : JobKind) (members : List (String × Json))
    {α : Type} (decode : Json.Decoder α) (traffic : Traffic) :
    lift (client.org.postJson decode (client.kindUrl family) (Json.ofMembers members)) traffic =
      (((Http.execute client.org.http (client.creationRequest family members) traffic).1.mapError
          Failure.ofHttp).bind fun response ↦ (response.readJson decode).mapError Failure.ofHttp,
        (Http.execute client.org.http (client.creationRequest family members) traffic).2) :=
  lift_executeJson (client.creationRequest family members) decode traffic

theorem isSome_ownHeaders_creation (htoken : Http.Header.isValue client.org.accessToken = true)
    (family : JobKind) (members : List (String × Json)) (credentials : Option (String × String)) :
    ((client.creationRequest family members).ownHeaders? credentials).isSome := by
  have hheader : (Http.Header.make? "Content-Type" "application/json").isSome := by decide +kernel
  refine Http.isSome_ownHeaders rfl htoken (fun header hmem ↦ ?_) credentials
  rw [List.mem_singleton.mp hmem]
  exact hheader

/-- Who asks and the token stand under other names than the type of the body, so that there is just
one content type. -/
theorem named_contentType (client : Client) (family : JobKind) (members : List (String × Json))
    (credentials : Option (String × String)) : Http.Request.named "content-type"
      ((client.creationRequest family members).askedHeaders credentials) =
        [("Content-Type", "application/json")] := by
  have hother : Text.sameIgnoringCase "Authorization" "content-type" = false := by decide +kernel
  have hsame : Text.sameIgnoringCase "Content-Type" "content-type" = true := by decide +kernel
  have hasked : (client.creationRequest family members).askedHeaders credentials =
      Http.Request.credentialPairs credentials ++
        [("Authorization", "Bearer " ++ client.org.accessToken)] ++
        [("Content-Type", "application/json")] := rfl
  have hcredentials :
      Http.Request.named "content-type" (Http.Request.credentialPairs credentials) = [] := by
    cases credentials with
    | none => rfl
    | some pair => simp [Http.Request.named, Http.Request.credentialPairs, hother]
  rw [Http.Request.named] at hcredentials ⊢
  rw [hasked, List.filter_append, List.filter_append, hcredentials]
  simp [hother, hsame]

/-- The message that the request for a job becomes posts the members to the URL of the family, if
they are flat (`hflat`) and just those that are asked for (`hmembers`). -/
theorem isPosted_of_prepare {family : JobKind} {members : List (String × Json)}
    (hflat : IsFlat members) {HasMember : String → Json → Prop}
    (hmembers : ∀ key value, (key, value) ∈ members ↔ HasMember key value) {written : Url}
    (hwritten : Url.parse (client.org.url (client.kindUrl family)) = .ok written)
    {message : Message}
    (hprepare : (client.creationRequest family members).prepare client.org.http = .ok message) :
    IsPosted ((client.creationRequest family members).destination written) HasMember message := by
  have hnamed := named_contentType client family members (Http.Request.urlCredentials? written)
  have hvalues : message.values "content-type" = ["application/json"] := by
    rw [Http.values_of_prepare hprepare hwritten (by rw [hnamed]; exact List.cons_ne_nil _ _),
      hnamed]
    rfl
  obtain ⟨url, own, hurl, -, -, -, -, rfl⟩ := Http.Request.prepare_eq_ok_iff.mp hprepare
  cases hwritten.symm.trans hurl
  refine ⟨rfl, rfl, hvalues, Json.inKeyOrder members, hflat.readsBack_ofMembers.parse?,
    Json.pairwise_inKeyOrder members, fun key value ↦ ?_⟩
  rw [hflat.mem_inKeyOrder_iff, hmembers]

/-- At a plain instance (`hplain`) with a token that can stand in a header (`htoken`), members are
posted to the URL of a family, and nothing else is asked for. -/
theorem postsJob_postJson (hplain : client.org.IsPlain scheme host)
    (htoken : Http.Header.isValue client.org.accessToken = true) (family : JobKind)
    {members : List (String × Json)} (hflat : IsFlat members) {HasMember : String → Json → Prop}
    (hmembers : ∀ key value, (key, value) ∈ members ↔ HasMember key value) {α : Type}
    (decode : Json.Decoder α) (traffic : Traffic) :
    ∃ target, PostsJob client family HasMember traffic
      (lift (client.org.postJson decode (client.kindUrl family) (Json.ofMembers members))
        traffic).1
      (lift (client.org.postJson decode (client.kindUrl family) (Json.ofMembers members))
        traffic).2 target := by
  have htext : client.org.url (client.kindUrl family) = client.kindUrl family :=
    hplain.url_jobsUrl family.path
  have hurl : (client.creationRequest family members).url =
      client.org.url (client.kindUrl family) := rfl
  obtain ⟨written, own, hwritten, hprepare⟩ := hplain.prepare_eq hurl
    (isSome_ownHeaders_creation htoken family members) client.org.http
  rw [lift_postJson]
  refine ⟨(client.creationRequest family members).destination written,
    ⟨written, htext ▸ hwritten, Http.Request.destination_extends _ written⟩, ?_, ?_, ?_⟩
  · intro hfits
    rw [if_pos hfits] at hprepare
    obtain ⟨delivery, traffic', hmessage, hreceived, hrun⟩ :=
      Http.execute_delivers hprepare traffic
    rw [hrun]
    refine ⟨delivery, ?_, hreceived, hreceived.sent_single, fun hfinal ↦ ?_⟩
    · rw [hmessage]
      exact isPosted_of_prepare hflat hmembers hwritten hprepare
    · exact hreceived.messages_eq hfinal delivery (List.mem_singleton_self delivery)
  · intro hunreachable
    rw [Http.execute_of_unreachable client.org.http (client.creationRequest family members)
      hunreachable]
  · intro hunfit
    rw [hunfit, if_neg Bool.false_ne_true] at hprepare
    rw [Http.execute_of_error hprepare]
    exact ⟨rfl, rfl⟩

/-! ### Drafts that fail their check -/

theorem createIngestJob_of_invalid {draft : IngestDraft} {failure : Failure}
    (hinvalid : draft.validate = .error failure) (traffic : Traffic) :
    client.createIngestJob draft traffic = (.error failure, traffic) :=
  Http.Exchange.ofExcept_bind_of_error hinvalid traffic

theorem runIngest_of_invalid {draft : IngestDraft} {failure : Failure}
    (hinvalid : draft.validate = .error failure) (clock : Nat → Span) (data : Octets)
    (traffic : Traffic) :
    client.runIngest clock draft data traffic = (.error failure, traffic) :=
  Http.Exchange.bind_of_error (createIngestJob_of_invalid hinvalid traffic)

theorem createQueryJob_of_invalid {draft : QueryDraft} {failure : Failure}
    (hinvalid : draft.validate = .error failure) (traffic : Traffic) :
    client.createQueryJob draft traffic = (.error failure, traffic) :=
  Http.Exchange.ofExcept_bind_of_error hinvalid traffic

theorem runQuery_of_invalid {draft : QueryDraft} {failure : Failure}
    (hinvalid : draft.validate = .error failure) (clock : Nat → Span) (traffic : Traffic) :
    client.runQuery clock draft traffic = (.error failure, traffic) :=
  Http.Exchange.bind_of_error (createQueryJob_of_invalid hinvalid traffic)

/-! ### Drafts that pass their check -/

theorem createIngestJob_of_valid (client : Client) {draft : IngestDraft}
    (hvalid : draft.validate = .ok ()) (traffic : Traffic) :
    client.createIngestJob draft traffic =
      lift (client.org.postJson IngestJob.decode (client.kindUrl .ingest)
        (Json.ofMembers draft.members)) traffic :=
  Http.Exchange.ofExcept_bind_of_ok hvalid traffic

theorem createQueryJob_of_valid (client : Client) {draft : QueryDraft}
    (hvalid : draft.validate = .ok ()) (traffic : Traffic) :
    client.createQueryJob draft traffic =
      lift (client.org.postJson QueryJob.decode (client.kindUrl .query)
        (Json.ofMembers draft.members)) traffic :=
  Http.Exchange.ofExcept_bind_of_ok hvalid traffic

end Client

theorem IngestDraft.validate_eq_ok_iff {draft : IngestDraft} :
    draft.validate = .ok () ↔ draft.IsValid := by
  have hcheck : draft.validate = .ok () ↔ draft.complaint? = none := by
    unfold validate
    cases draft.complaint? <;> simp
  rw [hcheck]
  unfold complaint?
  constructor
  · intro hnone
    split_ifs at hnone with hobject hoperation hexternal
    refine ⟨Bool.eq_false_iff.mpr hobject, Bool.eq_false_iff.mpr hoperation, fun hupsert ↦ ?_⟩
    cases hfield : draft.externalIdField with
    | none => simp [hupsert, hfield] at hexternal
    | some field => exact ⟨field, rfl, by simpa [hupsert, hfield] using hexternal⟩
  · rintro ⟨hobject, hoperation, hexternal⟩
    rw [hobject, hoperation, if_neg Bool.false_ne_true, if_neg Bool.false_ne_true]
    refine if_neg fun h ↦ ?_
    obtain ⟨hupsert, hblank⟩ := Bool.and_eq_true_iff.mp h
    obtain ⟨field, hfield, hfilled⟩ := hexternal (beq_iff_eq.mp hupsert)
    simp [hfield, hfilled] at hblank

theorem QueryDraft.validate_eq_ok_iff {draft : QueryDraft} :
    draft.validate = .ok () ↔ draft.IsValid := by
  have hcheck : draft.validate = .ok () ↔ draft.complaint? = none := by
    unfold validate
    cases draft.complaint? <;> simp
  rw [hcheck]
  unfold complaint?
  constructor
  · intro hnone
    split_ifs at hnone with hquery hoperation
    exact ⟨Bool.eq_false_iff.mpr hquery, by simpa using hoperation⟩
  · rintro ⟨hquery, hoperation⟩
    rw [hquery, hoperation]
    rfl

theorem IngestDraft.exists_complaint {draft : IngestDraft} {failure : Failure}
    (hinvalid : draft.validate = .error failure) :
    ∃ detail, failure.kind = .invalidRequest none detail := by
  unfold validate at hinvalid
  split at hinvalid <;> cases hinvalid
  exact ⟨_, rfl⟩

theorem QueryDraft.exists_complaint {draft : QueryDraft} {failure : Failure}
    (hinvalid : draft.validate = .error failure) :
    ∃ detail, failure.kind = .invalidRequest none detail := by
  unfold validate at hinvalid
  split at hinvalid <;> cases hinvalid
  exact ⟨_, rfl⟩

/-- The job that is created is the job that the draft asks for. A draft that is not valid is an
invalid request without a status, for creation and run alike, and nothing is sent. -/
theorem createJob_account {client : Client} {scheme host : String}
    (hplain : client.org.IsPlain scheme host)
    (htoken : Http.Header.isValue client.org.accessToken = true) (traffic : Traffic) :
    (∀ draft : IngestDraft,
      (draft.validate = .ok () ↔ draft.IsValid) ∧
      (∀ failure, draft.validate = .error failure →
        (∃ detail, failure.kind = .invalidRequest none detail) ∧
          client.createIngestJob draft traffic = (.error failure, traffic) ∧
          ∀ clock data, client.runIngest clock draft data traffic = (.error failure, traffic)) ∧
      (draft.validate = .ok () → ∃ target,
        PostsJob client .ingest draft.HasMember traffic (client.createIngestJob draft traffic).1
          (client.createIngestJob draft traffic).2 target)) ∧
    ∀ draft : QueryDraft,
      (draft.validate = .ok () ↔ draft.IsValid) ∧
      (∀ failure, draft.validate = .error failure →
        (∃ detail, failure.kind = .invalidRequest none detail) ∧
          client.createQueryJob draft traffic = (.error failure, traffic) ∧
          ∀ clock, client.runQuery clock draft traffic = (.error failure, traffic)) ∧
      (draft.validate = .ok () → ∃ target,
        PostsJob client .query draft.HasMember traffic (client.createQueryJob draft traffic).1
          (client.createQueryJob draft traffic).2 target) := by
  refine ⟨fun draft ↦ ⟨IngestDraft.validate_eq_ok_iff, fun failure hinvalid ↦ ?_, fun hvalid ↦ ?_⟩,
    fun draft ↦ ⟨QueryDraft.validate_eq_ok_iff, fun failure hinvalid ↦ ?_, fun hvalid ↦ ?_⟩⟩
  · exact ⟨IngestDraft.exists_complaint hinvalid,
      Client.createIngestJob_of_invalid hinvalid traffic,
      fun clock data ↦ Client.runIngest_of_invalid hinvalid clock data traffic⟩
  · rw [client.createIngestJob_of_valid hvalid]
    exact Client.postsJob_postJson hplain htoken .ingest draft.isFlat_members
      (fun _ _ ↦ IngestDraft.mem_members_iff) IngestJob.decode traffic
  · exact ⟨QueryDraft.exists_complaint hinvalid,
      Client.createQueryJob_of_invalid hinvalid traffic,
      fun clock ↦ Client.runQuery_of_invalid hinvalid clock traffic⟩
  · rw [client.createQueryJob_of_valid hvalid]
    exact Client.postsJob_postJson hplain htoken .query draft.isFlat_members
      (fun _ _ ↦ QueryDraft.mem_members_iff) QueryJob.decode traffic

def IngestDraft.quoted : IngestDraft :=
  { object := "A\"B", operation := .upsert, externalIdField := some "C\\\n" }

/-- The creation of a job at the sample org, and a draft without an object that is not sent. -/
theorem createJob_account_sample : Org.sample.IsPlain "http" "[::1]" ∧
    Http.Header.isValue Org.sample.accessToken = true ∧
    (∃ target, PostsJob { org := Org.sample } .ingest IngestDraft.quoted.HasMember
      { replies := [jobReply] }
      (Client.createIngestJob { org := Org.sample } .quoted { replies := [jobReply] }).1
      (Client.createIngestJob { org := Org.sample } .quoted { replies := [jobReply] }).2 target) ∧
    (Client.createIngestJob { org := Org.sample } .quoted
      { replies := [jobReply] }).2.sent.map (fun message ↦ Utf8.decode? message.body) =
        [some ("\x7b\"columnDelimiter\":\"COMMA\",\"contentType\":\"CSV\"," ++
          "\"externalIdFieldName\":\"C\\\\\\n\",\"lineEnding\":\"LF\"," ++
          "\"object\":\"A\\\"B\",\"operation\":\"upsert\"\x7d")] ∧
    Client.createIngestJob { org := Org.sample } { object := " ", operation := .insert }
        { replies := [jobReply] } =
      (.error (.invalidRequest "object must not be empty"), { replies := [jobReply] }) := by
  have hplain : ({ org := Org.sample } : Client).org.IsPlain "http" "[::1]" := Org.sample_isPlain
  have htoken : Http.Header.isValue Org.sample.accessToken = true := by decide
  have hvalid : IngestDraft.quoted.validate = .ok () := by decide +kernel
  have hblank : ({ object := " ", operation := .insert } : IngestDraft).validate =
      .error (.invalidRequest "object must not be empty") := by decide +kernel
  obtain ⟨hingest, -⟩ := createJob_account hplain htoken { replies := [jobReply] }
  exact ⟨hplain, htoken, (hingest .quoted).2.2 hvalid, by decide +kernel,
    ((hingest _).2.1 _ hblank).2.1⟩

/-- At a host with a brace, and with a long API version, a valid draft sends nothing, although the
instance URL can be connected to. -/
theorem unfit_creation_sends_nothing : IngestDraft.sample.validate = .ok () ∧
    (Org.connect "http://\x7b" "t" {}).isOk = true ∧
    (Client.createIngestJob { org := { Org.sample with instanceUrl := "http://\x7b" } }
      .sample { replies := [jobReply] }).2.sent = [] ∧
    (Client.createIngestJob (.withVersion (.ofList (List.replicate 65502 'a'))) .sample
      { replies := [jobReply] }).2.sent = [] := by
  have hvalid : IngestDraft.sample.validate = .ok () := by decide +kernel
  refine ⟨hvalid, by decide +kernel, by decide +kernel, ?_⟩
  obtain ⟨hversion, hlength⟩ := Org.isPlainSegment_replicate 65502
  generalize String.ofList (List.replicate 65502 'a') = version at hversion hlength ⊢
  have hurl : (Client.creationRequest (.withVersion version) .ingest
      IngestDraft.sample.members).url = (Client.withVersion version).org.url
        ((Client.withVersion version).kindUrl .ingest) := rfl
  obtain ⟨failure, hprepare⟩ := prepare_kindUrl_of_length hversion (by omega) .ingest hurl
    (Client.withVersion version).org.http
  rw [Client.createIngestJob_of_valid _ hvalid, Client.lift_postJson,
    Http.execute_of_error hprepare]

end BulkJobs
