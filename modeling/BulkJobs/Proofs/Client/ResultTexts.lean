import BulkJobs.Client.Stream
import BulkJobs.Proofs.Client.ResultPages
import BulkJobs.Proofs.Text.Reading

/-!
# The texts of results

An artifact is read as the stream of its body and a page of a query as the text of its response.
However a body is cut into chunks, its stream has the bytes of the body (`bytes_ofResponse`), and
only a body that breaks off has none. Then the two readings part: that of an artifact takes nothing
but UTF-8, that of a page replaces what is none and never fails. So they agree on a reply exactly
when its body breaks off or is the UTF-8 of a text, and any other body is read as a page with other
bytes than it had (`readings_agree_iff`).
-/

set_option autoImplicit false
set_option relaxedAutoImplicit false

namespace BulkJobs

open Http (Delivery Exchange Message Reply Response Traffic)

/-! ### Streams -/

namespace ResultStream

/-- The bytes of a stream are those of its chunks, whether there is one or not. -/
theorem bytes_of_collect {stream : ResultStream} {chunks : List Octets}
    (hcollect : stream.collect = .ok chunks) : stream.bytes = .ok chunks.flatten := by
  unfold bytes
  rw [hcollect]
  rcases chunks with _ | ⟨chunk, _ | ⟨next, chunks⟩⟩
  · rfl
  · rw [List.flatten_singleton]
    rfl
  · rfl

/-- However a body is cut into chunks (`cutting`), the stream of a response has its bytes, or fails
as reading them at once does. -/
theorem bytes_ofResponse (cutting : Cutting) (response : Response) :
    (ofResponse cutting response).bytes = response.streamBytes.mapError Failure.ofHttp := by
  rw [Response.streamBytes]
  cases hbroken : response.broken with
  | true =>
    unfold bytes collect ofResponse
    rw [if_pos hbroken, List.mapM_append, mapM_eq_ok_iff_map.mpr (List.map_id _)]
    rfl
  | false =>
    have hcollect : (ofResponse cutting response).collect = .ok (cutting.chunks response) := by
      unfold collect ofResponse
      rw [if_neg (by rw [hbroken]; decide), mapM_eq_ok_iff_map.mpr (List.map_id _)]
    rw [bytes_of_collect hcollect, cutting.whole response hbroken]
    rfl

end ResultStream

/-! ### Two readings of a reply -/

namespace Client

variable {client : Client}

variable {traffic traffic' : Traffic} {response : Response} {id : String}

/-- The text of an artifact is that of the body of the reply (`hrun`), however the body is cut. -/
theorem fetchText_of_execute {artifact : Artifact}
    (hrun : client.org.execute (client.org.request .get
      (client.resourceUrl .ingest id artifact.path)).acceptingCsv traffic =
        (.ok response, traffic')) (cutting : Cutting) :
    (client.fetchText cutting artifact id traffic).1 =
      (response.streamBytes.mapError Failure.ofHttp).bind ResultBody.asText := by
  have hlift : lift (client.org.execute (client.org.request .get
      (client.resourceUrl .ingest id artifact.path)).acceptingCsv) traffic =
        (.ok response, traffic') := by
    rw [lift_apply, hrun]
    rfl
  have hstream : client.fetchStream cutting artifact id traffic =
      (.ok (.ofResponse cutting response), traffic') :=
    Exchange.bind_of_ok hlift
  unfold fetchText
  rw [Exchange.bind_of_ok hstream, ← ResultStream.bytes_ofResponse cutting]
  rfl

/-- The text of a page is that of the body of the reply (`hrun`), decoded without fail. -/
theorem queryResults_of_execute {locator : Option String} {limit : Option Nat}
    (hrun : client.org.execute (client.pageRequest id locator limit) traffic =
      (.ok response, traffic')) :
    (client.queryResults id locator limit traffic).1.map (·.csv) =
      response.readText.mapError Failure.ofHttp := by
  have hlift : lift (client.org.execute (client.pageRequest id locator limit)) traffic =
      (.ok response, traffic') := by
    rw [lift_apply, hrun]
    rfl
  unfold queryResults
  rw [Exchange.bind_of_ok hlift]
  cases hread : response.readText with
  | error failure => rfl
  | ok csv => rfl

/-- Whether two readings of a body agree: both give the text that the body is the UTF-8 of, or both
fail. -/
def ReadAlike (body : Octets) (first second : Except Failure String) : Prop :=
  (∃ text, Utf8.encode text = body ∧ first = .ok text ∧ second = .ok text) ∨
    ∃ failure failure', first = .error failure ∧ second = .error failure'

/-- Bytes that are no UTF-8 (`hstray`) fail as the text of an artifact, and are altered in that of a
page. -/
theorem readings_of_stray {body : Octets} (hstray : ¬∃ text, Utf8.encode text = body) :
    ResultBody.asText body = .error ⟨.other "result body is not UTF-8", true⟩ ∧
      Utf8.encode (Utf8.decodeLossy body) ≠ body := by
  have hnone : Utf8.decode? body = none :=
    Option.eq_none_iff_forall_ne_some.mpr fun text htext ↦
      hstray ⟨text, Utf8.encode_of_decode? htext⟩
  refine ⟨?_, mt Utf8.encode_decodeLossy_eq_iff.mp hstray⟩
  rw [ResultBody.asText, hnone]

/-- The two readings of a body that arrives in full agree (`ReadAlike`) exactly when it is UTF-8. -/
theorem readAlike_iff (body : Octets) :
    ReadAlike body (ResultBody.asText body) (.ok (Utf8.decodeLossy body)) ↔
      ∃ text, Utf8.encode text = body := by
  constructor
  · rintro (⟨text, htext, -⟩ | ⟨failure, failure', -, hfailure⟩)
    · exact ⟨text, htext⟩
    · cases hfailure
  · rintro ⟨text, rfl⟩
    refine .inl ⟨text, rfl, ?_, by rw [Utf8.decodeLossy_encode]⟩
    rw [ResultBody.asText, Utf8.decode?_encode]

end Client

open Client

/-- The text of an artifact and that of a page agree on a reply exactly when its body breaks off or
is UTF-8. Otherwise the artifact fails, and the page is the text of other bytes. -/
theorem readings_agree_iff (client : Client) (cutting : Cutting) {artifact : Artifact}
    {id id' : String} {locator : Option String} {limit : Option Nat} {message message' : Message}
    (hmessage : (client.org.request .get
      (client.resourceUrl .ingest id artifact.path)).acceptingCsv.prepare client.org.http =
        .ok message)
    (hmessage' : (client.pageRequest id' locator limit).prepare client.org.http = .ok message')
    {reply : Reply} (hfor : reply.isFor message = true) (hfor' : reply.isFor message' = true)
    (hstatus : 200 ≤ reply.status ∧ reply.status ≤ 299) (harrives : reply.arrives = true)
    (replies replies' : List Reply) (sent sent' : List Message) :
    let artifactText := (client.fetchText cutting artifact id ⟨true, reply :: replies, sent⟩).1
    let pageText :=
      (client.queryResults id' locator limit ⟨true, reply :: replies', sent'⟩).1.map (·.csv)
    let sound := reply.fault = some .truncate ∨ ∃ text, Utf8.encode text = reply.carriedBody
    (ReadAlike reply.carriedBody artifactText pageText ↔ sound) ∧
      (¬ sound → artifactText = .error ⟨.other "result body is not UTF-8", true⟩ ∧
        ∃ text, pageText = .ok text ∧ Utf8.encode text ≠ reply.carriedBody) := by
  intro artifactText pageText sound
  have hsent := Reply.isRefused_of_arrives harrives
  have hfinal := Reply.isFinal_of_success hstatus
  have hexecute := Http.execute_of_reply hmessage hfor hfinal hsent replies sent
  have hexecute' := Http.execute_of_reply hmessage' hfor' hfinal hsent replies' sent'
  rw [Http.Delivery.answer_of_arrives hstatus harrives] at hexecute hexecute'
  have hartifact : artifactText = _ := fetchText_of_execute hexecute cutting
  have hpage : pageText = _ := queryResults_of_execute hexecute'
  rcases Reply.fault_of_arrives harrives with hwhole | hbroken
  · have hsound : sound ↔ ∃ text, Utf8.encode text = reply.carriedBody := by
      simp [sound, hwhole]
    rw [hwhole] at hartifact hpage
    have hartifact' : artifactText = ResultBody.asText reply.carriedBody := hartifact
    have hpage' : pageText = .ok (Utf8.decodeLossy reply.carriedBody) := hpage
    rw [hsound, hartifact', hpage']
    refine ⟨readAlike_iff _, fun hstray ↦ ?_⟩
    obtain ⟨hstrict, haltered⟩ := readings_of_stray hstray
    exact ⟨hstrict, _, rfl, haltered⟩
  · rw [hbroken] at hartifact hpage
    have hfail : ∃ failure failure', artifactText = .error failure ∧ pageText = .error failure' :=
      ⟨_, _, hartifact, hpage⟩
    exact ⟨iff_of_true (.inr hfail) (.inl hbroken), fun hno ↦ absurd (.inl hbroken) hno⟩

def Cutting.single : Cutting where
  chunks response := [response.body]
  begins response := by simp
  whole response _ := List.flatten_singleton

theorem readings_agree_sample :
    ∃ message message', (Org.sample.request .get (resourceUrl { org := .sample } .ingest "1"
        Artifact.successful.path)).acceptingCsv.prepare Org.sample.http = .ok message ∧
      (pageRequest { org := .sample } "1" none none).prepare Org.sample.http = .ok message' ∧
      Reply.isFor message { body := Utf8.encode "Id\n1\n" } = true ∧
      Reply.isFor message' { body := Utf8.encode "Id\n1\n" } = true ∧
      Reply.arrives { body := Utf8.encode "Id\n1\n" } = true ∧
      ReadAlike (Utf8.encode "Id\n1\n")
        (fetchText { org := .sample } .single .successful "1"
          { replies := [{ body := Utf8.encode "Id\n1\n" }] }).1
        ((queryResults { org := .sample } "1" none none
          { replies := [{ body := Utf8.encode "Id\n1\n" }] }).1.map (·.csv)) := by
  have hartifact : ((Org.sample.request .get (resourceUrl { org := .sample } .ingest "1"
      Artifact.successful.path)).acceptingCsv.prepare Org.sample.http).isOk = true := by
    decide +kernel
  have hpage : ((pageRequest { org := .sample } "1" none none).prepare
      Org.sample.http).isOk = true := by decide +kernel
  obtain ⟨message, hmessage⟩ := exists_of_isOk hartifact
  obtain ⟨message', hmessage'⟩ := exists_of_isOk hpage
  have hfor (message : Message) : Reply.isFor message { body := Utf8.encode "Id\n1\n" } = true :=
    rfl
  have harrives : Reply.arrives { body := Utf8.encode "Id\n1\n" } = true := rfl
  obtain ⟨hagree, -⟩ := readings_agree_iff { org := .sample } .single hmessage hmessage'
    (hfor message) (hfor message') (by decide) harrives [] [] [] []
  exact ⟨message, message', hmessage, hmessage', rfl, rfl, harrives, hagree.mpr (.inr ⟨_, rfl⟩)⟩

/-- A byte that is no UTF-8 fails as the text of an artifact, and is replaced in that of a page. -/
theorem stray_byte_is_replaced :
    (fetchText { org := .sample } .single .successful "1" { replies := [{ body := [0xFF] }] }).1 =
        .error ⟨.other "result body is not UTF-8", true⟩ ∧
      (queryResults { org := .sample } "1" none none { replies := [{ body := [0xFF] }] }).1.map
        (·.csv) = .ok "\uFFFD" ∧
      ¬ ReadAlike [0xFF]
        (fetchText { org := .sample } .single .successful "1" { replies := [{ body := [0xFF] }] }).1
        ((queryResults { org := .sample } "1" none none { replies := [{ body := [0xFF] }] }).1.map
          (·.csv)) := by
  have hartifact : (fetchText { org := .sample } .single .successful "1"
      { replies := [{ body := [0xFF] }] }).1 =
        .error ⟨.other "result body is not UTF-8", true⟩ := by
    decide +kernel
  have hpage : (queryResults { org := .sample } "1" none none
      { replies := [{ body := [0xFF] }] }).1.map (·.csv) = .ok "\uFFFD" := by
    decide +kernel
  refine ⟨hartifact, hpage, ?_⟩
  rw [hartifact, hpage]
  rintro (⟨text, -, htext, -⟩ | ⟨failure, failure', -, hfailure⟩)
  · cases htext
  · cases hfailure

end BulkJobs
