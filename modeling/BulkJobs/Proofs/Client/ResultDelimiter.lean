import BulkJobs.Proofs.Client.IngestRun
import BulkJobs.Proofs.Client.QueryRun

/-!
# The delimiter that results are read with

The artifacts of an ingest job are read with the delimiter of the draft. The result of a query job
is read with the one that the last snapshot reports, and with commas when it reports none, whatever
the draft asked for (`QueryOutcome.resultSet_eq`). As tables that are read with different delimiters
differ for some text (`asSet_probe`), a query is read as asked exactly when the snapshot that ended
the waiting reports the delimiter of the draft, or reports none and commas were asked for
(`results_read_as_asked_iff`).
-/

set_option autoImplicit false
set_option relaxedAutoImplicit false

namespace BulkJobs

open Http (Traffic)

/-! ### Tables of one text -/

/-- A text of two fields with a delimiter between them, by which delimiters are told apart. -/
def ColumnDelimiter.probe (delimiter : ColumnDelimiter) : String :=
  .ofList ['a', Char.ofNat delimiter.byte.toNat, 'b']

/-- A probe has two fields when it is read with its own delimiter, and one with any other. -/
theorem asSet_probe (delimiter other : ColumnDelimiter) :
    ResultBody.asSet other (Utf8.encode delimiter.probe) =
      .ok ⟨if other = delimiter then ["a", "b"] else [delimiter.probe], []⟩ := by
  cases delimiter <;> cases other <;> decide +kernel

/-- Two delimiters read all texts alike only when they are the same: the probe of one of them tells
them apart. -/
theorem asSet_eq_iff {delimiter other : ColumnDelimiter} :
    (∀ text, ResultBody.asSet delimiter (Utf8.encode text) =
      ResultBody.asSet other (Utf8.encode text)) ↔ delimiter = other := by
  refine ⟨fun hall ↦ ?_, fun heq _ ↦ by rw [heq]⟩
  have hprobe := hall delimiter.probe
  rw [asSet_probe, asSet_probe, if_pos rfl] at hprobe
  by_contra hne
  rw [if_neg (Ne.symm hne)] at hprobe
  have hwidth := congrArg (·.headers.length) (Except.ok.inj hprobe)
  exact absurd hwidth (by simp)

/-! ### Outcomes of queries -/

namespace QueryOutcome

theorem resultSet_eq (job : QueryJob) (text : String) :
    resultSet ⟨job, some text⟩ =
      (ResultBody.asSet (job.columnDelimiter.getD .comma) (Utf8.encode text)).map some :=
  rfl

/-- The result of an outcome is read with a delimiter, whatever its text is, exactly when the
snapshot of the job names that delimiter, or none and it is the comma. -/
theorem resultSet_eq_iff {job : QueryJob} {delimiter : ColumnDelimiter} :
    (∀ text, resultSet ⟨job, some text⟩ =
      (ResultBody.asSet delimiter (Utf8.encode text)).map some) ↔
      job.columnDelimiter = some delimiter ∨
        job.columnDelimiter = none ∧ delimiter = .comma := by
  have hsome {first second : Except Failure ResultSet}
      (heq : first.map some = second.map some) : first = second := by
    cases first <;> cases second <;> cases heq <;> rfl
  have hall : (∀ text, resultSet ⟨job, some text⟩ =
      (ResultBody.asSet delimiter (Utf8.encode text)).map some) ↔
        job.columnDelimiter.getD .comma = delimiter := by
    rw [← asSet_eq_iff]
    refine forall_congr' fun text ↦ ?_
    rw [resultSet_eq]
    exact ⟨hsome, fun heq ↦ by rw [heq]⟩
  rw [hall]
  cases job.columnDelimiter with
  | none => simp [eq_comm]
  | some reported => simp

end QueryOutcome

/-- A run of a query that gives a text has looked at the job until it was complete, and the job of
its outcome is the one that the last look has shown. -/
theorem QueryRun.of_ok {client : Client} {clock : Nat → Span} {draft : QueryDraft}
    {traffic traffic' : Traffic} {outcome : QueryOutcome}
    (h : QueryRun client clock draft traffic (.ok outcome) traffic') :
    ∃ delivery created first second looks before look,
      PageAct.Happens (client.creation draft) traffic ⟨(), delivery, .ok created⟩ first ∧
      (client.looks QueryJob clock created.id).Trail 0 first looks second ∧
      looks = before ++ [look] ∧ look.page = .ok outcome.job ∧
      (outcome.csv.isSome ↔ outcome.job.state.isSuccess = true) := by
  generalize hresult : Except.ok outcome = result at h
  cases h with
  | refused hvalid => cases hresult
  | uncreated hcreate => cases hresult
  | unfinished hcreate hlooks hdecides => cases hresult
  | incomplete hcreate hlooks hdecides hstate =>
    cases hresult
    obtain ⟨before, look, hsplit, hpage, -⟩ := hdecides.of_ok
    exact ⟨_, _, _, _, _, before, look, hcreate, hlooks, hsplit, hpage, by simp [hstate]⟩
  | @fetched _ _ _ _ pages _ _ _ hcreate hlooks hdecides hstate hpages =>
    obtain ⟨before, look, hsplit, hpage, -⟩ := hdecides.of_ok
    cases htexts : pages.mapM (·.page) with
    | error failure =>
      rw [htexts] at hresult
      cases hresult
    | ok texts =>
      rw [htexts] at hresult
      cases hresult
      exact ⟨_, _, _, _, _, before, look, hcreate, hlooks, hsplit, hpage, by simp [hstate]⟩

/-- The result of a query is read with the delimiter of the draft, whatever its text is, exactly
when the last look has shown that delimiter, or has shown none where commas were asked for. The
artifacts of an ingest job are always read with the delimiter of the draft. -/
theorem results_read_as_asked_iff (client : Client) (clock : Nat → Span) :
    (∀ draft traffic outcome csv, (client.runQuery clock draft traffic).1 = .ok outcome →
      outcome.csv = some csv →
      (∃ delivery created first second looks before look,
        PageAct.Happens (client.creation draft) traffic ⟨(), delivery, .ok created⟩ first ∧
        (client.looks QueryJob clock created.id).Trail 0 first looks second ∧
        looks = before ++ [look] ∧ look.page = .ok outcome.job) ∧
      outcome.resultSet = (ResultBody.asSet (outcome.job.columnDelimiter.getD .comma)
        (Utf8.encode csv)).map some ∧
      ((∀ text, QueryOutcome.resultSet { outcome with csv := some text } =
          (ResultBody.asSet draft.columnDelimiter (Utf8.encode text)).map some) ↔
        outcome.job.columnDelimiter = some draft.columnDelimiter ∨
          outcome.job.columnDelimiter = none ∧ draft.columnDelimiter = .comma)) ∧
    ∀ draft data traffic outcome, (client.runIngest clock draft data traffic).1 = .ok outcome →
      ∃ acts, Recorded client draft data traffic acts
          (client.runIngest clock draft data traffic).2 ∧
        outcome.IsShown draft.columnDelimiter acts := by
  constructor
  · intro draft traffic outcome csv hrun hcsv
    have haccount := client.runQuery_account clock draft traffic
    rw [hrun] at haccount
    obtain ⟨delivery, created, first, second, looks, before, look, hcreate, hlooks, hsplit, hpage,
      -⟩ := haccount.of_ok
    obtain ⟨job, shown⟩ := outcome
    obtain rfl : shown = some csv := hcsv
    exact ⟨⟨delivery, created, first, second, looks, before, look, hcreate, hlooks, hsplit, hpage⟩,
      QueryOutcome.resultSet_eq job csv, QueryOutcome.resultSet_eq_iff⟩
  · intro draft data traffic outcome hrun
    obtain ⟨acts, hacts, hlife⟩ := client.runIngest_account clock draft data traffic
    rw [hrun] at hlife
    exact ⟨acts, hacts, hlife.isShown hacts⟩

def QueryDraft.piped : QueryDraft :=
  { query := "SELECT Id, Name FROM Account", columnDelimiter := .pipe }

def queryReply (id state members : String) : Http.Reply :=
  { body := Utf8.encode ("\x7b\"id\":\"" ++ id ++ "\",\"operation\":\"query\",\"state\":\"" ++
      state ++ "\"" ++ members ++ "\x7d") }

theorem results_read_as_asked_sample :
    (Client.runQuery { org := .sample } (fun _ ↦ .ofSeconds 0) .piped
      { replies := [queryReply "1" "UploadComplete" "",
          queryReply "1" "JobComplete" ",\"columnDelimiter\":\"PIPE\"",
          { body := Utf8.encode "Id|Name\n1|a\n" }] }).1 =
      .ok ⟨⟨"1", .jobComplete, .query, none, none, some .pipe, none, 0, none, none, none, none⟩,
        some "Id|Name\n1|a\n"⟩ ∧
    ∀ text, QueryOutcome.resultSet
      ⟨⟨"1", .jobComplete, .query, none, none, some .pipe, none, 0, none, none, none, none⟩,
        some text⟩ =
      (ResultBody.asSet .pipe (Utf8.encode text)).map some := by
  have hrun : (Client.runQuery { org := .sample } (fun _ ↦ .ofSeconds 0) .piped
      { replies := [queryReply "1" "UploadComplete" "",
          queryReply "1" "JobComplete" ",\"columnDelimiter\":\"PIPE\"",
          { body := Utf8.encode "Id|Name\n1|a\n" }] }).1 =
      .ok ⟨⟨"1", .jobComplete, .query, none, none, some .pipe, none, 0, none, none, none, none⟩,
        some "Id|Name\n1|a\n"⟩ := by
    decide +kernel
  obtain ⟨-, -, hasked⟩ := (results_read_as_asked_iff { org := .sample } fun _ ↦ .ofSeconds 0).1
    .piped _ _ _ hrun rfl
  exact ⟨hrun, hasked.mpr (.inl rfl)⟩

/-- Where no snapshot reports a delimiter, the result of a query that asks for pipes is read with
commas. -/
theorem pipes_are_read_as_commas : QueryDraft.piped.validate = .ok () ∧
    ((Client.runQuery { org := .sample } (fun _ ↦ .ofSeconds 0) .piped
      { replies := [queryReply "1" "UploadComplete" "", queryReply "1" "JobComplete" "",
          { body := Utf8.encode "Id|Name\n1|a\n" }] }).1.map fun outcome ↦
        (outcome.job.columnDelimiter, outcome.csv, outcome.resultSet)) =
      .ok (none, some "Id|Name\n1|a\n", .ok (some ⟨["Id|Name"], [["1|a"]]⟩)) ∧
    ResultBody.asSet .pipe (Utf8.encode "Id|Name\n1|a\n") =
      .ok ⟨["Id", "Name"], [["1", "a"]]⟩ := by
  decide +kernel

end BulkJobs
