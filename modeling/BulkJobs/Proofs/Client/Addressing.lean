import BulkJobs.Proofs.Client.Call
import BulkJobs.Proofs.Org.Plain

/-!
# Where the URLs of jobs lead

At a plain instance the URL of a job, or of a part of it, leads to the segments of
`JobTarget.segments`: the family, the id as one encoded segment, and the part. That is so for every
id but two: `.` and `..` are not changed by the encoding, and the reader of URLs carries them out as
dot segments, so that the URL leads to the family or to all jobs instead
(`addresses_iff`). Other ids never share a path (`JobTarget.segments_injective`).
-/

set_option autoImplicit false
set_option relaxedAutoImplicit false

namespace BulkJobs

open Http.Exchange (Sends)

namespace JobTarget

/-- Whether the id of a target is one that the reader of URLs carries out, `.` or `..`. -/
def HasDots (target : JobTarget) : Prop :=
  target.id = "." ∨ target.id = ".."

/-- The segments that all jobs are below at the default version of the API. -/
def root : List String :=
  ["services", "data", "v62.0", "jobs"]

/-- The segments of the part of a target: none for the job itself. -/
def partSegments (target : JobTarget) : List String :=
  (target.part.map (·.path)).toList

/-- The segments from which the URL of a target is written: the family, the id, encoded, and the
part. -/
def written (target : JobTarget) : List String :=
  root ++ [target.kind.path] ++ Percent.encodeSegment target.id :: target.partSegments

/-- The segments to which the URL of a target leads when the reader of URLs has carried out the dots
of the id. -/
def segments (target : JobTarget) : List String :=
  if target.id = ".." then root ++ [target.partSegments.headD ""]
  else if target.id = "." then root ++ [target.kind.path, target.partSegments.headD ""]
  else target.written

/-- Whether a path is that of a target: below the family one segment that stands for the id, and
then the part. -/
def IsAt (target : JobTarget) (path : UrlPath) : Prop :=
  ∃ segment, path = .segments (root ++ [target.kind.path] ++ segment :: target.partSegments) ∧
    Percent.decode (Utf8.encode segment) = Utf8.encode target.id

/-! ### Names in the URLs of jobs -/

theorem isPlainSegment_family (kind : JobKind) :
    ∀ segment ∈ root ++ [kind.path], Url.IsPlainSegment segment := by
  cases kind <;> decide

theorem kept_family (kind : JobKind) : ∀ segment ∈ root ++ [kind.path],
    Url.isDoubleDot segment = false ∧ Url.isSingleDot segment = false := by
  cases kind <;> decide

theorem isPlainSegment_part (part : JobPart) : Url.IsPlainSegment part.path := by
  rcases part with _ | (_ | _ | _) | _ <;> decide

theorem kept_part (part : JobPart) :
    Url.isDoubleDot part.path = false ∧ Url.isSingleDot part.path = false := by
  rcases part with _ | (_ | _ | _) | _ <;> decide

theorem part_injective : Function.Injective JobPart.path := by
  rintro (_ | (_ | _ | _) | _) (_ | (_ | _ | _) | _) h <;>
    first
    | rfl
    | exact absurd h (by decide)

theorem isPlainSegment_written (target : JobTarget) :
    ∀ segment ∈ target.written, Url.IsPlainSegment segment := by
  intro segment hsegment
  rcases List.mem_append.mp hsegment with hfamily | hrest
  · exact isPlainSegment_family target.kind segment hfamily
  · rcases List.mem_cons.mp hrest with rfl | hpart
    · exact Url.isPlainSegment_encodeSegment target.id
    · rw [partSegments, Option.mem_toList, Option.map_eq_some_iff] at hpart
      obtain ⟨part, -, rfl⟩ := hpart
      exact isPlainSegment_part part

/-! ### Carrying out the dots -/

theorem segments_of_not_hasDots {target : JobTarget} (hdots : ¬target.HasDots) :
    target.segments = target.written := by
  obtain ⟨hsingle, hdouble⟩ := not_or.mp hdots
  rw [segments, if_neg hdouble, if_neg hsingle]

theorem kept_written {target : JobTarget} (hdots : ¬target.HasDots) : ∀ segment ∈ target.written,
    Url.isDoubleDot segment = false ∧ Url.isSingleDot segment = false := by
  obtain ⟨hsingle, hdouble⟩ := not_or.mp hdots
  intro segment hsegment
  rcases List.mem_append.mp hsegment with hfamily | hrest
  · exact kept_family target.kind segment hfamily
  rcases List.mem_cons.mp hrest with rfl | hpart
  · rw [← Bool.not_eq_true, ← Bool.not_eq_true, Url.isDoubleDot_encodeSegment,
      Url.isSingleDot_encodeSegment]
    exact ⟨hdouble, hsingle⟩
  · rw [partSegments, Option.mem_toList, Option.map_eq_some_iff] at hpart
    obtain ⟨part, -, rfl⟩ := hpart
    exact kept_part part

/-- Reading the segments of a target carries out the dots of the id (`HasDots`), and changes nothing
else below the family. -/
theorem carryOutDots_written (target : JobTarget) :
    Url.carryOutDots [] target.written = target.segments := by
  by_cases hdots : target.HasDots
  · obtain ⟨kind, id, part⟩ := target
    rcases hdots with rfl | rfl
    · rcases kind with _ | _ <;> rcases part with _ | _ | (_ | _ | _) | _ <;> decide +kernel
    · rcases kind with _ | _ <;> rcases part with _ | _ | (_ | _ | _) | _ <;> decide +kernel
  · rw [segments_of_not_hasDots hdots]
    exact Url.carryOutDots_of_kept (kept_written hdots)

/-- The path to which the URL of a target leads is that of the target (`IsAt`) exactly when its id
is no dot segment. -/
theorem isAt_segments (target : JobTarget) :
    target.IsAt (.segments target.segments) ↔ ¬target.HasDots := by
  constructor
  · rintro ⟨segment, heq, hdecode⟩ hdots
    obtain ⟨kind, id, part⟩ := target
    have hsegments := UrlPath.segments.inj heq
    have hlength := congrArg List.length hsegments
    rcases hdots with rfl | rfl
    · cases part with
      | none =>
        have hempty : segment = "" := by
          simpa [segments, partSegments, eq_comm] using hsegments
        have hdot : Percent.decode (Utf8.encode "") ≠ Utf8.encode "." := by decide
        rw [hempty] at hdecode
        exact absurd hdecode hdot
      | some part => simp [segments, partSegments] at hlength
    · simp [segments] at hlength
  · intro hdots
    rw [segments_of_not_hasDots hdots]
    exact ⟨Percent.encodeSegment target.id, rfl, Percent.decode_encodeSegment target.id⟩

/-- Two targets of one family (`hkind`) whose URLs lead to the same path are the same, unless one of
their ids is a dot segment. -/
theorem segments_injective {first second : JobTarget} (hkind : first.kind = second.kind)
    (hfirst : ¬first.HasDots) (hsecond : ¬second.HasDots)
    (hsegments : first.segments = second.segments) : first = second := by
  rw [segments_of_not_hasDots hfirst, segments_of_not_hasDots hsecond] at hsegments
  obtain ⟨kind, id, part⟩ := first
  obtain ⟨kind', id', part'⟩ := second
  obtain rfl : kind = kind' := hkind
  obtain ⟨hsegment, hpart⟩ := List.cons.inj (List.append_cancel_left hsegments)
  obtain rfl : id = id' := Percent.encodeSegment_injective hsegment
  have hpaths : part.map (·.path) = part'.map (·.path) := by
    simpa [partSegments] using congrArg List.head? hpart
  obtain rfl : part = part' := Option.map_injective part_injective hpaths
  rfl

/-! ### The URL of a target -/

/-- At the default version of the API (`hversion`) the URL of a job is the instance URL with the
segments of the job written behind it. -/
theorem jobUrl_eq {client : Client} (hversion : client.org.apiVersion = defaultApiVersion)
    (kind : JobKind) (id : String) :
    client.jobUrl kind id = client.org.instanceUrl ++
      .ofList (UrlPath.segments (root ++ [kind.path] ++ [Percent.encodeSegment id])).write := by
  have hroot : Org.jobsRoot client.org.apiVersion = root := by
    rw [hversion]
    decide
  have hbelow : '/' :: (Text.trimStartChars ['/']
      (kind.path ++ "/" ++ Percent.encodeSegment id)).toList =
        (UrlPath.segments [kind.path, Percent.encodeSegment id]).write := by
    rw [String.append_assoc, kind.trimStartChars_path]
    simp [UrlPath.write]
  rw [Client.jobUrl, Org.jobsUrl_eq hbelow, hroot, List.append_assoc]
  rfl

/-- At the default version of the API (`hversion`) the URL of a target is the instance URL with its
segments written behind it. -/
theorem url_eq (target : JobTarget) {client : Client}
    (hversion : client.org.apiVersion = defaultApiVersion) :
    target.url client =
      client.org.instanceUrl ++ .ofList (UrlPath.segments target.written).write := by
  obtain ⟨kind, id, part⟩ := target
  cases part with
  | none => exact jobUrl_eq hversion kind id
  | some part =>
    have hwrite : (UrlPath.segments (written ⟨kind, id, some part⟩)).write =
        (UrlPath.segments (root ++ [kind.path] ++ [Percent.encodeSegment id])).write ++
          ("/".toList ++ part.path.toList) := by
      simp [UrlPath.write, written, partSegments]
    change client.resourceUrl kind id part.path = _
    rw [Client.resourceUrl, jobUrl_eq hversion, hwrite]
    apply String.toList_inj.mp
    simp only [String.toList_append, String.toList_ofList, List.append_assoc]

end JobTarget

/-! ### What is sent -/

/-- At a plain instance (`hplain`) the URL of a target leads to the segments of the target, and
every message of an operation on the target is for that path, whatever the replies are. -/
theorem sends_segments {client : Client} {scheme place : String}
    (hplain : client.org.IsPlain scheme place)
    (hversion : client.org.apiVersion = defaultApiVersion) (target : JobTarget) :
    (∃ url, Url.parse (client.org.url (target.url client)) = .ok url ∧
        url.path = .segments target.segments) ∧
      ∀ {α : Type} (call : Call α), call.target? = some target → ∀ clock,
        Sends (fun message ↦ message.url.path = .segments target.segments)
          (call.run client clock) := by
  obtain ⟨authority, hparse⟩ := hplain.parse_segments
  have hread := hparse target.written (by simp [JobTarget.written])
    target.isPlainSegment_written
  rw [← target.url_eq hversion, target.carryOutDots_written] at hread
  refine ⟨⟨_, hread, rfl⟩, fun call htarget clock ↦ ?_⟩
  refine call.sends clock fun path hpath request hrequest message hprepare ↦ ?_
  rw [hpath target htarget] at hrequest
  obtain ⟨written, own, hwritten, -, -, -, -, rfl⟩ :=
    Http.Request.prepare_eq_ok_iff.mp hprepare
  rw [hrequest, hread] at hwritten
  cases hwritten
  exact Http.Request.destination_path request _

/-- At a plain instance with the default API version, the URL of a target can be read, and where it
leads is where every operation on the target sends its messages. That is the path of the target, the
id in one segment of its own, exactly when the id is no dot segment; and then no other target of the
family has the same path, unless its id is one. -/
theorem addresses_iff {client : Client} {scheme place : String}
    (hplain : client.org.IsPlain scheme place)
    (hversion : client.org.apiVersion = defaultApiVersion) (target : JobTarget) :
    (∃ url, Url.parse (client.org.url (target.url client)) = .ok url ∧
        url.path = .segments target.segments) ∧
      (∀ {α : Type} (call : Call α), call.target? = some target → ∀ clock,
        Sends (fun message ↦ message.url.path = .segments target.segments)
          (call.run client clock)) ∧
      (target.IsAt (.segments target.segments) ↔ target.id ≠ "." ∧ target.id ≠ "..") ∧
      ∀ other : JobTarget, other.kind = target.kind → other ≠ target →
        ¬target.HasDots → ¬other.HasDots → other.segments ≠ target.segments := by
  obtain ⟨hurl, hsends⟩ := sends_segments hplain hversion target
  refine ⟨hurl, hsends, ?_, ?_⟩
  · rw [target.isAt_segments]
    exact not_or
  · intro other hkind hne hdots hother hsegments
    exact hne (JobTarget.segments_injective hkind hother hdots hsegments)

/-- An id with a slash in it, and a part of the job. -/
theorem addresses_slash :
    JobTarget.IsAt ⟨.ingest, "a/b", some .batches⟩
      (.segments ["services", "data", "v62.0", "jobs", "ingest", "a%2Fb", "batches"]) := by
  have hplain : ({ org := Org.sample } : Client).org.IsPlain "http" "[::1]" := Org.sample_isPlain
  have hpath : JobTarget.segments ⟨.ingest, "a/b", some .batches⟩ =
      ["services", "data", "v62.0", "jobs", "ingest", "a%2Fb", "batches"] := by
    decide +kernel
  have haddress := (addresses_iff hplain rfl ⟨.ingest, "a/b", some .batches⟩).2.2.1
  rw [hpath] at haddress
  exact haddress.mpr (by decide)

/-- Deleting the job `..` asks for all jobs to be deleted, and the job `.` is where the job without
an id is. -/
theorem dots_are_carried_out :
    (((Call.delete .ingest "..").run { org := Org.sample } (fun _ ↦ .ofSeconds 0) {}).2.sent.map
        (·.url.path) = [.segments ["services", "data", "v62.0", "jobs", ""]]) ∧
      ¬JobTarget.IsAt ⟨.ingest, "..", none⟩
        (.segments ["services", "data", "v62.0", "jobs", ""]) ∧
      JobTarget.segments ⟨.ingest, ".", none⟩ = JobTarget.segments ⟨.ingest, "", none⟩ := by
  refine ⟨?_, ?_, ?_⟩
  · decide +kernel
  · rintro ⟨segment, hsegments, -⟩
    have hlength := congrArg List.length (UrlPath.segments.inj hsegments)
    simp [JobTarget.root, JobTarget.partSegments] at hlength
  · decide +kernel

end BulkJobs
