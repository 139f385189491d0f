import BulkJobs.Proofs.Client.Refusal
import BulkJobs.Proofs.Http.Redaction

/-!
# What failures show of secrets

The message of a refusal is put together from fixed words, the status, and what the service said.
Blanks stand between them, and no secret has a blank, so a message shows the secrets of its parts
(`IsOpening.showsSecret_append_iff`). Sorting a failure puts words and a blank before its message
(`Failure.showsSecret_ofHttp_iff`).

What the service said is sanitized in all places but one: the code of an error record is shown as it
is. `showsSecret_accept_iff` says exactly which refusals show a secret: those whose record has a
code that shows one, and those whose text is cut right behind the mark of a token. There are such
refusals (`code_is_shown`).
-/

set_option autoImplicit false
set_option relaxedAutoImplicit false

namespace BulkJobs

open Http (ErrorRecord Response refusal)
open Http.Redaction (IsCutAtMark IsSecret IsUnmarked ShowsPart ShowsSecret sanitize)

/-! ### Parts of messages -/

theorem isUnmarked_toDigits (n : Nat) : IsUnmarked (Nat.toDigits 10 n) := by
  intro c hc
  have hdigit : c.isDigit = true := Nat.isDigit_of_mem_toDigits (by omega) (by omega) hc
  constructor
  · rintro rfl
    revert hdigit
    decide
  · rintro rfl
    revert hdigit
    decide

theorem isUnmarked_toString (n : Nat) : IsUnmarked (toString n).toList := by
  change IsUnmarked n.repr.toList
  rw [Nat.toList_repr]
  exact isUnmarked_toDigits n

theorem isUnmarked_decimal (n places : Nat) : IsUnmarked (Span.decimal n places) := by
  unfold Span.decimal
  simp only
  split
  · exact isUnmarked_toDigits _
  · refine (isUnmarked_toDigits _).append fun c hc ↦ ?_
    rcases List.mem_cons.mp hc with rfl | hc
    · decide
    · have hpadded := (List.dropWhile_sublist _).subset (List.mem_reverse.mp hc)
      rcases List.mem_append.mp (List.mem_reverse.mp hpadded) with hzero | hdigit
      · rw [List.eq_of_mem_replicate hzero]
        decide
      · exact isUnmarked_toDigits _ c hdigit

theorem isUnmarked_describe (span : Span) : IsUnmarked span.describe.toList := by
  unfold Span.describe
  simp only
  split_ifs <;> rw [String.toList_ofList] <;> exact (isUnmarked_decimal _ _).append (by decide)

theorem isUnmarked_append {left right : String} (hleft : IsUnmarked left.toList)
    (hright : IsUnmarked right.toList) : IsUnmarked (left ++ right).toList := by
  rw [String.toList_append]
  exact hleft.append hright

/-- Whether a text has no marks and ends in a blank, so that no secret reaches from it into what
stands behind it. -/
def IsOpening (words : String) : Prop :=
  IsUnmarked words.toList ∧ words.toList.getLast? = some ' '

instance : DecidablePred IsOpening :=
  fun words ↦ inferInstanceAs (Decidable (IsUnmarked words.toList ∧ _))

theorem IsOpening.behind {left right : String} (hleft : IsUnmarked left.toList)
    (hright : IsOpening right) : IsOpening (left ++ right) := by
  refine ⟨isUnmarked_append hleft hright.1, ?_⟩
  rw [String.toList_append, List.getLast?_append, hright.2]
  rfl

/-- What stands behind an opening (`hwords`) shows the secrets of the whole, no more and no less. -/
theorem IsOpening.showsSecret_append_iff {words : String} (hwords : IsOpening words)
    (text : String) : ShowsSecret (words ++ text) ↔ ShowsSecret text := by
  obtain ⟨hmarks, hblank⟩ := hwords
  obtain ⟨before, hbefore⟩ := List.getLast?_eq_some_iff.mp hblank
  have hunmarked : IsUnmarked before := fun c hc ↦
    hmarks c (hbefore ▸ List.mem_append_left [' '] hc)
  unfold ShowsSecret
  rw [String.toList_append, hbefore, List.append_assoc, List.singleton_append,
    Http.Redaction.shows_append_cons_iff (by decide), or_iff_right hunmarked.not_shows]

theorem showsSecret_dash_iff (left right : String) :
    ShowsSecret (left ++ " - " ++ right) ↔ ShowsSecret left ∨ ShowsSecret right := by
  have hdash : IsOpening "- " := by decide
  have hright : ShowsPart IsSecret ("- " ++ right).toList ↔ ShowsPart IsSecret right.toList :=
    hdash.showsSecret_append_iff right
  have hsplit : (left ++ " - " ++ right).toList = left.toList ++ ' ' :: ("- " ++ right).toList := by
    rw [String.toList_append, String.toList_append, String.toList_append, List.append_assoc]
    rfl
  unfold ShowsSecret
  rw [hsplit, Http.Redaction.shows_append_cons_iff (by decide), hright]

/-- Sorting the failure of a refusal (`hstatus`) does not change the secrets it shows, as only words
without marks are put before its message. -/
theorem Failure.showsSecret_ofHttp_iff {failure : Http.Failure} {status : Nat}
    (hstatus : failure.status? = some status) :
    ShowsSecret (Failure.ofHttp failure).message ↔ ShowsSecret failure.message := by
  have hkind : (Failure.ofHttp failure).kind = _ := Failure.kindOfHttp_of_status hstatus
  unfold Failure.message
  split_ifs at hkind with hmissing hinvalid hauth <;> rw [hkind]
  · exact IsOpening.showsSecret_append_iff (by decide) _
  · exact IsOpening.showsSecret_append_iff (by decide) _
  · exact IsOpening.showsSecret_append_iff (by decide) _
  · have hwords : IsUnmarked ("API error (" ++ toString status).toList :=
      isUnmarked_append (by decide) (isUnmarked_toString status)
    exact (IsOpening.behind hwords (by decide)).showsSecret_append_iff _

/-! ### Refusals -/

/-- The text of a refusal that is shown: its body, decoded without fail, and nothing when the body
broke off. -/
def refusalText (response : Response) : String :=
  if response.broken then "" else Utf8.decodeLossy response.body

/-- Whether something that is shown of a refusal shows a secret: the code of its record, or the text
of the service where it is cut. -/
def LeaksSecret (status : Nat) (body : String) : Prop :=
  status ≠ 429 ∧
    match ErrorRecord.ofBody? body with
    | some record => ShowsSecret record.code ∨ IsCutAtMark record.detail
    | none => IsCutAtMark body

theorem showsSecret_service_iff (status : Nat) (code detail : String) (fields : List String) :
    ShowsSecret (Http.FailureKind.service status code detail fields).message ↔
      ShowsSecret code ∨ ShowsSecret detail := by
  have hwords : IsUnmarked ("Salesforce API error (" ++ toString status).toList :=
    isUnmarked_append (by decide) (isUnmarked_toString status)
  have hopening : IsOpening ("Salesforce API error (" ++ toString status ++ "): ") :=
    IsOpening.behind hwords (by decide)
  exact (showsSecret_dash_iff _ detail).trans
    (or_congr_left (hopening.showsSecret_append_iff code))

/-- The message of a refusal that is no rate limit (`hstatus`) shows a secret exactly when its code
or its cut text does (`LeaksSecret`). -/
theorem showsSecret_refusal_iff {status : Nat} (hstatus : status ≠ 429) (body : String) :
    ShowsSecret (refusal status body).message ↔ LeaksSecret status body := by
  unfold LeaksSecret
  rw [and_iff_right hstatus]
  unfold refusal
  rw [if_neg (by simpa using hstatus)]
  cases ErrorRecord.ofBody? body with
  | some record =>
    exact (showsSecret_service_iff status record.code _ record.fields).trans
      (or_congr_right (Http.Redaction.showsSecret_sanitize_iff record.detail))
  | none =>
    have hbody := Http.Redaction.showsSecret_sanitize_iff body
    simp only
    split
    · exact (IsOpening.showsSecret_append_iff (by decide) _).trans hbody
    · exact (IsOpening.showsSecret_append_iff (by decide) _).trans hbody
    · exact (IsOpening.showsSecret_append_iff (by decide) _).trans hbody
    · have hwords : IsUnmarked ("HTTP error: " ++ toString status).toList :=
        isUnmarked_append (by decide) (isUnmarked_toString status)
      exact ((IsOpening.behind hwords (by decide)).showsSecret_append_iff _).trans hbody

theorem accept_eq {response : Response} (hrefused : response.isSuccess = false) :
    response.accept = match refusal response.status (refusalText response) with
      | .rateLimited _ => .error (.plain (.rateLimited response.retryAfter?))
      | kind => .error (.plain kind) := by
  unfold Response.accept refusalText Response.readText Response.readBytes
  rw [if_neg (by rw [hrefused]; decide)]
  cases response.broken <;> rfl

/-- A refusal is either a rate limit, which keeps no text of the service, or is sorted by its status
and its text. -/
theorem kind_of_accept {response : Response} {failure : Http.Failure}
    (hrefused : response.isSuccess = false) (haccept : response.accept = .error failure) :
    response.status = 429 ∧ failure.kind = .rateLimited response.retryAfter? ∨
      response.status ≠ 429 ∧
        failure.kind = refusal response.status (refusalText response) := by
  have hstatus := Http.status?_refusal response.status (refusalText response)
  rw [accept_eq hrefused] at haccept
  by_cases hlimited : response.status = 429
  · have hrefusal : refusal response.status (refusalText response) = .rateLimited none := by
      rw [refusal, if_pos (by simpa using hlimited)]
    rw [hrefusal] at haccept
    cases haccept
    exact .inl ⟨hlimited, rfl⟩
  · split at haccept
    · rename_i wait hwait
      rw [hwait] at hstatus
      exact absurd (Option.some.inj hstatus).symm hlimited
    · cases haccept
      exact .inr ⟨hlimited, rfl⟩

theorem isUnmarked_rateLimited (wait : Option Span) :
    IsUnmarked (Http.FailureKind.rateLimited wait).message.toList := by
  cases wait with
  | none => decide
  | some wait =>
    have hmessage : (Http.FailureKind.rateLimited (some wait)).message =
        "Rate limited, retry after " ++ wait.describe := rfl
    rw [hmessage]
    exact isUnmarked_append (by decide) (isUnmarked_describe wait)

/-- Exactly these refusals show a secret, as failures of requests and of operations alike: those
that are no rate limit and have an error record whose code shows a secret, and those whose text is
cut behind the mark of an access token. -/
theorem showsSecret_accept_iff {response : Response} (hrefused : response.isSuccess = false) :
    ∃ failure, response.accept = .error failure ∧
      (ShowsSecret failure.message ↔
        LeaksSecret response.status (refusalText response)) ∧
      (ShowsSecret (Failure.ofHttp failure).message ↔
        LeaksSecret response.status (refusalText response)) := by
  obtain ⟨failure, haccept, hstatus⟩ := Response.accept_of_refused hrefused
  have hhttp : ShowsSecret failure.kind.message ↔
      LeaksSecret response.status (refusalText response) := by
    rcases kind_of_accept hrefused haccept with ⟨hlimited, hkind⟩ | ⟨hother, hkind⟩
    · rw [hkind]
      exact iff_of_false (isUnmarked_rateLimited _).not_shows fun h ↦ h.1 hlimited
    · rw [hkind]
      exact showsSecret_refusal_iff hother _
  exact ⟨failure, haccept, hhttp, (Failure.showsSecret_ofHttp_iff hstatus).trans hhttp⟩

def plainRefusal : Response :=
  { url := "", status := 500, headers := [], broken := false
    body := Utf8.encode "no sid=abcdefghijklmnopqrst" }

theorem plainRefusal_keeps_secret : plainRefusal.isSuccess = false ∧
    ∃ failure, plainRefusal.accept = .error failure ∧ ¬ ShowsSecret failure.message ∧
      ¬ ShowsSecret (Failure.ofHttp failure).message := by
  have hrefused : plainRefusal.isSuccess = false := by decide
  have hplain : ErrorRecord.ofBody? (refusalText plainRefusal) = none := by decide +kernel
  have hshort : Http.Redaction.byteLength
      (Http.Redaction.redact (refusalText plainRefusal).toList) = 17 := by decide +kernel
  have hkept : ¬ LeaksSecret plainRefusal.status (refusalText plainRefusal) := by
    unfold LeaksSecret
    rw [hplain]
    rintro ⟨-, hlong, -⟩
    rw [hshort] at hlong
    revert hlong
    decide
  obtain ⟨failure, haccept, hhttp, hjobs⟩ := showsSecret_accept_iff hrefused
  exact ⟨hrefused, failure, haccept, mt hhttp.mp hkept, mt hjobs.mp hkept⟩

def tellingRefusal : Response :=
  { url := "", status := 400, headers := [], broken := false
    body := Utf8.encode "[\x7b\"errorCode\":\"00D000000000001!AQ\",\"message\":\"m\"\x7d]" }

theorem code_is_shown : tellingRefusal.isSuccess = false ∧
    ∃ failure, tellingRefusal.accept = .error failure ∧ ShowsSecret failure.message ∧
      ShowsSecret (Failure.ofHttp failure).message := by
  have haccept : tellingRefusal.accept =
      .error (.plain (.service 400 "00D000000000001!AQ" "m" [])) := by decide +kernel
  have hcode : ShowsSecret "00D000000000001!AQ" :=
    ⟨_, .inl ⟨"D000000000001".toList, "AQ".toList, rfl, by decide, by decide, by decide, by decide⟩,
      List.infix_rfl⟩
  have hhttp : ShowsSecret
      (Http.Failure.plain (.service 400 "00D000000000001!AQ" "m" [])).message :=
    (showsSecret_service_iff 400 _ "m" []).mpr (.inl hcode)
  exact ⟨by decide, _, haccept, hhttp, (Failure.showsSecret_ofHttp_iff rfl).mpr hhttp⟩

end BulkJobs
