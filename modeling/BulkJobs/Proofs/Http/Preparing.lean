import BulkJobs.Http.Request
import BulkJobs.Proofs.Url.Extension

/-!
# Preparing requests

A request becomes a message exactly when its URL can be read and has a host, its headers are fit to
be sent, and the URL is one of the web that a request line can carry (`prepare_eq_ok_iff`). The URL
of the message is the one that was read, without whoever asks and with the parameters of the request
in its query: path and origin are as they were read.
-/

set_option autoImplicit false
set_option relaxedAutoImplicit false

namespace BulkJobs.Http.Request

/-- The URL a request goes to when its own URL is read as `written`: with its parameters behind
those of the query, and without user name and password. -/
def destination (request : Request) (written : Url) : Url :=
  addQuery (if (urlCredentials? written).isSome then written.withoutUserInfo else written)
    request.query

/-- The message a request becomes when its URL is read as `written` and its own headers are fit:
these headers, completed by the defaults. -/
def messageTo (request : Request) (config : Config) (written : Url) (own : List Header) :
    Message :=
  { method := request.method
    url := request.destination written
    headers := completeHeaders config (request.destination written) request.hasJsonBody own
    body := match request.body with
      | some body => body.encode
      | none => [] }

theorem prepare_eq_ok_iff {config : Config} {request : Request} {message : Message} :
    request.prepare config = .ok message ↔
      ∃ written own, Url.parse request.url = .ok written ∧ written.host?.isSome ∧
        request.ownHeaders? (urlCredentials? written) = some own ∧
        Url.IsWebScheme (request.destination written).scheme ∧
        isCarriable (request.destination written) = true ∧
        message = request.messageTo config written own := by
  unfold prepare
  cases hparse : Url.parse request.url with
  | error problem => simp
  | ok written =>
    have hweb : ¬Url.IsWebScheme (request.destination written).scheme ↔
        ((request.destination written).scheme != "http" &&
          (request.destination written).scheme != "https") = true := by
      simp [Url.IsWebScheme]
    cases hhost : written.host? with
    | none => simp [hhost, throw, throwThe, MonadExceptOf.throw, bind, Except.bind]
    | some host =>
      cases hown : request.ownHeaders? (urlCredentials? written) with
      | none => simp [hhost, hown, throw, throwThe, MonadExceptOf.throw]
      | some own =>
        simp only [hhost, hown, Option.isNone_some, Bool.false_eq_true, if_false]
        change (if ((request.destination written).scheme != "http" &&
            (request.destination written).scheme != "https" ||
            !isCarriable (request.destination written)) = true
          then Except.error (unbuildableFor (request.destination written))
          else Except.ok (request.messageTo config written own)) = .ok message ↔ _
        constructor
        · intro h
          split_ifs at h with hfit
          simp only [Bool.or_eq_true, Bool.not_eq_true', not_or] at hfit
          cases h
          exact ⟨written, own, rfl, by rw [hhost]; rfl, hown, not_not.mp (mt hweb.mp hfit.1),
            Bool.not_eq_false _ ▸ hfit.2, rfl⟩
        · rintro ⟨written', own', hwritten, -, hown', hscheme, hfits, rfl⟩
          cases hwritten
          rw [hown] at hown'
          cases hown'
          rw [if_neg]
          simp only [Bool.or_eq_true, Bool.not_eq_true', not_or]
          exact ⟨fun h ↦ hweb.mpr h hscheme, by rw [hfits]; decide⟩

theorem method_of_prepare {config : Config} {request : Request} {message : Message}
    (hprepare : request.prepare config = .ok message) : message.method = request.method := by
  obtain ⟨written, own, -, -, -, -, -, rfl⟩ := prepare_eq_ok_iff.mp hprepare
  rfl

/-- A request that is unfit to be sent (`hprepare`) was refused by no service, so its failure has no
status. -/
theorem status?_of_prepare {config : Config} {request : Request} {failure : Failure}
    (hprepare : request.prepare config = .error failure) : failure.status? = none := by
  unfold prepare at hprepare
  cases hparse : Url.parse request.url with
  | error problem =>
    rw [hparse] at hprepare
    cases hprepare
    rfl
  | ok written =>
    cases hhost : written.host? with
    | none =>
      simp only [hparse, hhost, Option.isNone_none, if_true] at hprepare
      cases hprepare
      rfl
    | some host =>
      simp only [hparse, hhost, Option.isNone_some, Bool.false_eq_true, if_false] at hprepare
      cases hown : request.ownHeaders? (urlCredentials? written) with
      | none =>
        rw [hown] at hprepare
        cases hprepare
        rfl
      | some own =>
        simp only [hown] at hprepare
        split_ifs at hprepare <;> cases hprepare <;> rfl

/-! ### The parts of the URL that stay -/

theorem destination_path (request : Request) (written : Url) :
    (request.destination written).path = written.path := by
  unfold destination addQuery
  split_ifs <;> rfl

theorem destination_origin? (request : Request) (written : Url) :
    (request.destination written).origin? = written.origin? := by
  have hquery : ∀ url : Url, (addQuery url request.query).origin? = url.origin? := by
    intro url
    unfold addQuery
    split_ifs <;> rfl
  have hwithout : written.withoutUserInfo.origin? = written.origin? := by
    unfold Url.origin? Url.withoutUserInfo
    cases written.authority <;> cases hport : Url.defaultPort? written.scheme <;> simp
  unfold destination
  split_ifs
  · rw [hquery, hwithout]
  · rw [hquery]

end BulkJobs.Http.Request
