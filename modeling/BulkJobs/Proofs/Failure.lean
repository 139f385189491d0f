import BulkJobs.Failure
import Mathlib.Tactic.SplitIfs

/-!
# Sorting failures

The client sorts the failures of its requests by their status and by nothing else, as far as they
have one (`Failure.kindOfHttp_of_status`). The status itself is kept (`Failure.status?_ofHttp`), so
that what a failure says of itself agrees with the reply it goes back to (`Failure.Refuses`,
`Failure.refuses_ofHttp`).
-/

set_option autoImplicit false
set_option relaxedAutoImplicit false

namespace BulkJobs.Failure

theorem kindOfHttp_of_status {kind : Http.FailureKind} {status : Nat}
    (hstatus : kind.status? = some status) :
    kindOfHttp kind =
      if status = 404 then .notFound kind.message
      else if status = 400 then .invalidRequest (some 400) kind.message
      else if status = 401 ∨ status = 403 then .auth (some status) kind.message
      else .service status kind.message := by
  unfold kindOfHttp
  rw [hstatus]
  simp only [beq_iff_eq, Bool.or_eq_true]

/-- Sorting the failure of a request for the jobs keeps its status, or keeps it without one. -/
theorem status?_ofHttp (failure : Http.Failure) : (ofHttp failure).status? = failure.status? := by
  change Failure.status? ⟨kindOfHttp failure.kind, true⟩ = failure.kind.status?
  cases hstatus : failure.kind.status? with
  | none =>
    unfold kindOfHttp
    rw [hstatus]
    cases failure.kind <;> rfl
  | some status =>
    rw [kindOfHttp_of_status hstatus]
    split_ifs with hmissing hinvalid hauth
    · rw [hmissing]
      rfl
    · rw [hinvalid]
      rfl
    · rfl
    · rfl

/-- Whether a failure says that the service refused with a certain status, in each of the ways in
which a caller can ask: by its status, as not found, and by the kind it is sorted into. -/
structure Refuses (failure : Failure) (status : Nat) : Prop where
  status?_eq : failure.status? = some status
  isNotFound_iff : failure.isNotFound = true ↔ status = 404
  notFound_iff : (∃ detail, failure.kind = .notFound detail) ↔ status = 404
  invalidRequest_iff : (∃ own detail, failure.kind = .invalidRequest own detail) ↔ status = 400
  auth_iff : (∃ own detail, failure.kind = .auth own detail) ↔ status = 401 ∨ status = 403
  service_iff : (∃ own detail, failure.kind = .service own detail) ↔
    ¬(status = 404 ∨ status = 400 ∨ status = 401 ∨ status = 403)

theorem refuses_ofHttp {failure : Http.Failure} {status : Nat}
    (hstatus : failure.status? = some status) : (ofHttp failure).Refuses status := by
  have hown : (ofHttp failure).status? = some status := (status?_ofHttp failure).trans hstatus
  have hkind : (ofHttp failure).kind = _ := kindOfHttp_of_status hstatus
  split_ifs at hkind with hmissing hinvalid hauth
  · constructor <;> simp [isNotFound, hkind, hown, hmissing]
  · constructor <;> simp [isNotFound, hkind, hown, hinvalid]
  · constructor <;> simp [isNotFound, hkind, hown, hmissing, hinvalid, hauth]
  · constructor <;> simp [isNotFound, hkind, hown, hmissing, hinvalid, hauth]

end BulkJobs.Failure
