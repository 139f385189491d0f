import BulkJobs.Proofs.Http.Delivery
import BulkJobs.Proofs.Http.Preparing

/-!
# What is received

Of the replies that end a delivery some arrive, at least their heads, and lead nowhere else; these
bring a status (`Delivery.Brings`). A reply that brings no success is answered with a failure of the
same status, whatever its headers and its body are (`Delivery.answer_of_brings`), and a failure has
a status only when a reply has brought it (`Delivery.brings_of_answer`). A request that can be built
is one delivery, and one that cannot fails without a status (`execute_cases`).
-/

set_option autoImplicit false
set_option relaxedAutoImplicit false

namespace BulkJobs.Http

/-! ### Statuses of refusals -/

theorem status?_refusal (status : Nat) (body : String) :
    (refusal status body).status? = some status := by
  unfold refusal
  split_ifs with hlimited
  · rw [beq_iff_eq.mp hlimited]
    rfl
  · cases ErrorRecord.ofBody? body with
    | some record => rfl
    | none =>
      simp only
      split <;> rfl

/-- A response that is no success is a failure with its status, whatever its headers and its body
are. -/
theorem Response.accept_of_refused {response : Response} (hrefused : response.isSuccess = false) :
    ∃ failure, response.accept = .error failure ∧ failure.status? = some response.status := by
  unfold Response.accept
  rw [if_neg (by rw [hrefused]; decide)]
  simp only
  split
  · rename_i wait hlimited
    exact ⟨_, rfl, (congrArg FailureKind.status? hlimited).symm.trans (status?_refusal _ _)⟩
  · exact ⟨_, rfl, status?_refusal _ _⟩

/-! ### Statuses of deliveries -/

namespace Delivery

variable {delivery : Delivery} {status : Nat}

/-- Whether the last reply of a delivery arrives, at least its head, and brings a certain status; it
is then no redirect that is left alone as one too many. -/
def Brings (delivery : Delivery) (status : Nat) : Prop :=
  ∃ response, delivery.arrival = .ok response ∧ response.status = status

/-- A reply that leads nowhere else (`hfinal`) brings its status as soon as its head arrives
(`harrives`). -/
theorem brings_of_isFinal (harrives : delivery.reply.arrives = true)
    (hfinal : delivery.reply.isFinal = true) : delivery.Brings delivery.reply.status :=
  ⟨_, arrival_eq_ok_iff.mpr ⟨harrives, Message.redirection?_of_isFinal hfinal, rfl⟩, rfl⟩

theorem answer_of_brings (hbrings : delivery.Brings status)
    (hrefused : ¬(200 ≤ status ∧ status ≤ 299)) :
    ∃ failure, delivery.answer = .error failure ∧ failure.status? = some status := by
  obtain ⟨response, harrival, rfl⟩ := hbrings
  have hno : response.isSuccess = false := by
    rw [Response.isSuccess, ← Bool.decide_and]
    exact decide_eq_false hrefused
  rw [answer, harrival]
  exact Response.accept_of_refused hno

theorem brings_of_answer {failure : Failure} (hanswer : delivery.answer = .error failure)
    (hstatus : failure.status? = some status) : delivery.Brings status := by
  rw [answer] at hanswer
  cases harrival : delivery.arrival with
  | error lost =>
    rw [harrival] at hanswer
    obtain rfl : lost = failure := Except.error.inj hanswer
    unfold arrival at harrival
    simp only at harrival
    split at harrival
    · cases harrival
      cases hstatus
    · cases harrival
      cases hstatus
    · cases harrival
      cases hstatus
    · split at harrival
      · split_ifs at harrival <;> cases harrival <;> cases hstatus
      · cases harrival
  | ok response =>
    rw [harrival] at hanswer
    have haccept : response.accept = .error failure := hanswer
    cases hsuccess : response.isSuccess with
    | true =>
      rw [Response.accept, if_pos hsuccess] at haccept
      cases haccept
    | false =>
      obtain ⟨refused, hrefused, hown⟩ := Response.accept_of_refused hsuccess
      obtain rfl : refused = failure := Except.error.inj (hrefused.symm.trans haccept)
      exact ⟨response, harrival, Option.some.inj (hown.symm.trans hstatus)⟩

end Delivery

/-! ### Requests -/

/-- Where the next reply is for anyone (`honly`) and leads nowhere else (`hfinal`), the first
delivery ends with that reply, without redirects, and the others go on behind it. -/
theorem Received.of_reply {reply : Reply} {replies : List Reply} {sent : List Message}
    {delivery : Delivery} {received : List Delivery} {traffic' : Traffic}
    (honly : reply.only = none) (hfinal : reply.isFinal = true)
    (h : Received ⟨true, reply :: replies, sent⟩ (delivery :: received) traffic') :
    delivery = ⟨delivery.message, [], reply⟩ ∧
      Received ⟨true, replies, sent ++ delivery.messages⟩ received traffic' := by
  obtain ⟨hall, hpassed⟩ := h
  obtain ⟨hfirst, hrest⟩ := List.forall_mem_cons.mp hall
  rw [List.flatMap_cons] at hpassed
  have hpass := pass_of_isFor (by rw [Reply.isFor, honly] : reply.isFor delivery.message = true)
    replies sent
  obtain ⟨taken, later, hhops⟩ := delivery.exists_hops_eq
  rw [hhops, List.cons_append] at hpassed
  cases hpassed with
  | cons hown hmore =>
    obtain ⟨rfl, rfl⟩ := Prod.mk.inj (hpass.symm.trans hown)
    generalize hmessage : delivery.message = message at hfirst hhops hmore
    cases hfirst with
    | last hend =>
      cases hhops
      exact ⟨rfl, hrest, hmore⟩
    | redirect hnext hfollowed =>
      rw [Delivery.hops_behind] at hhops
      cases hhops
      rw [Message.next?_of_isFinal hfinal] at hnext
      cases hnext

/-- A request that cannot be built fails without a status, and the network stays as it is; one that
can is answered with what its one delivery is answered with. -/
theorem execute_cases (config : Config) (request : Request) (traffic : Traffic) :
    (∃ failure, failure.status? = none ∧ request.prepare config = .error failure ∧
      execute config request traffic = (.error failure, traffic)) ∨
    ∃ delivery traffic', request.prepare config = .ok delivery.message ∧
      Received traffic [delivery] traffic' ∧
      execute config request traffic = (delivery.answer, traffic') := by
  cases hprepare : request.prepare config with
  | error failure =>
    exact .inl ⟨failure, Request.status?_of_prepare hprepare, rfl,
      execute_of_error hprepare traffic⟩
  | ok message =>
    obtain ⟨delivery, traffic', rfl, hreceived, hrun⟩ := execute_delivers hprepare traffic
    exact .inr ⟨delivery, traffic', rfl, hreceived, hrun⟩

end BulkJobs.Http
