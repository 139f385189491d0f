import BulkJobs.Proofs.Http.Delivery

/-!
# What a computation sends

All that a computation does on a network is to have messages delivered, one after another, whatever
the replies are and however it ends. `Sends P x` says that each of these messages has the property
`P`; the redirects that are followed for a message belong to its delivery. The property is carried
through the ways to build computations, so for a computation that is built from requests it is
enough that `P` holds of every message a request becomes (`Sends.execute`).
-/

set_option autoImplicit false
set_option relaxedAutoImplicit false

namespace BulkJobs.Http.Exchange

variable {ε ε' α β : Type} {x : Exchange ε α} {f : α → Exchange ε β}

/-- Whether a computation, from whatever state of the network on, does nothing there but have
messages with a property delivered. -/
def Sends (P : Message → Prop) (x : Exchange ε α) : Prop :=
  ∀ traffic, ∃ received, Received traffic received (x traffic).2 ∧
    ∀ delivery ∈ received, P delivery.message

namespace Sends

variable {P : Message → Prop}

/-- A computation that leaves the network alone (`h`) has no message delivered, so it sends nothing
but messages with any property. -/
theorem of_silent (h : ∀ traffic, (x traffic).2 = traffic) : Sends P x := by
  intro traffic
  refine ⟨[], ?_, by simp⟩
  rw [h]
  exact .nil traffic

theorem pure (a : α) : Sends P (Pure.pure a : Exchange ε α) :=
  of_silent fun _ ↦ rfl

theorem throw (failure : ε) : Sends P (MonadExcept.throw failure : Exchange ε α) :=
  of_silent fun _ ↦ rfl

theorem ofExcept (result : Except ε α) : Sends P (Exchange.ofExcept result) :=
  of_silent fun _ ↦ rfl

theorem get : Sends P (MonadState.get : Exchange ε Traffic) :=
  of_silent fun _ ↦ rfl

theorem bind (hx : Sends P x) (hf : ∀ a, Sends P (f a)) : Sends P (x >>= f) := by
  intro traffic
  obtain ⟨before, hbefore, hallBefore⟩ := hx traffic
  cases hrun : x traffic with
  | mk result traffic' =>
    rw [hrun] at hbefore
    cases result with
    | error failure =>
      rw [bind_of_error hrun]
      exact ⟨before, hbefore, hallBefore⟩
    | ok a =>
      obtain ⟨after, hafter, hallAfter⟩ := hf a traffic'
      rw [bind_of_ok hrun]
      exact ⟨before ++ after, hbefore.append hafter,
        List.forall_mem_append.mpr ⟨hallBefore, hallAfter⟩⟩

theorem mapFailure (g : ε → ε') (hx : Sends P x) : Sends P (x.mapFailure g) := hx

theorem attempt (hx : Sends P x) : Sends P (x.attempt : Exchange ε' (Except ε α)) := hx

/-- A request sends the message it becomes, if it becomes one; so it is enough that every such
message has the property (`h`). -/
theorem execute {config : Config} {request : Request}
    (h : ∀ message, request.prepare config = .ok message → P message) :
    Sends P (Http.execute config request) := by
  intro traffic
  cases hprepare : request.prepare config with
  | error failure =>
    rw [execute_of_error hprepare]
    exact ⟨[], .nil traffic, by simp⟩
  | ok message =>
    obtain ⟨delivery, traffic', rfl, hreceived, hrun⟩ := execute_delivers hprepare traffic
    rw [hrun]
    exact ⟨[delivery], hreceived, List.forall_mem_singleton.mpr (h _ hprepare)⟩

theorem executeJson {config : Config} {request : Request} {decode : Json.Decoder α}
    (h : ∀ message, request.prepare config = .ok message → P message) :
    Sends P (Http.executeJson config decode request) :=
  bind (execute h) fun response ↦ ofExcept (response.readJson decode)

end Sends

end BulkJobs.Http.Exchange
