import BulkJobs.Proofs.Http.Process

/-!
# Running a sequence of computations

A computation over a network takes a state of the network to a result and another state. In a
sequence the second computation starts where the first one ended, and is left out when that failed.
A process that may fail is such a computation when no other one takes turns with it
(`Exchange.alone`), and a sequence of processes is the sequence of the computations.
-/

set_option autoImplicit false
set_option relaxedAutoImplicit false

namespace BulkJobs.Http.Exchange

variable {ε ε' α β : Type} {x : Exchange ε α} {f : α → Exchange ε β}

theorem bind_of_ok {traffic traffic' : Traffic} {a : α} (hx : x traffic = (.ok a, traffic')) :
    (x >>= f) traffic = f a traffic' := by
  change ExceptT.bindCont f (x traffic).1 (x traffic).2 = _
  rw [hx]
  rfl

theorem bind_of_error {traffic traffic' : Traffic} {failure : ε}
    (hx : x traffic = (.error failure, traffic')) :
    (x >>= f) traffic = (.error failure, traffic') := by
  change ExceptT.bindCont f (x traffic).1 (x traffic).2 = _
  rw [hx]
  rfl

theorem ofExcept_bind_of_ok {result : Except ε α} {a : α} (h : result = .ok a)
    (traffic : Traffic) : (Exchange.ofExcept result >>= f) traffic = f a traffic := by
  rw [h]
  rfl

theorem ofExcept_bind_of_error {result : Except ε α} {failure : ε} (h : result = .error failure)
    (traffic : Traffic) :
    (Exchange.ofExcept result >>= f) traffic = (.error failure, traffic) := by
  rw [h]
  rfl

theorem map_apply (g : α → β) (x : Exchange ε α) (traffic : Traffic) :
    (g <$> x) traffic = ((x traffic).1.map g, (x traffic).2) := by
  rw [← bind_pure_comp]
  cases hx : x traffic with
  | mk result after =>
    cases result with
    | error failure => exact bind_of_error hx
    | ok value => exact bind_of_ok hx

theorem attempt_of_run {traffic traffic' : Traffic} {result : Except ε α}
    (hx : x traffic = (result, traffic')) :
    (x.attempt : Exchange ε' (Except ε α)) traffic = (.ok result, traffic') := by
  unfold attempt
  rw [hx]

/-- The computation that a process is when it is carried out without a break: `Process.run`, with
the result in place of a value that may be a failure. -/
def alone (steps : ExceptT ε Process α) : Exchange ε α :=
  fun traffic ↦ steps.run.run traffic

theorem alone_bind (steps : ExceptT ε Process α) (next : α → ExceptT ε Process β) :
    alone (steps >>= next) = alone steps >>= fun a ↦ alone (next a) := by
  funext traffic
  have hrun : alone (steps >>= next) traffic = _ := Process.run_bind steps.run _ traffic
  rw [hrun]
  cases hfirst : alone steps traffic with
  | mk result after =>
    have hsteps : steps.run.run traffic = (result, after) := hfirst
    rw [hsteps]
    cases result with
    | error failure => exact (bind_of_error hfirst).symm
    | ok a =>
      rw [bind_of_ok hfirst]
      rfl

theorem alone_map (f : α → β) (steps : ExceptT ε Process α) :
    alone (f <$> steps) = f <$> alone steps := by
  rw [← bind_pure_comp, ← bind_pure_comp]
  exact alone_bind steps _

end BulkJobs.Http.Exchange
