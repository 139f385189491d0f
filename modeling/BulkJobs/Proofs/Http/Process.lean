import BulkJobs.Http.Traffic
import Mathlib.Data.List.Basic

/-!
# Processes on a network

A process is told by what it sends and is shown: `Process.Shows` says that it comes to a result when
its messages are answered by certain replies, and `Passed` that these messages pass through a
network one after another, each with the reply that is there for it. Carrying out a process is both
at once (`Process.exists_shows`), and there is one way only in which both can be
(`Process.Shows.run_eq`). Of two processes that take turns, each sends and is shown what it would be
by itself, and what both send and are shown is merged in the order of the turns
(`Process.shows_join_iff`).
-/

set_option autoImplicit false
set_option relaxedAutoImplicit false

namespace BulkJobs.Http

/-! ### Messages on a network -/

/-- Whether messages pass through a network one after another, each by `Traffic.pass`, and meet with
the replies given. The two states are those before the first message and behind the last one. -/
inductive Passed : Traffic → List (Message × Reply) → Traffic → Prop where
  | nil (traffic : Traffic) : Passed traffic [] traffic
  | cons {traffic between traffic' : Traffic} {message : Message} {reply : Reply}
      {hops : List (Message × Reply)} : traffic.pass message = (reply, between) →
      Passed between hops traffic' → Passed traffic ((message, reply) :: hops) traffic'

/-- Whether a reply was among those that were to come, and is used up: it is neither the refusal of
a host nor the reply to a message that no scripted one is meant for. -/
def Reply.IsTaken (reply : Reply) : Prop :=
  reply ≠ .unscripted ∧ reply ≠ .refused

instance (reply : Reply) : Decidable reply.IsTaken :=
  inferInstanceAs (Decidable (_ ∧ _))

theorem Reply.length_take (message : Message) (replies : List Reply) :
    (Reply.take message replies).1 = .unscripted ∧
        (Reply.take message replies).2.length = replies.length ∨
      (Reply.take message replies).2.length + 1 = replies.length := by
  induction replies with
  | nil => exact .inl ⟨rfl, rfl⟩
  | cons reply replies ih =>
    unfold Reply.take
    split
    · exact .inr rfl
    · rcases ih with ⟨hreply, hlength⟩ | hlength
      · exact .inl ⟨hreply, congrArg Nat.succ hlength⟩
      · exact .inr (congrArg Nat.succ hlength)

theorem Reply.take_subset (message : Message) (replies : List Reply) :
    ((Reply.take message replies).1 = .unscripted ∨ (Reply.take message replies).1 ∈ replies) ∧
      (Reply.take message replies).2 ⊆ replies := by
  induction replies with
  | nil => exact ⟨.inl rfl, List.Subset.refl _⟩
  | cons reply replies ih =>
    unfold Reply.take
    split
    · exact ⟨.inr List.mem_cons_self, List.subset_cons_self _ _⟩
    · exact ⟨ih.1.imp_right (List.mem_cons_of_mem _), List.cons_subset_cons _ ih.2⟩

namespace Traffic

variable {traffic traffic' : Traffic} {message : Message} {reply : Reply}

theorem reachable_of_pass (hpass : traffic.pass message = (reply, traffic')) :
    traffic'.reachable = traffic.reachable := by
  unfold pass at hpass
  split at hpass <;> cases hpass <;> rfl

theorem sent_of_pass (hpass : traffic.pass message = (reply, traffic')) :
    traffic'.sent = traffic.sent ++ sentOf [(message, reply)] := by
  unfold pass at hpass
  split at hpass
  · cases hpass
    rfl
  · cases hpass
    exact (List.append_nil _).symm

/-- A message takes one of the replies that are to come, unless it meets with one that is none of
them (`Reply.IsTaken`). -/
theorem length_of_pass (hpass : traffic.pass message = (reply, traffic')) :
    traffic'.replies.length + [(message, reply)].countP (·.2.IsTaken) ≤ traffic.replies.length := by
  unfold pass at hpass
  split at hpass
  · cases hpass
    rcases Reply.length_take message traffic.replies with ⟨hreply, hlength⟩ | hlength
    · rw [hreply, List.countP_singleton]
      exact Nat.le_of_eq hlength
    · have hone := List.countP_le_length (p := fun hop : Message × Reply ↦ decide hop.2.IsTaken)
        (l := [(message, (Reply.take message traffic.replies).1)])
      simp only [List.length_singleton] at hone
      change (Reply.take message traffic.replies).2.length + _ ≤ _
      omega
  · cases hpass
    exact Nat.le_refl _

/-- A reply that is taken was among those that were to come, and so are all that are left. -/
theorem subset_of_pass (hpass : traffic.pass message = (reply, traffic')) :
    (reply.IsTaken → reply ∈ traffic.replies) ∧ traffic'.replies ⊆ traffic.replies := by
  unfold pass at hpass
  split at hpass
  · cases hpass
    obtain ⟨htaken, hleft⟩ := Reply.take_subset message traffic.replies
    exact ⟨fun h ↦ htaken.resolve_left h.1, hleft⟩
  · cases hpass
    exact ⟨fun h ↦ absurd rfl h.2, List.Subset.refl _⟩

/-- Where hosts can be connected to (`hreach`), a message meets with a reply that was to come, or
with the one for messages that no reply is meant for. -/
theorem reply_of_pass (hpass : traffic.pass message = (reply, traffic'))
    (hreach : traffic.reachable = true) : reply = .unscripted ∨ reply ∈ traffic.replies := by
  rw [pass, if_pos hreach] at hpass
  cases hpass
  exact (Reply.take_subset message traffic.replies).1

end Traffic

namespace Passed

variable {traffic traffic' traffic'' : Traffic} {hops more : List (Message × Reply)}

theorem append (hhops : Passed traffic hops traffic') (hmore : Passed traffic' more traffic'') :
    Passed traffic (hops ++ more) traffic'' := by
  induction hhops with
  | nil traffic => exact hmore
  | cons hpass hrest ih => exact .cons hpass (ih hmore)

theorem of_append (h : Passed traffic (hops ++ more) traffic'') :
    ∃ traffic', Passed traffic hops traffic' ∧ Passed traffic' more traffic'' := by
  induction hops generalizing traffic with
  | nil => exact ⟨traffic, .nil traffic, h⟩
  | cons hop hops ih =>
    cases h with
    | cons hpass hrest =>
      obtain ⟨traffic', hhops, hmore⟩ := ih hrest
      exact ⟨traffic', .cons hpass hhops, hmore⟩

theorem sent_eq (h : Passed traffic hops traffic') :
    traffic'.sent = traffic.sent ++ sentOf hops := by
  induction h with
  | nil traffic => exact (List.append_nil _).symm
  | @cons _ _ _ message reply hops hpass hrest ih =>
    rw [ih, Traffic.sent_of_pass hpass, List.append_assoc, sentOf, sentOf, sentOf,
      ← List.filterMap_append, List.singleton_append]

theorem reachable_eq (h : Passed traffic hops traffic') :
    traffic'.reachable = traffic.reachable := by
  induction h with
  | nil traffic => rfl
  | cons hpass hrest ih => rw [ih, Traffic.reachable_of_pass hpass]

/-- No more replies are taken while messages pass through a network than there are; those that are
left come on top. -/
theorem length_le (h : Passed traffic hops traffic') :
    traffic'.replies.length + hops.countP (·.2.IsTaken) ≤ traffic.replies.length := by
  induction h with
  | nil traffic => exact Nat.le_refl _
  | @cons _ _ _ message reply hops hpass hrest ih =>
    have hfirst := Traffic.length_of_pass hpass
    rw [← List.singleton_append, List.countP_append]
    omega

theorem reply_of_mem (h : Passed traffic hops traffic') (hreach : traffic.reachable = true)
    {hop : Message × Reply} (hhop : hop ∈ hops) :
    hop.2 = .unscripted ∨ hop.2 ∈ traffic.replies := by
  induction h with
  | nil traffic => cases hhop
  | cons hpass hrest ih =>
    rcases List.mem_cons.mp hhop with rfl | hhop
    · exact Traffic.reply_of_pass hpass hreach
    · refine (ih ((Traffic.reachable_of_pass hpass).trans hreach) hhop).imp_right ?_
      exact fun hlater ↦ (Traffic.subset_of_pass hpass).2 hlater

theorem mem_replies (h : Passed traffic hops traffic') {hop : Message × Reply} (hhop : hop ∈ hops)
    (htaken : hop.2.IsTaken) : hop.2 ∈ traffic.replies := by
  induction h with
  | nil traffic => cases hhop
  | cons hpass hrest ih =>
    obtain ⟨hfirst, hleft⟩ := Traffic.subset_of_pass hpass
    rcases List.mem_cons.mp hhop with rfl | hhop
    · exact hfirst htaken
    · exact hleft (ih hhop)

end Passed

/-! ### What a process is shown -/

namespace Process

variable {α β : Type} {process : Process α} {hops : List (Message × Reply)} {result : α}

/-- Whether a process comes to a result when the messages it sends are answered as given. Nothing is
said of where the replies come from; on a network that is what `Passed` is for. -/
inductive Shows {α : Type} : Process α → List (Message × Reply) → α → Prop where
  | done (result : α) : Shows (.done result) [] result
  | send {message : Message} {receive : Reply → Process α} {reply : Reply}
      {hops : List (Message × Reply)} {result : α} : Shows (receive reply) hops result →
      Shows (.send message receive) ((message, reply) :: hops) result

/-- A process that is carried out is shown what is there for its messages: some messages and replies
lead it to its result (`Shows`), and just these pass through the network (`Passed`). -/
theorem exists_shows (process : Process α) (traffic : Traffic) :
    ∃ hops, process.Shows hops (process.run traffic).1 ∧
      Passed traffic hops (process.run traffic).2 := by
  induction process generalizing traffic with
  | done result => exact ⟨[], .done result, .nil traffic⟩
  | send message receive ih =>
    obtain ⟨hops, hshows, hpassed⟩ := ih (traffic.pass message).1 (traffic.pass message).2
    exact ⟨_, .send hshows, .cons rfl hpassed⟩

/-- What a process is shown, if it passes through a network from a state on (`hpassed`), is what the
process is shown when it is carried out there. -/
theorem Shows.run_eq {traffic traffic' : Traffic} (h : process.Shows hops result)
    (hpassed : Passed traffic hops traffic') : process.run traffic = (result, traffic') := by
  induction h generalizing traffic with
  | done result =>
    cases hpassed
    rfl
  | send hrest ih =>
    cases hpassed with
    | cons hpass hlater =>
      rw [run, hpass]
      exact ih hlater

theorem run_bind (process : Process α) (next : α → Process β) (traffic : Traffic) :
    (process >>= next).run traffic =
      (next (process.run traffic).1).run (process.run traffic).2 := by
  change (process.andThen next).run traffic = _
  induction process generalizing traffic with
  | done result => rfl
  | send message receive ih => exact ih _ _

theorem run_map (f : α → β) (process : Process α) (traffic : Traffic) :
    (f <$> process).run traffic = (f (process.run traffic).1, (process.run traffic).2) :=
  run_bind process (pure ∘ f) traffic

namespace Shows

theorem bind {next : α → Process β} {more : List (Message × Reply)} {result' : β}
    (h : process.Shows hops result) (hnext : (next result).Shows more result') :
    (process >>= next).Shows (hops ++ more) result' := by
  change (process.andThen next).Shows (hops ++ more) result'
  induction h with
  | done result => exact hnext
  | send hrest ih => exact .send (ih hnext)

theorem map (f : α → β) (h : process.Shows hops result) :
    (f <$> process).Shows hops (f result) := by
  have hboth : (f <$> process).Shows (hops ++ []) (f result) := h.bind (.done (f result))
  rwa [List.append_nil] at hboth

/-- What a sequence of two processes is shown falls into what is shown to the first of them, up to
its result, and what is shown to the one that it goes on with. -/
theorem of_bind {next : α → Process β} {result : β} (h : (process >>= next).Shows hops result) :
    ∃ before after between, hops = before ++ after ∧ process.Shows before between ∧
      (next between).Shows after result := by
  change (process.andThen next).Shows hops result at h
  induction process generalizing hops with
  | done between => exact ⟨[], hops, between, rfl, .done between, h⟩
  | send message receive ih =>
    cases h with
    | send hrest =>
      obtain ⟨before, after, between, rfl, hfirst, hsecond⟩ := ih _ hrest
      exact ⟨_ :: before, after, between, rfl, .send hfirst, hsecond⟩

/-- A sequence of processes that may fail comes to an end with the first failure; otherwise what it
is shown falls into two parts, as for any sequence (`of_bind`). -/
theorem run_bind_iff {ε : Type} {steps : ExceptT ε Process α} {next : α → ExceptT ε Process β}
    {result : Except ε β} : (steps >>= next).run.Shows hops result ↔
      (∃ failure, steps.run.Shows hops (.error failure) ∧ result = .error failure) ∨
        ∃ before after between, hops = before ++ after ∧ steps.run.Shows before (.ok between) ∧
          (next between).run.Shows after result := by
  constructor
  · intro h
    obtain ⟨before, after, between, rfl, hfirst, hsecond⟩ := of_bind h
    cases between with
    | error failure =>
      cases hsecond
      exact .inl ⟨failure, by rwa [List.append_nil], rfl⟩
    | ok between => exact .inr ⟨before, after, between, rfl, hfirst, hsecond⟩
  · rintro (⟨failure, hfirst, rfl⟩ | ⟨before, after, between, rfl, hfirst, hsecond⟩)
    · have hend : (ExceptT.bindCont next (Except.error failure) : Process (Except ε β)).Shows []
          (.error failure) := .done (Except.error failure)
      have hall := hfirst.bind hend
      rwa [List.append_nil] at hall
    · exact hfirst.bind hsecond

theorem of_map {f : α → β} {result : β} (h : (f <$> process).Shows hops result) :
    ∃ between, process.Shows hops between ∧ result = f between := by
  obtain ⟨before, after, between, rfl, hfirst, hsecond⟩ := of_bind h
  cases hsecond
  exact ⟨between, by rwa [List.append_nil], rfl⟩

end Shows

end Process

/-- Processes are sequences of what they send, so it does not matter how they are put together. -/
instance : LawfulMonad Process :=
  .mk' Process
    (by
      intro α process
      change process.andThen .done = process
      induction process with
      | done result => rfl
      | send message receive ih => exact congrArg _ (funext ih))
    (fun _ _ ↦ rfl)
    (by
      intro α β γ process next last
      change (process.andThen next).andThen last =
        process.andThen fun result ↦ (next result).andThen last
      induction process with
      | done result => rfl
      | send message receive ih => exact congrArg _ (funext ih))

/-! ### Taking turns -/

/-- The entries of two lists, merged in the order of the turns: each turn says whether the next
entry comes from the first list. When the turns or the entries of one of the two lists are used up,
the rest of the first list comes before the rest of the second one. -/
def merged {γ : Type} : List Bool → List γ → List γ → List γ
  | [], first, second => first ++ second
  | _ :: _, [], second => second
  | _ :: _, item :: first, [] => item :: first
  | turn :: turns, item :: first, item' :: second =>
    if turn then item :: merged turns first (item' :: second)
    else item' :: merged turns (item :: first) second

theorem merged_nil_left {γ : Type} (turns : List Bool) (second : List γ) :
    merged turns [] second = second := by
  cases turns <;> rfl

theorem merged_nil_right {γ : Type} (turns : List Bool) (first : List γ) :
    merged turns first [] = first := by
  cases turns with
  | nil => exact List.append_nil first
  | cons => cases first <;> rfl

theorem merged_perm {γ : Type} (turns : List Bool) (first second : List γ) :
    (merged turns first second).Perm (first ++ second) := by
  induction turns generalizing first second with
  | nil => exact .refl _
  | cons turn turns ih =>
    cases first with
    | nil => exact .refl _
    | cons item first =>
      cases second with
      | nil => exact .of_eq (List.append_nil _).symm
      | cons item' second =>
        rw [merged]
        split
        · exact (ih first (item' :: second)).cons item
        · exact ((ih (item :: first) second).cons item').trans List.perm_middle.symm

/-- Neither of two lists of messages and replies that are merged takes more replies than there are
for both of them (`h`). -/
theorem Passed.countP_le_of_merged {turns : List Bool} {first second : List (Message × Reply)}
    {traffic traffic' : Traffic} (h : Passed traffic (merged turns first second) traffic') :
    first.countP (·.2.IsTaken) ≤ traffic.replies.length ∧
      second.countP (·.2.IsTaken) ≤ traffic.replies.length := by
  have htaken := h.length_le
  rw [(merged_perm turns first second).countP_eq, List.countP_append] at htaken
  omega

namespace Process

variable {α β : Type} {turns : List Bool} {first : Process α} {second : Process β}
  {hops : List (Message × Reply)} {results : α × β}

/-- What two processes are shown, of which the second one starts when the first one is done, is what
leads each of them to its own result, one behind the other. -/
theorem shows_sequence_iff :
    (do return (← first, ← second) : Process (α × β)).Shows hops results ↔
      ∃ shown shown', hops = shown ++ shown' ∧ first.Shows shown results.1 ∧
        second.Shows shown' results.2 := by
  constructor
  · intro h
    obtain ⟨shown, rest, result, rfl, hfirst, hrest⟩ := h.of_bind
    obtain ⟨shown', none, result', rfl, hsecond, hdone⟩ := hrest.of_bind
    cases hdone
    rw [List.append_nil]
    exact ⟨shown, shown', rfl, hfirst, hsecond⟩
  · rintro ⟨shown, shown', rfl, hfirst, hsecond⟩
    have hlast := hsecond.map fun result ↦ (results.1, result)
    rw [← bind_pure_comp] at hlast
    exact hfirst.bind hlast

theorem shows_done_iff {result result' : α} :
    (done result).Shows hops result' ↔ hops = [] ∧ result' = result := by
  constructor
  · rintro ⟨⟩
    exact ⟨rfl, rfl⟩
  · rintro ⟨rfl, rfl⟩
    exact .done result'

theorem shows_send_iff {message : Message} {receive : Reply → Process α} {result : α} :
    (send message receive).Shows hops result ↔
      ∃ reply rest, hops = (message, reply) :: rest ∧ (receive reply).Shows rest result := by
  constructor
  · rintro ⟨⟩
    exact ⟨_, _, rfl, ‹_›⟩
  · rintro ⟨reply, rest, rfl, hrest⟩
    exact .send hrest

/-- What two processes that take turns are shown is what leads each of them to its own result by
itself, merged in the order of the turns (`merged`). When one of them is done, they go on as a
sequence (`shows_sequence_iff`). -/
theorem shows_join_iff : (join turns first second).Shows hops results ↔
    ∃ shown shown', hops = merged turns shown shown' ∧ first.Shows shown results.1 ∧
      second.Shows shown' results.2 := by
  induction turns generalizing first second hops with
  | nil =>
    have hjoin : join [] first second = do return (← first, ← second) := by
      rw [join]
      simp
    rw [hjoin]
    exact shows_sequence_iff
  | cons turn turns ih =>
    cases first with
    | done result =>
      refine shows_sequence_iff.trans (exists₂_congr fun shown shown' ↦ and_congr_left ?_)
      rintro ⟨hfirst, -⟩
      obtain ⟨rfl, -⟩ := shows_done_iff.mp hfirst
      rw [merged_nil_left, List.nil_append]
    | send message receive =>
      cases second with
      | done result =>
        refine shows_sequence_iff.trans (exists₂_congr fun shown shown' ↦ and_congr_left ?_)
        rintro ⟨-, hsecond⟩
        obtain ⟨rfl, -⟩ := shows_done_iff.mp hsecond
        rw [merged_nil_right, List.append_nil]
      | send other receive' =>
        cases turn with
        | true =>
          constructor
          · intro h
            obtain ⟨reply, rest, rfl, hrest⟩ := shows_send_iff.mp h
            obtain ⟨shown, shown', rfl, hfirst, hsecond⟩ := ih.mp hrest
            obtain ⟨reply', rest', rfl, hrest'⟩ := shows_send_iff.mp hsecond
            exact ⟨_ :: shown, _ :: rest', rfl, .send hfirst, .send hrest'⟩
          · rintro ⟨shown, shown', rfl, hfirst, hsecond⟩
            obtain ⟨reply, rest, rfl, hrest⟩ := shows_send_iff.mp hfirst
            obtain ⟨reply', rest', rfl, hrest'⟩ := shows_send_iff.mp hsecond
            exact .send (ih.mpr ⟨rest, _, rfl, hrest, hsecond⟩)
        | false =>
          constructor
          · intro h
            obtain ⟨reply', rest', rfl, hrest'⟩ := shows_send_iff.mp h
            obtain ⟨shown, shown', rfl, hfirst, hsecond⟩ := ih.mp hrest'
            obtain ⟨reply, rest, rfl, hrest⟩ := shows_send_iff.mp hfirst
            exact ⟨_ :: rest, _ :: shown', rfl, .send hrest, .send hsecond⟩
          · rintro ⟨shown, shown', rfl, hfirst, hsecond⟩
            obtain ⟨reply, rest, rfl, hrest⟩ := shows_send_iff.mp hfirst
            obtain ⟨reply', rest', rfl, hrest'⟩ := shows_send_iff.mp hsecond
            exact .send (ih.mpr ⟨_, rest', rfl, hfirst, hrest'⟩)

end Process

end BulkJobs.Http
