import BulkJobs.Proofs.Http.Process

/-!
# Messages and the redirects that are followed for them

Sending a message is a process that goes on for as long as it is answered with redirects. `Followed`
says that a delivery is what such a process comes to: each redirect leads to the message behind it,
and the last reply leads nowhere, or there were as many redirects as are followed. From a state of
the network on there is one such delivery (`Followed.run_eq`). What holds of a message and is kept
from one redirect to the next holds of all that is sent (`Followed.forall_messages`); so the token
stays on its host and port (`Followed.sharesHost_of_isAuthorized`). `Received` keeps account of the
deliveries between two states of the network (`received_carry`). Where no reply leads anywhere else,
no redirect is followed (`Received.redirects_eq_nil`).
-/

set_option autoImplicit false
set_option relaxedAutoImplicit false

namespace BulkJobs.Http

/-! ### Replies that are not followed -/

theorem Message.next?_of_lost {message : Message} {reply : Reply} (hlost : reply.arrives = false) :
    message.next? reply = none := by
  rw [next?, hlost]
  rfl

theorem Message.next?_of_isFinal {message : Message} {reply : Reply}
    (hfinal : reply.isFinal = true) : message.next? reply = none := by
  have hnone : reply.location? = none := Option.isNone_iff_eq_none.mp hfinal
  simp [next?, redirection?, hnone]

/-- A reply whose head arrives does so in full or breaks off. -/
theorem Reply.fault_of_arrives {reply : Reply} (harrives : reply.arrives = true) :
    reply.fault = none ∨ reply.fault = some .truncate := by
  rw [Reply.arrives, Bool.or_eq_true, beq_iff_eq, beq_iff_eq] at harrives
  exact harrives

/-- A reply whose head arrives came from a host that could be connected to. -/
theorem Reply.isRefused_of_arrives {reply : Reply} (harrives : reply.arrives = true) :
    reply.isRefused = false := by
  rcases Reply.fault_of_arrives harrives with hwhole | hbroken
  · rw [Reply.isRefused, hwhole]
    rfl
  · rw [Reply.isRefused, hbroken]
    rfl

/-- A reply that is followed came from a host that could be connected to. -/
theorem Message.isRefused_of_next? {message next : Message} {reply : Reply}
    (hnext : message.next? reply = some next) : reply.isRefused = false := by
  cases harrives : reply.arrives with
  | true => exact Reply.isRefused_of_arrives harrives
  | false =>
    rw [next?_of_lost harrives] at hnext
    cases hnext

/-- A reply with a status of success leads nowhere else, whatever its headers are, as
`Reply.location?` looks at the status first. -/
theorem Reply.isFinal_of_success {reply : Reply}
    (hstatus : 200 ≤ reply.status ∧ reply.status ≤ 299) : reply.isFinal = true := by
  have hother : reply.status ∉ [301, 302, 303, 307, 308] := by
    simp only [List.mem_cons, List.not_mem_nil, or_false]
    omega
  rw [isFinal, location?, if_neg (by simpa using hother)]
  rfl

/-- Whether a reply answers the very message that takes it: the host can be connected to, and the
reply leads nowhere else, so no further message is sent on account of it. -/
structure Reply.IsDirect (reply : Reply) : Prop where
  sent : reply.isRefused = false
  final : reply.isFinal = true

instance (reply : Reply) : Decidable reply.IsDirect :=
  decidable_of_iff (reply.isRefused = false ∧ reply.isFinal = true)
    ⟨fun h ↦ ⟨h.1, h.2⟩, fun h ↦ ⟨h.sent, h.final⟩⟩

/-! ### The token on its way -/

/-- Whether a message carries what it takes to be let in: a header `authorization`, whatever its
value. -/
def Message.IsAuthorized (message : Message) : Prop :=
  ∃ header ∈ message.headers, header.name = "authorization"

/-- A message that is sent on (`Message.onward`) is authorized only if the one before it was, and
host and port of the two URLs are the same. -/
theorem Message.of_isAuthorized_onward {message : Message} {status : Nat} {url : Url}
    (h : (message.onward status url).IsAuthorized) :
    message.IsAuthorized ∧ sharesHost message.url url = true := by
  obtain ⟨header, hheader, hname⟩ := h
  change header ∈ message.headersOnward status url at hheader
  unfold headersOnward at hheader
  generalize hunbodied : (if becomesGet message.method status then
    message.headers.filter fun header ↦ !bodyHeaders.contains header.name
    else message.headers) = unbodied at hheader
  have hsubset : unbodied ⊆ message.headers := by
    rw [← hunbodied]
    split
    · exact List.filter_subset_self _
    · exact List.Subset.refl _
  have hkept : header ∈ if sharesHost message.url url then unbodied
      else unbodied.filter fun header ↦ !hostHeaders.contains header.name := by
    cases hreferer : referer? message.url url with
    | none =>
      rw [hreferer] at hheader
      exact hheader
    | some referer =>
      rw [hreferer] at hheader
      rcases List.mem_append.mp hheader with hkept | hown
      · exact List.mem_of_mem_filter hkept
      · obtain rfl := List.mem_singleton.mp hown
        unfold referer? at hreferer
        split at hreferer <;> cases hreferer
        simp at hname
  split at hkept
  · exact ⟨⟨header, hsubset hkept, hname⟩, ‹_›⟩
  · have hother := (List.mem_filter.mp hkept).2
    rw [hname] at hother
    exact absurd hother (by decide)

theorem Message.exists_onward_of_next? {message next : Message} {reply : Reply}
    (hnext : message.next? reply = some next) : ∃ url, next = message.onward reply.status url := by
  unfold next? at hnext
  split at hnext
  · obtain ⟨url, -, hurl⟩ := Option.map_eq_some_iff.mp hnext
    exact ⟨url, hurl.symm⟩
  · cases hnext

theorem Message.sharesHost_iff {url other : Url} : sharesHost url other = true ↔
    url.origin?.map (fun origin ↦ (origin.host, origin.port)) =
      other.origin?.map fun origin ↦ (origin.host, origin.port) :=
  beq_iff_eq

/-! ### Deliveries -/

/-- Whether a delivery is what becomes of a message when at most so many redirects are followed: it
either ends with a reply that is not followed, or goes on as the delivery of the message that
`Message.next?` makes of the reply. -/
inductive Followed : Nat → Message → Delivery → Prop where
  | last {hops : Nat} {message : Message} {reply : Reply} :
      hops = 0 ∨ message.next? reply = none → Followed hops message ⟨message, [], reply⟩
  | redirect {hops : Nat} {message next : Message} {reply : Reply} {later : Delivery} :
      message.next? reply = some next → Followed hops next later →
      Followed (hops + 1) message (.behind message reply later)

namespace Delivery

theorem hops_behind (message : Message) (reply : Reply) (later : Delivery) :
    (behind message reply later).hops = (message, reply) :: later.hops :=
  rfl

theorem exists_hops_eq (delivery : Delivery) :
    ∃ reply rest, delivery.hops = (delivery.message, reply) :: rest := by
  obtain ⟨message, redirects, reply⟩ := delivery
  cases redirects with
  | nil => exact ⟨reply, [], rfl⟩
  | cons redirect redirects => exact ⟨redirect.1, _, rfl⟩

theorem last_behind (message : Message) (reply : Reply) (later : Delivery) :
    (behind message reply later).last = later.last := by
  obtain ⟨next, redirects, final⟩ := later
  cases redirects with
  | nil => rfl
  | cons redirect redirects => rfl

/-- The last reply answers the last message. -/
theorem mem_hops (delivery : Delivery) : (delivery.last, delivery.reply) ∈ delivery.hops := by
  obtain ⟨message, redirects, reply⟩ := delivery
  induction redirects generalizing message with
  | nil => exact .head _
  | cons redirect redirects ih =>
    have hlater := ih redirect.2
    rw [← last_behind message redirect.1] at hlater
    exact .tail _ hlater

/-- A redirect answers one of the messages. -/
theorem exists_mem_hops (delivery : Delivery) {redirect : Reply × Message}
    (hredirect : redirect ∈ delivery.redirects) :
    ∃ message, (message, redirect.1) ∈ delivery.hops := by
  obtain ⟨message, redirects, reply⟩ := delivery
  induction redirects generalizing message with
  | nil => cases hredirect
  | cons first redirects ih =>
    rcases List.mem_cons.mp hredirect with rfl | hredirect
    · exact ⟨message, .head _⟩
    · obtain ⟨later, hlater⟩ := ih first.2 hredirect
      exact ⟨later, .tail _ hlater⟩

/-- What is sent for a delivery without redirects (`hdirect`) is its message alone, unless the host
refuses the connection. -/
theorem messages_of_direct {delivery : Delivery} (hdirect : delivery.redirects = []) :
    delivery.messages = if delivery.reply.isRefused then [] else [delivery.message] := by
  obtain ⟨message, redirects, reply⟩ := delivery
  cases hdirect
  simp only [messages, hops, sentOf]
  cases hrefused : reply.isRefused <;> simp [hrefused]

theorem messages_behind (message : Message) (reply : Reply) (later : Delivery) :
    (behind message reply later).messages =
      (if reply.isRefused then [] else [message]) ++ later.messages := by
  rw [messages, hops_behind, sentOf, List.filterMap_cons]
  cases hrefused : reply.isRefused <;> simp only [hrefused] <;> rfl

/-- Whether the host of the message to be delivered could not be connected to. No redirect is
followed then, so nothing was sent. -/
def IsUnreached (delivery : Delivery) : Prop :=
  delivery.redirects = [] ∧ delivery.reply.isRefused = true

end Delivery

namespace Followed

variable {hops : Nat} {message : Message} {delivery : Delivery}

theorem message_eq (h : Followed hops message delivery) : delivery.message = message := by
  cases h <;> rfl

/-- A process that carries a message (`Process.carry`) is shown the messages and replies of the
delivery that it comes to, and follows the redirects among them. -/
theorem of_shows {shown : List (Message × Reply)}
    (h : (Process.carry hops message).Shows shown delivery) :
    Followed hops message delivery ∧ shown = delivery.hops := by
  induction hops generalizing message delivery shown with
  | zero =>
    cases h with
    | send hrest =>
      cases hrest
      exact ⟨.last (.inl rfl), rfl⟩
  | succ hops ih =>
    cases h with
    | @send _ _ reply rest _ hrest =>
      cases hnext : message.next? reply with
      | none =>
        simp only [hnext] at hrest
        cases hrest
        exact ⟨.last (.inr hnext), rfl⟩
      | some next =>
        simp only [hnext] at hrest
        obtain ⟨later, hlater, rfl⟩ := Process.Shows.of_map hrest
        obtain ⟨hfollowed, rfl⟩ := ih hlater
        exact ⟨.redirect hnext hfollowed, rfl⟩

/-- A delivery that follows the redirects among its replies is shown to the process that carries its
message, and the process comes to it. -/
theorem shows (h : Followed hops message delivery) :
    (Process.carry hops message).Shows delivery.hops delivery := by
  induction h with
  | @last hops message reply hend =>
    cases hops with
    | zero => exact .send (.done _)
    | succ hops =>
      have hlast : message.next? reply = none := hend.resolve_left (Nat.succ_ne_zero hops)
      refine .send ?_
      simp only [hlast]
      exact .done _
  | redirect hnext hrest ih =>
    refine .send ?_
    simp only [hnext]
    exact ih.map _

/-- What a delivery follows from a state of the network on (`hpassed`) is what sending its message
comes to there. So there is one way only in which a message can be delivered. -/
theorem run_eq {traffic traffic' : Traffic} (h : Followed hops message delivery)
    (hpassed : Passed traffic delivery.hops traffic') :
    (Process.carry hops message).run traffic = (delivery, traffic') :=
  h.shows.run_eq hpassed

/-- Nothing is sent only where the first host cannot be connected to (`Delivery.IsUnreached`): no
redirect is followed on account of a reply that did not arrive. -/
theorem messages_eq_nil_iff (h : Followed hops message delivery) :
    delivery.messages = [] ↔ delivery.IsUnreached := by
  cases h with
  | @last _ _ reply hend =>
    rw [Delivery.messages_of_direct rfl, Delivery.IsUnreached]
    cases reply.isRefused <;> simp
  | @redirect hops _ next reply later hnext hrest =>
    have hsent := Message.isRefused_of_next? hnext
    rw [Delivery.messages_behind, hsent]
    simp [Delivery.IsUnreached, Delivery.behind]

/-- The first message that is sent for a delivery is the one to be delivered; those that redirects
lead to come behind it. -/
theorem head?_messages (h : Followed hops message delivery) (hsent : delivery.messages ≠ []) :
    delivery.messages.head? = some message := by
  cases h with
  | @last _ _ reply hend =>
    rw [Delivery.messages_of_direct rfl] at hsent ⊢
    cases hrefused : reply.isRefused with
    | true => simp [hrefused] at hsent
    | false => rfl
  | redirect hnext hrest =>
    rw [Delivery.messages_behind, Message.isRefused_of_next? hnext]
    rfl

/-- What holds of the message to be delivered (`hfirst`), and of each message that is sent on
account of one it holds of (`hstep`), holds of all messages of a delivery. -/
theorem forall_messages {P : Message → Prop} (h : Followed hops message delivery)
    (hfirst : P message)
    (hstep : ∀ message reply next, message.next? reply = some next → P message → P next) :
    ∀ sent ∈ delivery.messages, P sent := by
  induction h with
  | @last _ message reply hend =>
    rw [Delivery.messages_of_direct rfl]
    split
    · simp
    · exact List.forall_mem_singleton.mpr hfirst
  | @redirect _ message next reply later hnext hrest ih =>
    have hlater := ih (hstep message reply next hnext hfirst)
    rw [Delivery.messages_behind]
    split
    · exact hlater
    · exact List.forall_mem_cons.mpr ⟨hfirst, hlater⟩

/-- Of the messages of a delivery only those are authorized that go to the host and port of the
first one, so a token does not get to another host by a redirect. -/
theorem sharesHost_of_isAuthorized (h : Followed hops message delivery) {home : Url}
    (hhome : Message.sharesHost message.url home = true) :
    ∀ sent ∈ delivery.messages, sent.IsAuthorized → Message.sharesHost sent.url home = true := by
  refine h.forall_messages (fun _ ↦ hhome) ?_
  intro message reply next hnext hbefore hauthorized
  obtain ⟨url, rfl⟩ := Message.exists_onward_of_next? hnext
  obtain ⟨hown, hshared⟩ := Message.of_isAuthorized_onward hauthorized
  rw [Message.sharesHost_iff] at hshared ⊢
  exact hshared.symm.trans (Message.sharesHost_iff.mp (hbefore hown))

/-- A redirect that is followed is a reply that leads somewhere else. -/
theorem isFinal_of_mem (h : Followed hops message delivery) :
    ∀ redirect ∈ delivery.redirects, redirect.1.isFinal = false := by
  induction h with
  | last hend => exact fun redirect hredirect ↦ nomatch hredirect
  | @redirect hops message next reply later hnext hrest ih =>
    have hlocated : reply.isFinal = false := by
      by_contra hfinal
      rw [Message.next?_of_isFinal (Bool.not_eq_false _ ▸ hfinal)] at hnext
      cases hnext
    exact List.forall_mem_cons.mpr ⟨hlocated, ih⟩

end Followed

/-! ### Deliveries one after another -/

/-- Whether messages were delivered one after another, and nothing else happened between two states
of the network: the messages and replies of the deliveries passed through it, and each delivery
follows redirects as far as `redirectLimit` allows. -/
structure Received (traffic : Traffic) (received : List Delivery) (traffic' : Traffic) : Prop where
  followed : ∀ delivery ∈ received, Followed redirectLimit delivery.message delivery
  passed : Passed traffic (received.flatMap (·.hops)) traffic'

namespace Received

variable {traffic traffic' traffic'' : Traffic} {received more : List Delivery}
  {delivery : Delivery}

theorem nil (traffic : Traffic) : Received traffic [] traffic :=
  ⟨fun _ h ↦ absurd h List.not_mem_nil, .nil traffic⟩

theorem eq_of_nil (h : Received traffic [] traffic') : traffic' = traffic := by
  obtain ⟨-, hpassed⟩ := h
  rw [List.flatMap_nil] at hpassed
  cases hpassed
  rfl

theorem append (hreceived : Received traffic received traffic')
    (hmore : Received traffic' more traffic'') : Received traffic (received ++ more) traffic'' := by
  refine ⟨List.forall_mem_append.mpr ⟨hreceived.followed, hmore.followed⟩, ?_⟩
  rw [List.flatMap_append]
  exact hreceived.passed.append hmore.passed

theorem of_append (h : Received traffic (received ++ more) traffic'') :
    ∃ traffic', Received traffic received traffic' ∧ Received traffic' more traffic'' := by
  obtain ⟨hfollowed, hpassed⟩ := h
  obtain ⟨hfirst, hrest⟩ := List.forall_mem_append.mp hfollowed
  rw [List.flatMap_append] at hpassed
  obtain ⟨traffic', hbefore, hafter⟩ := hpassed.of_append
  exact ⟨traffic', ⟨hfirst, hbefore⟩, ⟨hrest, hafter⟩⟩

/-- What was sent between two states of the network are the messages of the deliveries, in their
order, the ones that redirects led to included. -/
theorem sent_eq (h : Received traffic received traffic') :
    traffic'.sent = traffic.sent ++ received.flatMap (·.messages) := by
  rw [h.passed.sent_eq, sentOf, List.filterMap_flatMap]
  rfl

theorem sent_single (h : Received traffic [delivery] traffic') :
    traffic'.sent = traffic.sent ++ delivery.messages := by
  rw [h.sent_eq, List.flatMap_singleton]

theorem reachable_eq (h : Received traffic received traffic') :
    traffic'.reachable = traffic.reachable :=
  h.passed.reachable_eq

/-- Where no reply that is to come leads anywhere else (`hfinal`), no delivery follows a redirect.
-/
theorem redirects_eq_nil (h : Received traffic received traffic')
    (hfinal : ∀ reply ∈ traffic.replies, reply.isFinal = true) :
    ∀ delivery ∈ received, delivery.redirects = [] := by
  intro delivery hdelivery
  by_contra hsome
  obtain ⟨redirect, hredirect⟩ := List.exists_mem_of_ne_nil _ hsome
  have hleads := (h.followed delivery hdelivery).isFinal_of_mem redirect hredirect
  obtain ⟨message, hhop⟩ := delivery.exists_mem_hops hredirect
  have htaken : redirect.1.IsTaken := by
    constructor <;> rintro heq <;> rw [heq] at hleads <;> cases hleads
  have hreply := h.passed.mem_replies (List.mem_flatMap.mpr ⟨delivery, hdelivery, hhop⟩) htaken
  rw [hfinal _ hreply] at hleads
  cases hleads

/-- Where no reply that is to come leads anywhere else (`hfinal`), what is sent for a delivery is
its message alone, unless its host cannot be connected to. -/
theorem messages_eq (h : Received traffic received traffic')
    (hfinal : ∀ reply ∈ traffic.replies, reply.isFinal = true) :
    ∀ delivery ∈ received, delivery.messages =
      if delivery.reply.isRefused then [] else [delivery.message] :=
  fun delivery hdelivery ↦
    Delivery.messages_of_direct (h.redirects_eq_nil hfinal delivery hdelivery)

/-- Where hosts can be connected to (`hreach`) and replies answer the very message that takes them
(`hdirect`), what is sent is just what was to be delivered. -/
theorem messages_of_isDirect (h : Received traffic received traffic')
    (hreach : traffic.reachable = true) (hdirect : ∀ reply ∈ traffic.replies, reply.IsDirect) :
    ∀ delivery ∈ received, delivery.messages = [delivery.message] := by
  intro delivery hdelivery
  rw [h.messages_eq (fun reply hreply ↦ (hdirect reply hreply).final) delivery hdelivery]
  refine if_neg (Bool.not_eq_true _ ▸ ?_)
  have hhop : (delivery.last, delivery.reply) ∈ received.flatMap (·.hops) :=
    List.mem_flatMap.mpr ⟨delivery, hdelivery, delivery.mem_hops⟩
  rcases h.passed.reply_of_mem hreach hhop with hnone | hreply
  · have hreply : delivery.reply = .unscripted := hnone
    rw [hreply]
    rfl
  · exact (hdirect _ hreply).sent

theorem single_iff : Received traffic [delivery] traffic' ↔
    Followed redirectLimit delivery.message delivery ∧ Passed traffic delivery.hops traffic' := by
  have hhops : [delivery].flatMap (·.hops) = delivery.hops := List.flatMap_singleton ..
  constructor
  · rintro ⟨hfollowed, hpassed⟩
    exact ⟨hfollowed _ (List.mem_singleton_self _), hhops ▸ hpassed⟩
  · rintro ⟨hfollowed, hpassed⟩
    exact ⟨List.forall_mem_singleton.mpr hfollowed, hhops.symm ▸ hpassed⟩

end Received

/-- Sending a message is one delivery, of this message: what `Process.carry` comes to accounts for
all that happens on the network (`Received`). -/
theorem received_carry (message : Message) (traffic : Traffic) :
    ((Process.carry redirectLimit message).run traffic).1.message = message ∧
      Received traffic [((Process.carry redirectLimit message).run traffic).1]
        ((Process.carry redirectLimit message).run traffic).2 := by
  obtain ⟨shown, hshows, hpassed⟩ := (Process.carry redirectLimit message).exists_shows traffic
  obtain ⟨hfollowed, rfl⟩ := Followed.of_shows hshows
  refine ⟨hfollowed.message_eq, Received.single_iff.mpr ⟨?_, hpassed⟩⟩
  rw [hfollowed.message_eq]
  exact hfollowed

/-- A reply that is not followed (`hlast`) is all that a message meets with, however many redirects
might be followed. -/
theorem carry_of_pass {message : Message} {traffic traffic' : Traffic} {reply : Reply}
    (hpass : traffic.pass message = (reply, traffic')) (hlast : message.next? reply = none)
    (hops : Nat) :
    (Process.carry hops message).run traffic = (⟨message, [], reply⟩, traffic') := by
  cases hops with
  | zero =>
    rw [Process.carry, Process.run, hpass]
    rfl
  | succ hops =>
    rw [Process.carry, Process.run, hpass]
    simp only [hlast]
    rfl

/-- A reply that is followed (`hnext`) is met with first, and behind it is what the next message
meets with, with one redirect less that may be followed. -/
theorem carry_of_next {message next : Message} {traffic traffic' : Traffic} {reply : Reply}
    (hpass : traffic.pass message = (reply, traffic')) (hnext : message.next? reply = some next)
    (hops : Nat) :
    (Process.carry (hops + 1) message).run traffic =
      (.behind message reply ((Process.carry hops next).run traffic').1,
        ((Process.carry hops next).run traffic').2) := by
  rw [Process.carry, Process.run, hpass]
  simp only [hnext]
  exact Process.run_map _ _ traffic'

end BulkJobs.Http
