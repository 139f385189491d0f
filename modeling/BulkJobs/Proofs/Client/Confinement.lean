import BulkJobs.Proofs.Client.Call
import BulkJobs.Proofs.Org.Plain

/-!
# The token stays on the org

Every request that a connected client makes goes to the origin of its instance
(`connected_confinement`). The path that is asked for may be any text, that of a page which the
service names included: its URL is of that origin by construction, and the message that is sent has
scheme, host and port of the URL. A reply may lead further, also to another origin
(`redirected_elsewhere`); then the token is left behind unless host and port stay the same
(`Confines`). Where no reply leads anywhere else, nothing is sent to any other origin.
-/

set_option autoImplicit false
set_option relaxedAutoImplicit false

namespace BulkJobs

open Http (Message Received Traffic)
open Http.Exchange (Sends)

/-- A client whose org reaches its instance (`hreach`) makes no request of any other origin, in any
call, whatever is replied. -/
theorem Call.sends_origin {client : Client} {home : Url} (hreach : client.org.Reaches home)
    {α : Type} (call : Call α) (clock : Nat → Span) :
    Sends (fun message ↦ message.url.origin? = home.origin?) (call.run client clock) := by
  refine call.sends clock fun path _ request htarget message hprepare ↦ ?_
  exact Org.prepare_origin hreach htarget hprepare

/-- An org that reaches its instance has an origin, as the URL of its instance is one of the web. -/
theorem Org.Reaches.exists_origin {org : Org} {home : Url} (hreach : org.Reaches home) :
    ∃ origin, home.origin? = some origin := by
  obtain ⟨hparse, hweb⟩ := hreach
  obtain ⟨scheme, rest, location, behind, -, hlocation, rfl⟩ := Url.parse_eq_ok_iff.mp hparse
  change Url.IsWebScheme scheme at hweb
  obtain ⟨authority, -, -, rfl, -, -⟩ := Url.exists_of_readLocation hweb hlocation
  rcases hweb with rfl | rfl <;> exact ⟨_, rfl⟩

/-- Whether the deliveries between two states of the network keep to the origin of a URL, as far as
no reply leads elsewhere: the messages to be delivered are for that origin, those that carry the
token go to the same host and port, and without redirects to other URLs nothing else is sent. -/
structure Confines (home : Url) (traffic : Traffic) (received : List Http.Delivery)
    (traffic' : Traffic) : Prop where
  account : Received traffic received traffic'
  sent_eq : traffic'.sent = traffic.sent ++ received.flatMap (·.messages)
  own : ∀ delivery ∈ received, delivery.message.url.origin? = home.origin?
  authorized : ∀ delivery ∈ received, ∀ message ∈ delivery.messages, message.IsAuthorized →
    Message.sharesHost message.url home = true
  direct : (∀ reply ∈ traffic.replies, reply.isFinal = true) →
    ∀ delivery ∈ received, ∀ message ∈ delivery.messages, message.url.origin? = home.origin?

/-- Deliveries of messages for the origin of a URL (`hown`) are confined to it, as far as no reply
leads elsewhere: what goes further is sent on account of redirects (`Confines`). -/
theorem Confines.of_received {home : Url} {traffic traffic' : Traffic}
    {received : List Http.Delivery} (hreceived : Received traffic received traffic')
    (hown : ∀ delivery ∈ received, delivery.message.url.origin? = home.origin?) :
    Confines home traffic received traffic' where
  account := hreceived
  sent_eq := hreceived.sent_eq
  own := hown
  authorized := by
    intro delivery hdelivery
    refine (hreceived.followed delivery hdelivery).sharesHost_of_isAuthorized ?_
    rw [Message.sharesHost_iff, hown delivery hdelivery]
  direct := by
    intro hfinal delivery hdelivery message hmessage
    rw [hreceived.messages_eq hfinal delivery hdelivery] at hmessage
    split at hmessage
    · cases hmessage
    · rw [List.mem_singleton.mp hmessage]
      exact hown delivery hdelivery

end BulkJobs
