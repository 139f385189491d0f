import BulkJobs.Proofs.Http.Delivery
import BulkJobs.Proofs.Org.Reaching
import Mathlib.Data.List.Forall2
import Mathlib.Data.Option.Basic

/-!
# Two runs with different tokens

Two messages are alike when they differ only in the token that their authorization carries, and two
states of the network when they differ only in such messages. A request that is authorized with one
token or another becomes like messages, or fails for the same reason (`prepare_authorized`): names
of headers decide which defaults are added, and the names are the same (`completeHeaders_alike`).
What a message meets with depends on its method and URL alone, and a redirect leads like messages on
to like messages, as headers are dropped by their names (`Process.carry_alike`); so two runs that
send like messages go on alike. `Exchange.Alike` says so of two computations, and is carried through
the ways to build them; a computation that looks at the state of the network must make the same of
like states (`Alike.get_bind`).
-/

set_option autoImplicit false
set_option relaxedAutoImplicit false

namespace BulkJobs.Http

variable {token token' : String}

/-! ### Headers -/

/-- Whether two headers are the same, or carry the two tokens for authorization: then they have the
same name and differ in the token alone. -/
inductive Header.Alike (token token' : String) : Header → Header → Prop where
  | same (header : Header) : Alike token token' header header
  | bearer : Alike token token' ⟨"authorization", "Bearer " ++ token⟩
      ⟨"authorization", "Bearer " ++ token'⟩

/-- Whether two lists of headers are alike, one by one. -/
abbrev Header.AllAlike (token token' : String) : List Header → List Header → Prop :=
  List.Forall₂ (Header.Alike token token')

theorem Header.Alike.name_eq {header header' : Header}
    (h : Header.Alike token token' header header') : header.name = header'.name := by
  cases h <;> rfl

namespace Header.AllAlike

variable {headers headers' : List Header}

/-- Headers are picked by their names (`keeps`), so what is picked of like headers is alike. -/
theorem filter (h : AllAlike token token' headers headers') (keeps : String → Bool) :
    AllAlike token token' (headers.filter fun header ↦ keeps header.name)
      (headers'.filter fun header ↦ keeps header.name) :=
  List.rel_filter (fun _ _ hlike ↦ by simp only [hlike.name_eq]) h

theorem has_eq (h : AllAlike token token' headers headers') (name : String) :
    has name headers = has name headers' := by
  induction h with
  | nil => rfl
  | cons hhead htail ih =>
    simp only [has, List.any_cons] at ih ⊢
    cases hhead <;> rw [ih]

theorem addIfAbsent (h : AllAlike token token' headers headers') (header : Header) :
    AllAlike token token' (header.addIfAbsent headers) (header.addIfAbsent headers') := by
  unfold Header.addIfAbsent
  rw [h.has_eq]
  split_ifs
  · exact h
  · exact List.rel_append h (.cons (.same header) .nil)

theorem addWhen (h : AllAlike token token' headers headers') (header : Header)
    {wanted wanted' : Bool} (hwanted : wanted = wanted') :
    AllAlike token token' (if wanted then header.addIfAbsent headers else headers)
      (if wanted' then header.addIfAbsent headers' else headers') := by
  subst hwanted
  cases wanted
  · exact h
  · exact h.addIfAbsent header

end Header.AllAlike

theorem rel_mapM {α β : Type} {R : β → β → Prop} {f : α → Option β} {items items' : List α}
    (h : List.Forall₂ (fun item item' ↦ Option.Rel R (f item) (f item')) items items') :
    Option.Rel (List.Forall₂ R) (items.mapM f) (items'.mapM f) := by
  induction h with
  | nil => exact .some .nil
  | @cons item item' items items' hhead htail ih =>
    rw [List.mapM_cons, List.mapM_cons]
    generalize f item = made, f item' = made' at hhead
    generalize items.mapM f = rest, items'.mapM f = rest' at ih
    cases hhead with
    | none => exact .none
    | some hhead =>
      cases ih with
      | none => exact .none
      | some ih => exact .some (.cons hhead ih)

theorem Header.make?_bearer (htoken : Header.isValue token = true) :
    Header.make? "Authorization" ("Bearer " ++ token) =
      some ⟨"authorization", "Bearer " ++ token⟩ := by
  have hname : Header.isName "Authorization" = true := by decide +kernel
  have hlower : Text.lowerAsciiText "Authorization" = "authorization" := by decide +kernel
  have hvalue : Header.isValue ("Bearer " ++ token) = true := isValue_append (by decide) htoken
  rw [Header.make?, hname, hvalue, hlower]
  rfl

/-! ### Messages -/

/-- Whether two messages differ only in the token that they carry: method, URL and body are the
same, and their headers are alike. -/
structure Message.Alike (token token' : String) (message message' : Message) : Prop where
  method : message.method = message'.method
  url : message.url = message'.url
  body : message.body = message'.body
  headers : Header.AllAlike token token' message.headers message'.headers

namespace Request

theorem ownHeaders?_authorized (htoken : Header.isValue token = true)
    (htoken' : Header.isValue token' = true) (request : Request)
    (credentials : Option (String × String)) :
    Option.Rel (Header.AllAlike token token')
      ((request.authorized token).ownHeaders? credentials)
      ((request.authorized token').ownHeaders? credentials) := by
  have hsame : ∀ pairs : List (String × String), List.Forall₂ (fun pair pair' ↦
      Option.Rel (Header.Alike token token') (Header.make? pair.1 pair.2)
        (Header.make? pair'.1 pair'.2)) pairs pairs := by
    intro pairs
    refine List.forall₂_same.mpr fun pair _ ↦ ?_
    cases Header.make? pair.1 pair.2 with
    | none => exact .none
    | some header => exact .some (.same header)
  refine rel_mapM (List.rel_append (List.rel_append (hsame _) (.cons ?_ .nil)) (hsame _))
  rw [Header.make?_bearer htoken, Header.make?_bearer htoken']
  exact .some .bearer

theorem completeHeaders_alike {own own' : List Header}
    (h : Header.AllAlike token token' own own') (config : Config) (url : Url) (json : Bool) :
    Header.AllAlike token token' (completeHeaders config url json own)
      (completeHeaders config url json own') := by
  have hjson := h.addWhen ⟨"content-type", "application/json"⟩ (rfl : json = json)
  have hagent := (hjson.addIfAbsent ⟨"accept", "*/*"⟩).addIfAbsent ⟨"user-agent", config.userAgent⟩
  have hencoding := hagent.addWhen ⟨"accept-encoding", "gzip,deflate"⟩
    (congrArg (config.compression.isOffered && !·) (hagent.has_eq "range"))
  unfold completeHeaders
  simp only
  split
  · exact hencoding.addIfAbsent _
  · exact hencoding

/-- What becomes of a request whose URL can be read (`hparse`): one that asks for the URL, or a
failure that does not depend on the token. -/
theorem prepare_of_parse {config : Config} (request : Request) {written : Url}
    (hparse : Url.parse request.url = .ok written) :
    request.prepare config =
      if written.host?.isNone then .error (unbuildableFor written)
      else match request.ownHeaders? (urlCredentials? written) with
        | none => .error unbuildable
        | some own =>
          let url := request.destination written
          if url.scheme != "http" && url.scheme != "https" || !isCarriable url then
            .error (unbuildableFor url)
          else .ok (request.messageTo config written own) := by
  unfold prepare
  rw [hparse]
  cases hhost : written.host? with
  | none =>
    simp only [hhost, Option.isNone_none, if_true]
    rfl
  | some host =>
    simp only [hhost, Option.isNone_some, Bool.false_eq_true, if_false]
    cases request.ownHeaders? (urlCredentials? written) <;> rfl

/-- A request that is authorized with one token or another becomes like messages, or fails for the
same reason. -/
theorem prepare_authorized (htoken : Header.isValue token = true)
    (htoken' : Header.isValue token' = true) (config : Config) (request : Request) :
    (∃ failure, (request.authorized token).prepare config = .error failure ∧
        (request.authorized token').prepare config = .error failure) ∨
      ∃ message message', (request.authorized token).prepare config = .ok message ∧
        (request.authorized token').prepare config = .ok message' ∧
        Message.Alike token token' message message' := by
  cases hparse : Url.parse request.url with
  | error problem =>
    have hunfit (token : String) :
        (request.authorized token).prepare config = .error unbuildable := by
      unfold prepare
      rw [show (request.authorized token).url = request.url from rfl, hparse]
      rfl
    exact .inl ⟨unbuildable, hunfit token, hunfit token'⟩
  | ok written =>
    have hown := ownHeaders?_authorized htoken htoken' request (urlCredentials? written)
    have hdestination (token : String) :
        (request.authorized token).destination written = request.destination written := rfl
    rw [prepare_of_parse (request.authorized token) hparse,
      prepare_of_parse (request.authorized token') hparse]
    simp only [hdestination]
    generalize (request.authorized token).ownHeaders? _ = own,
      (request.authorized token').ownHeaders? _ = own' at hown
    cases hown with
    | none => split_ifs <;> exact .inl ⟨_, rfl, rfl⟩
    | some hown =>
      simp only
      split_ifs
      · exact .inl ⟨_, rfl, rfl⟩
      · exact .inl ⟨_, rfl, rfl⟩
      · exact .inr ⟨_, _, rfl, rfl, rfl, rfl, rfl, completeHeaders_alike hown _ _ _⟩

end Request

/-! ### States of the network -/

/-- Whether two states of the network differ only in the tokens of the messages that were sent; what
is to come is the same. -/
structure Traffic.Alike (token token' : String) (traffic traffic' : Traffic) : Prop where
  reachable : traffic.reachable = traffic'.reachable
  replies : traffic.replies = traffic'.replies
  sent : List.Forall₂ (Message.Alike token token') traffic.sent traffic'.sent

theorem Message.Alike.refl (token token' : String) (message : Message) :
    Message.Alike token token' message message :=
  ⟨rfl, rfl, rfl, List.forall₂_same.mpr fun header _ ↦ .same header⟩

theorem Traffic.Alike.refl (token token' : String) (traffic : Traffic) :
    Traffic.Alike token token' traffic traffic :=
  ⟨rfl, rfl, List.forall₂_same.mpr fun message _ ↦ .refl token token' message⟩

/-! ### Deliveries -/

namespace Message.Alike

variable {message message' : Message}

theorem headersOnward (h : Message.Alike token token' message message') (status : Nat)
    (url : Url) : Header.AllAlike token token' (message.headersOnward status url)
      (message'.headersOnward status url) := by
  have hunbodied : Header.AllAlike token token'
      (if Message.becomesGet message.method status then
        message.headers.filter fun header ↦ !Message.bodyHeaders.contains header.name
        else message.headers)
      (if Message.becomesGet message'.method status then
        message'.headers.filter fun header ↦ !Message.bodyHeaders.contains header.name
        else message'.headers) := by
    rw [← h.method]
    split_ifs
    · exact h.headers.filter fun name ↦ !Message.bodyHeaders.contains name
    · exact h.headers
  unfold Message.headersOnward
  rw [← h.url]
  generalize (if Message.becomesGet message.method status then _ else _) = unbodied,
    (if Message.becomesGet message'.method status then _ else _) = unbodied' at hunbodied ⊢
  have hkept : Header.AllAlike token token'
      (if Message.sharesHost message.url url then unbodied
        else unbodied.filter fun header ↦ !Message.hostHeaders.contains header.name)
      (if Message.sharesHost message.url url then unbodied'
        else unbodied'.filter fun header ↦ !Message.hostHeaders.contains header.name) := by
    split_ifs
    · exact hunbodied
    · exact hunbodied.filter fun name ↦ !Message.hostHeaders.contains name
  cases Message.referer? message.url url with
  | none => exact hkept
  | some referer =>
    exact List.rel_append (hkept.filter (· != "referer")) (.cons (.same referer) .nil)

/-- A reply leads like messages (`h`) on to like messages, or neither of them to any. -/
theorem next? (h : Message.Alike token token' message message') (reply : Reply) :
    Option.Rel (Message.Alike token token') (message.next? reply) (message'.next? reply) := by
  have hleads : message.redirection? reply = message'.redirection? reply := by
    rw [Message.redirection?, h.url, Message.redirection?]
  unfold Message.next?
  rw [hleads]
  split_ifs
  · cases (message'.redirection? reply).filter
        fun url ↦ url.scheme == "http" || url.scheme == "https" with
    | none => exact .none
    | some url =>
      refine .some ⟨?_, rfl, ?_, h.headersOnward reply.status url⟩
      · rw [Message.onward, h.method, Message.onward]
      · rw [Message.onward, h.method, h.body, Message.onward]
  · exact .none

/-- Like messages (`h`) take the same reply from like states of the network (`hlike`), and leave
like states. -/
theorem pass (h : Message.Alike token token' message message') {traffic traffic' : Traffic}
    (hlike : Traffic.Alike token token' traffic traffic') :
    (traffic.pass message).1 = (traffic'.pass message').1 ∧
      Traffic.Alike token token' (traffic.pass message).2 (traffic'.pass message').2 := by
  have htarget : message.target = message'.target := by rw [Message.target, h.url, Message.target]
  have htake : Reply.take message traffic.replies = Reply.take message' traffic'.replies := by
    rw [hlike.replies]
    induction traffic'.replies with
    | nil => rfl
    | cons reply replies ih =>
      have hfor : reply.isFor message = reply.isFor message' := by
        rw [Reply.isFor, h.method, htarget, Reply.isFor]
      rw [Reply.take, ih, hfor, Reply.take]
  unfold Traffic.pass
  rw [hlike.reachable, htake]
  split_ifs
  · refine ⟨rfl, rfl, rfl, List.rel_append hlike.sent ?_⟩
    cases hrefused : (Reply.take message' traffic'.replies).1.isRefused with
    | true => simp [sentOf, hrefused]
    | false => simpa [sentOf, hrefused] using h
  · exact ⟨rfl, hlike⟩

end Message.Alike

/-- Whether the same arrives of two deliveries: it depends on the first and the last URL and on the
last reply. -/
structure Delivery.ArrivesAlike (delivery delivery' : Delivery) : Prop where
  first : delivery.message.url = delivery'.message.url
  last : delivery.last.url = delivery'.last.url
  reply : delivery.reply = delivery'.reply

theorem Delivery.ArrivesAlike.arrival_eq {delivery delivery' : Delivery}
    (h : delivery.ArrivesAlike delivery') : delivery.arrival = delivery'.arrival := by
  have hleads : delivery.last.redirection? delivery'.reply =
      delivery'.last.redirection? delivery'.reply := by
    rw [Message.redirection?, h.last, Message.redirection?]
  have hshown : delivery.message.shownUrl = delivery'.message.shownUrl :=
    congrArg Url.write h.first
  have hlast : delivery.last.shownUrl = delivery'.last.shownUrl := congrArg Url.write h.last
  unfold Delivery.arrival
  rw [h.reply, hleads, hshown, hlast]

/-- Like messages (`h`) are followed by like messages when they are carried from like states of the
network (`hlike`), and the same arrives of them. -/
theorem Process.carry_alike {message message' : Message}
    (h : Message.Alike token token' message message') {traffic traffic' : Traffic}
    (hlike : Traffic.Alike token token' traffic traffic') (hops : Nat) :
    ((carry hops message).run traffic).1.ArrivesAlike ((carry hops message').run traffic').1 ∧
      Traffic.Alike token token' ((carry hops message).run traffic).2
        ((carry hops message').run traffic').2 := by
  induction hops generalizing message message' traffic traffic' with
  | zero =>
    obtain ⟨hreply, hafter⟩ := h.pass hlike
    exact ⟨⟨h.url, h.url, hreply⟩, hafter⟩
  | succ hops ih =>
    obtain ⟨hreply, hafter⟩ := h.pass hlike
    cases hpass : traffic.pass message with
    | mk reply after =>
      cases hpass' : traffic'.pass message' with
      | mk reply' after' =>
        rw [hpass, hpass'] at hreply hafter
        obtain rfl : reply = reply' := hreply
        have hboth := h.next? reply
        generalize hnext : message.next? reply = next,
          hnext' : message'.next? reply = next' at hboth
        cases hboth with
        | none =>
          rw [carry_of_pass hpass hnext, carry_of_pass hpass' hnext']
          exact ⟨⟨h.url, h.url, rfl⟩, hafter⟩
        | some hmessages =>
          obtain ⟨hlater, hend⟩ := ih hmessages hafter
          rw [carry_of_next hpass hnext, carry_of_next hpass' hnext']
          refine ⟨⟨h.url, ?_, hlater.reply⟩, hend⟩
          rw [Delivery.last_behind, Delivery.last_behind]
          exact hlater.last

/-! ### Computations -/

namespace Exchange

variable {ε ε' α β : Type} {x y : Exchange ε α} {f g : α → Exchange ε β}

/-- Whether two computations come to the same and send like messages, from whatever two like states
of the network. -/
def Alike (token token' : String) (x y : Exchange ε α) : Prop :=
  ∀ traffic traffic', Traffic.Alike token token' traffic traffic' →
    (x traffic).1 = (y traffic').1 ∧ Traffic.Alike token token' (x traffic).2 (y traffic').2

namespace Alike

theorem ofExcept (result : Except ε α) :
    Alike token token' (Exchange.ofExcept result) (Exchange.ofExcept result) :=
  fun _ _ hlike ↦ ⟨rfl, hlike⟩

theorem pure (value : α) :
    Alike token token' (Pure.pure value : Exchange ε α) (Pure.pure value) :=
  ofExcept (.ok value)

theorem throw (failure : ε) :
    Alike token token' (MonadExcept.throw failure : Exchange ε α) (MonadExcept.throw failure) :=
  ofExcept (.error failure)

theorem bind (hx : Alike token token' x y) (hf : ∀ value, Alike token token' (f value) (g value)) :
    Alike token token' (x >>= f) (y >>= g) := by
  intro traffic traffic' hlike
  obtain ⟨hresult, hafter⟩ := hx traffic traffic' hlike
  cases hrun : x traffic with
  | mk result after =>
    cases hrun' : y traffic' with
    | mk result' after' =>
      rw [hrun, hrun'] at hresult hafter
      obtain rfl : result = result' := hresult
      cases result with
      | error failure =>
        rw [bind_of_error hrun, bind_of_error hrun']
        exact ⟨rfl, hafter⟩
      | ok value =>
        rw [bind_of_ok hrun, bind_of_ok hrun']
        exact hf value after after' hafter

/-- The states themselves may differ, in messages; what is made of them must not. -/
theorem get_bind {f g : Traffic → Exchange ε β}
    (hf : ∀ traffic traffic', Traffic.Alike token token' traffic traffic' →
      Alike token token' (f traffic) (g traffic')) :
    Alike token token' (get >>= f) (get >>= g) :=
  fun traffic traffic' hlike ↦ hf traffic traffic' hlike traffic traffic' hlike

theorem mapFailure (h : ε → ε') (hx : Alike token token' x y) :
    Alike token token' (x.mapFailure h) (y.mapFailure h) := by
  intro traffic traffic' hlike
  obtain ⟨hresult, hafter⟩ := hx traffic traffic' hlike
  exact ⟨congrArg (·.mapError h) hresult, hafter⟩

theorem attempt (hx : Alike token token' x y) :
    Alike token token' (x.attempt : Exchange ε' (Except ε α)) y.attempt := by
  intro traffic traffic' hlike
  obtain ⟨hresult, hafter⟩ := hx traffic traffic' hlike
  exact ⟨congrArg Except.ok hresult, hafter⟩

/-- The same arrives of like messages (`h`) that are delivered. -/
theorem deliver {message message' : Message} (h : Message.Alike token token' message message') :
    Alike token token' (Http.deliver message) (Http.deliver message') := by
  intro traffic traffic' hlike
  obtain ⟨harrives, hafter⟩ := Process.carry_alike h hlike redirectLimit
  exact ⟨harrives.arrival_eq, hafter⟩

/-- A request is sent with one token as with another: it fails in the same way, or the same arrives
of it, and the messages are alike. -/
theorem execute (htoken : Header.isValue token = true) (htoken' : Header.isValue token' = true)
    (config : Config) (request : Request) :
    Alike token token' (Http.execute config (request.authorized token))
      (Http.execute config (request.authorized token')) := by
  unfold Http.execute
  rcases Request.prepare_authorized htoken htoken' config request with
    ⟨failure, hfailure, hfailure'⟩ | ⟨message, message', hmessage, hmessage', hlike⟩
  · rw [hfailure, hfailure']
    exact throw failure
  · rw [hmessage, hmessage']
    exact (deliver hlike).bind fun response ↦ ofExcept response.accept

theorem executeJson (htoken : Header.isValue token = true)
    (htoken' : Header.isValue token' = true) (config : Config) (decode : Json.Decoder α)
    (request : Request) :
    Alike token token' (Http.executeJson config decode (request.authorized token))
      (Http.executeJson config decode (request.authorized token')) :=
  (execute htoken htoken' config request).bind fun response ↦ ofExcept (response.readJson decode)

end Alike

end Exchange

end BulkJobs.Http
