import BulkJobs.Proofs.Client.IngestAct
import BulkJobs.Proofs.Org.Reaching

/-!
# Chains of pages

A service that answers in pages says in each page where the next one is. `Paging` is what a client
knows of such a chain: the request for the page at a place, how a page is read from a response, and
which place follows. `Paging.Chain` says that the pages from a place on were asked for one after
another, until one failed or none followed; what it tells of its acts is stated once for all chains
(`Chain.follows`, `Chain.mem_place`, `Chain.result_eq`). `Paging.Trail` says in addition that
between two states of the network nothing else was delivered (`Trail.sent_eq`); from one state on
there is one trail (`Trail.unique`).

Collecting the pages of a chain is a process that stops at each message, and what it is shown are
the messages and replies of a chain, as soon as it may ask more often than replies can be taken
(`collect_shows_iff`): a page takes a reply. So it leaves a trail when it is carried out
(`collect_trail`); its result is the list of the pages, or the failure of the one that failed.
-/

set_option autoImplicit false
set_option relaxedAutoImplicit false

namespace BulkJobs

open Http (Answered Delivery Message Passed Process Received Reply Response Traffic)

/-- A chain of pages: `σ` are the places where pages are, and `π` the pages. A page may name the
place of the next one, and the settings are those that all requests are sent with. -/
structure Paging (σ π : Type) where
  config : Http.Config
  request : σ → Http.Request
  read : Response → Except Failure π
  /-- The place of the page after a page at a place, if there is one. -/
  next? : σ → π → Option σ

/-- A place, the delivery of the request for its page if it could be built, and what became of the
page. -/
structure PageAct (σ π : Type) where
  place : σ
  delivery : Option Delivery
  page : Except Failure π

variable {σ π : Type}

namespace PageAct

variable {paging : Paging σ π} {act : PageAct σ π} {traffic traffic' : Traffic}

/-- The messages of an act, those that redirects led to included, with the replies that they meet
with. -/
def hops (act : PageAct σ π) : List (Message × Reply) :=
  act.delivery.toList.flatMap (·.hops)

/-- The messages of an act that are sent: that of its request, unless it could not be built or its
host could not be connected to, and those that redirects led to. -/
def messages (act : PageAct σ π) : List Message :=
  act.delivery.toList.flatMap (·.messages)

/-- The message of the request of an act, if it is sent: the first one of the act. -/
def message? (act : PageAct σ π) : Option Message :=
  act.messages.head?

/-- The place that follows an act, if its page was read and names one. -/
def next? (paging : Paging σ π) (act : PageAct σ π) : Option σ :=
  act.page.toOption.bind (paging.next? act.place)

/-- Whether an act is what becomes of the request for its page: how the request is answered, and
what is read from the answer. -/
def Fits (paging : Paging σ π) (act : PageAct σ π) : Prop :=
  ∃ answer, Answered paging.config (paging.request act.place) act.delivery answer ∧
    act.page = (answer.mapError Failure.ofHttp).bind paging.read

/-- Whether an act takes place between two states of the network: its place leads to its delivery
and page (`Fits`), and its messages pass through the network (`Passed`). -/
structure Happens (paging : Paging σ π) (traffic : Traffic) (act : PageAct σ π)
    (traffic' : Traffic) : Prop where
  fits : act.Fits paging
  received : Received traffic act.delivery.toList traffic'

theorem next?_of_error {failure : Failure} (hpage : act.page = .error failure) :
    act.next? paging = none := by
  rw [next?, hpage]
  rfl

theorem next?_of_ok {page : π} (hpage : act.page = .ok page) :
    act.next? paging = paging.next? act.place page := by
  rw [next?, hpage]
  rfl

/-- Only a page that was read is followed by another, so a failure is the end (`hnext`). -/
theorem exists_of_next? {next : σ} (hnext : act.next? paging = some next) :
    ∃ page, act.page = .ok page ∧ paging.next? act.place page = some next := by
  cases hpage : act.page with
  | error failure =>
    rw [next?_of_error hpage] at hnext
    cases hnext
  | ok page =>
    rw [next?_of_ok hpage] at hnext
    exact ⟨page, rfl, hnext⟩

theorem messages_of_delivery {delivery : Delivery} (hdelivery : act.delivery = some delivery) :
    act.messages = delivery.messages := by
  rw [messages, hdelivery]
  exact List.flatMap_singleton ..

namespace Fits

/-- A request for a page is delivered exactly when it can be built. -/
theorem isSome_iff (hact : act.Fits paging) : act.delivery.isSome ↔
    ∃ message, (paging.request act.place).prepare paging.config = .ok message := by
  obtain ⟨answer, hanswered, -⟩ := hact
  exact hanswered.isSome_iff

/-- What is delivered (`hdelivery`) is the message that the request for the page becomes, and the
page is read from the answer, or the failure of the two is that of the page. -/
theorem of_delivery {delivery : Delivery} (hact : act.Fits paging)
    (hdelivery : act.delivery = some delivery) :
    (paging.request act.place).prepare paging.config = .ok delivery.message ∧
      Http.Followed Http.redirectLimit delivery.message delivery ∧
      act.page = (delivery.answer.mapError Failure.ofHttp).bind paging.read := by
  obtain ⟨answer, hanswered, hread⟩ := hact
  rw [hdelivery] at hanswered
  cases hanswered with
  | delivered hprepare hfollowed => exact ⟨hprepare, hfollowed, hread⟩

/-- A request that cannot be built (`hprepare`) is not delivered, and the page fails as building it
does. -/
theorem page_of_unfit {failure : Http.Failure} (hact : act.Fits paging)
    (hprepare : (paging.request act.place).prepare paging.config = .error failure) :
    act.delivery = none ∧ act.page = .error (Failure.ofHttp failure) := by
  obtain ⟨place, delivery, page⟩ := act
  obtain ⟨answer, hanswered, hread⟩ := hact
  cases hanswered with
  | unfit hfailure =>
    rw [hprepare] at hfailure
    cases hfailure
    exact ⟨rfl, hread⟩
  | delivered hmessage hfollowed =>
    rw [hprepare] at hmessage
    cases hmessage

/-- A page that was read (`hpage`) was delivered, and at least one reply was taken for it. -/
theorem exists_delivery {page : π} (hact : act.Fits paging) (hpage : act.page = .ok page) :
    (∃ delivery response, act.delivery = some delivery ∧ delivery.answer = .ok response ∧
      paging.read response = .ok page) ∧ 0 < act.hops.countP (·.2.IsTaken) := by
  obtain ⟨answer, hanswered, hread⟩ := hact
  rw [hpage] at hread
  cases answer with
  | error failure => cases hread
  | ok response =>
    obtain ⟨delivery, hdelivery, hanswer, htaken⟩ := hanswered.of_ok
    refine ⟨⟨delivery, response, hdelivery, hanswer, hread.symm⟩, ?_⟩
    rw [hops, hdelivery]
    simpa using htaken

/-- The request of an act is sent exactly when it can be built and its host be connected to
(`Delivery.IsUnreached`). -/
theorem messages_ne_nil_iff (hact : act.Fits paging) : act.messages ≠ [] ↔
    (∃ message, (paging.request act.place).prepare paging.config = .ok message) ∧
      ∀ delivery, act.delivery = some delivery → ¬delivery.IsUnreached := by
  rw [← hact.isSome_iff]
  cases hdelivery : act.delivery with
  | none => simp [messages, hdelivery]
  | some delivery =>
    obtain ⟨-, hfollowed, -⟩ := hact.of_delivery hdelivery
    rw [messages_of_delivery hdelivery, ne_eq, hfollowed.messages_eq_nil_iff]
    simp

/-- The message of a request that is sent (`hmessage`) is the one that was to be delivered, and the
first of those that the act sends. -/
theorem exists_of_message? {message : Message} (hact : act.Fits paging)
    (hmessage : act.message? = some message) : act.messages ≠ [] ∧
      ∃ delivery, act.delivery = some delivery ∧ delivery.message = message := by
  have hsent : act.messages ≠ [] := by
    intro hnone
    rw [message?, hnone] at hmessage
    cases hmessage
  refine ⟨hsent, ?_⟩
  cases hdelivery : act.delivery with
  | none => exact absurd (by rw [messages, hdelivery]; rfl) hsent
  | some delivery =>
    obtain ⟨-, hfollowed, -⟩ := hact.of_delivery hdelivery
    rw [messages_of_delivery hdelivery] at hsent
    rw [message?, messages_of_delivery hdelivery, hfollowed.head?_messages hsent] at hmessage
    exact ⟨delivery, rfl, Option.some.inj hmessage⟩

end Fits

/-- From one state of the network on, one act happens at a place. -/
theorem Happens.unique {other : PageAct σ π} {traffic'' : Traffic}
    (hact : act.Happens paging traffic traffic') (hother : other.Happens paging traffic traffic'')
    (hplace : act.place = other.place) : act = other ∧ traffic' = traffic'' := by
  obtain ⟨place, delivery, page⟩ := act
  obtain ⟨place', delivery', page'⟩ := other
  obtain rfl : place = place' := hplace
  obtain ⟨⟨answer, hanswered, rfl⟩, hreceived⟩ := hact
  obtain ⟨⟨answer', hanswered', rfl⟩, hreceived'⟩ := hother
  have hattempt : Http.Attempt paging.config (paging.request place) traffic delivery answer
      traffic' := ⟨hanswered, hreceived⟩
  obtain ⟨rfl, rfl, rfl⟩ := hattempt.unique ⟨hanswered', hreceived'⟩
  exact ⟨rfl, rfl⟩

/-- A page that was read (`hpage`) takes one of the replies that are to come, so there are fewer
behind it. -/
theorem Happens.length_replies {page : π} (hact : act.Happens paging traffic traffic')
    (hpage : act.page = .ok page) : traffic'.replies.length < traffic.replies.length := by
  obtain ⟨-, htaken⟩ := hact.fits.exists_delivery hpage
  have hlength := hact.received.passed.length_le
  rw [← hops] at hlength
  omega

/-- Whether the page of an act is asked for at the URL `target`: the one that a text is read as,
with parameters behind those of its query. -/
structure IsAskedAt (act : PageAct σ π) (text : String) (parameters : List (String × String))
    (target : Url) : Prop where
  leads : ∃ written, Url.parse text = .ok written ∧ Http.Extends target written parameters
  built_iff : act.delivery.isSome ↔ Http.Request.isCarriable target = true
  sent_iff : act.messages ≠ [] ↔ Http.Request.isCarriable target = true ∧
    ∀ delivery, act.delivery = some delivery → ¬delivery.IsUnreached
  message : ∀ delivery, act.delivery = some delivery →
    delivery.message.method = .get ∧ delivery.message.url = target
  unfit : Http.Request.isCarriable target = false →
    act.page = .error (Failure.ofHttp (Http.unbuildableFor target))

/-- At a plain instance (`hplain`), a request with fit headers is sent where its URL leads, with its
parameters in the query (`IsAskedAt`), unless no request line can carry that URL. -/
theorem Fits.isAskedAt {org : Org} {scheme host text : String}
    {parameters : List (String × String)} (hplain : org.IsPlain scheme host)
    (hact : act.Fits paging) (hmethod : (paging.request act.place).method = .get)
    (hurl : (paging.request act.place).url = org.url text) (htext : org.url text = text)
    (hquery : (paging.request act.place).query = parameters)
    (hown : ∀ credentials, ((paging.request act.place).ownHeaders? credentials).isSome) :
    ∃ written, Url.parse text = .ok written ∧
      act.IsAskedAt text parameters ((paging.request act.place).destination written) := by
  obtain ⟨written, own, hwritten, hprepare⟩ := hplain.prepare_eq hurl hown paging.config
  rw [htext] at hwritten
  have hbuilt : (∃ message, (paging.request act.place).prepare paging.config = .ok message) ↔
      Http.Request.isCarriable ((paging.request act.place).destination written) = true := by
    rw [hprepare]
    split_ifs with hfits <;> simp [hfits]
  refine ⟨written, hwritten, ⟨⟨written, hwritten, ?_⟩, ?_, ?_, ?_, ?_⟩⟩
  · rw [← hquery]
    exact Http.Request.destination_extends _ written
  · rw [hact.isSome_iff, hbuilt]
  · rw [hact.messages_ne_nil_iff, hbuilt]
  · intro delivery hdelivery
    obtain ⟨hmessage, -⟩ := hact.of_delivery hdelivery
    rw [hprepare] at hmessage
    split_ifs at hmessage
    rw [← Except.ok.inj hmessage]
    exact ⟨hmethod, rfl⟩
  · intro hunfit
    rw [hunfit, if_neg Bool.false_ne_true] at hprepare
    exact (hact.page_of_unfit hprepare).2

end PageAct

namespace Paging

variable {paging : Paging σ π} {place : σ} {traffic traffic' traffic'' : Traffic}
  {acts : List (PageAct σ π)}

/-! ### Chains -/

/-- Whether the pages from a place on are asked for one after another, each at the place that the
one before it names, until one names none or fails. -/
inductive Chain (paging : Paging σ π) : σ → List (PageAct σ π) → Prop where
  | last {act : PageAct σ π} : act.Fits paging → act.next? paging = none →
      Chain paging act.place [act]
  | more {act : PageAct σ π} {next : σ} {acts : List (PageAct σ π)} : act.Fits paging →
      act.next? paging = some next → Chain paging next acts → Chain paging act.place (act :: acts)

namespace Chain

theorem head?_place (hchain : paging.Chain place acts) :
    acts.head?.map (·.place) = some place := by
  cases hchain <;> rfl

theorem fits (hchain : paging.Chain place acts) : ∀ act ∈ acts, act.Fits paging := by
  induction hchain with
  | last hfirst hnone => exact List.forall_mem_singleton.mpr hfirst
  | more hfirst hnext hrest ih => exact List.forall_mem_cons.mpr ⟨hfirst, ih⟩

/-- What comes behind an act of a chain is at the place that follows the act, if one does, and
nothing comes behind it otherwise. -/
theorem follows (hchain : paging.Chain place acts) {before after : List (PageAct σ π)}
    {act : PageAct σ π} (hacts : acts = before ++ act :: after) :
    after.head?.map (·.place) = act.next? paging := by
  induction hchain generalizing before with
  | @last first hfirst hnone =>
    obtain ⟨rfl, hsingle⟩ | ⟨front, -, hempty⟩ := List.append_eq_cons_iff.mp hacts.symm
    · cases hsingle
      exact hnone.symm
    · simp at hempty
  | @more first next _ hfirst hnext hrest ih =>
    obtain ⟨rfl, hsame⟩ | ⟨front, rfl, hfront⟩ := List.append_eq_cons_iff.mp hacts.symm
    · cases hsame
      rw [hnext]
      exact hrest.head?_place
    · exact ih hfront

/-- Each act of a chain is at the place where the chain starts, or at one that an act of the chain
leads to. -/
theorem mem_place (hchain : paging.Chain place acts) {act : PageAct σ π} (hact : act ∈ acts) :
    act.place = place ∨ ∃ earlier ∈ acts, earlier.next? paging = some act.place := by
  induction hchain with
  | last hfirst hnone => exact .inl (congrArg _ (List.mem_singleton.mp hact))
  | @more first next acts hfirst hnext hrest ih =>
    rcases List.mem_cons.mp hact with rfl | hact
    · exact .inl rfl
    · right
      rcases ih hact with hplace | ⟨earlier, hearlier, hleads⟩
      · exact ⟨first, List.mem_cons_self, hnext.trans (congrArg some hplace.symm)⟩
      · exact ⟨earlier, List.mem_cons_of_mem _ hearlier, hleads⟩

/-- Each page of a chain but the last one takes a reply. -/
theorem length_le (hchain : paging.Chain place acts) :
    acts.length ≤ (acts.flatMap (·.hops)).countP (·.2.IsTaken) + 1 := by
  induction hchain with
  | last hfirst hnone => exact Nat.le_add_left 1 _
  | more hfirst hnext hrest ih =>
    obtain ⟨page, hpage, -⟩ := PageAct.exists_of_next? hnext
    obtain ⟨-, htaken⟩ := hfirst.exists_delivery hpage
    rw [List.length_cons, List.flatMap_cons, List.countP_append]
    omega

/-- Nothing is asked for behind a page that failed (`hpage`): it is the last one of its chain. -/
theorem eq_last_of_error (hchain : paging.Chain place acts) {act : PageAct σ π}
    (hact : act ∈ acts) {failure : Failure} (hpage : act.page = .error failure) :
    ∃ before, acts = before ++ [act] := by
  obtain ⟨before, after, rfl⟩ := List.append_of_mem hact
  have hnone := hchain.follows rfl
  rw [PageAct.next?_of_error hpage, Option.map_eq_none_iff, List.head?_eq_none_iff] at hnone
  exact ⟨before, by rw [hnone]⟩

/-- Where the first request of a chain cannot be built (`hprepare`), it is the only one, and nothing
is delivered. -/
theorem eq_single_of_unfit (hchain : paging.Chain place acts) {failure : Http.Failure}
    (hprepare : (paging.request place).prepare paging.config = .error failure) :
    ∃ act, acts = [act] ∧ act.delivery = none := by
  cases hchain with
  | @last act hact hnone => exact ⟨act, rfl, (hact.page_of_unfit hprepare).1⟩
  | more hact hnext hrest =>
    rw [PageAct.next?_of_error (hact.page_of_unfit hprepare).2] at hnext
    cases hnext

/-- A failure of a page (`hpage`) is the failure of all pages together, as none comes before it. -/
theorem mapM_page_of_error (hchain : paging.Chain place acts) {act : PageAct σ π}
    (hact : act ∈ acts) {failure : Failure} (hpage : act.page = .error failure) :
    acts.mapM (·.page) = .error failure := by
  induction hchain with
  | last hfirst hnone =>
    obtain rfl := List.mem_singleton.mp hact
    rw [List.mapM_cons, hpage]
    rfl
  | @more first _ _ hfirst hnext hrest ih =>
    rcases List.mem_cons.mp hact with rfl | hact
    · rw [PageAct.next?_of_error hpage] at hnext
      cases hnext
    · cases hokay : first.page with
      | error other =>
        rw [PageAct.next?_of_error hokay] at hnext
        cases hnext
      | ok page =>
        rw [List.mapM_cons, hokay, ih hact]
        rfl

/-- What is made of the pages of a chain is made of all of them, or it is the failure of the page
that failed, and that one is the last. -/
theorem result_eq (hchain : paging.Chain place acts) {ρ : Type} {make : List π → ρ}
    {result : Except Failure ρ} (hresult : result = Except.map make (acts.mapM (·.page))) :
    (∀ pages : List π, acts.map (·.page) = pages.map .ok → result = .ok (make pages)) ∧
      ∀ act ∈ acts, ∀ failure, act.page = .error failure →
        result = .error failure ∧ ∃ before, acts = before ++ [act] := by
  subst hresult
  constructor
  · intro pages hpages
    rw [mapM_eq_ok_iff_map.mpr hpages]
    rfl
  · intro act hact failure hpage
    refine ⟨?_, hchain.eq_last_of_error hact hpage⟩
    rw [hchain.mapM_page_of_error hact hpage]
    rfl

/-- What passes through a network with the messages of a chain (`hpassed`) is what its acts have
delivered, and nothing else. -/
theorem received (hchain : paging.Chain place acts)
    (hpassed : Passed traffic (acts.flatMap (·.hops)) traffic') :
    Received traffic (acts.filterMap (·.delivery)) traffic' := by
  constructor
  · intro delivery hdelivery
    obtain ⟨act, hact, hown⟩ := List.mem_filterMap.mp hdelivery
    exact ((hchain.fits act hact).of_delivery hown).2.1
  · rw [List.filterMap_eq_flatMap_toList, List.flatMap_assoc]
    exact hpassed

end Chain

/-! ### Trails -/

/-- Whether the pages from a place on are asked for one after another between two states of the
network, and nothing else is delivered. -/
structure Trail (paging : Paging σ π) (place : σ) (traffic : Traffic) (acts : List (PageAct σ π))
    (traffic' : Traffic) : Prop where
  chain : paging.Chain place acts
  received : Received traffic (acts.filterMap (·.delivery)) traffic'

namespace Trail

theorem last {act : PageAct σ π} (hact : act.Happens paging traffic traffic')
    (hnone : act.next? paging = none) : paging.Trail act.place traffic [act] traffic' where
  chain := .last hact.fits hnone
  received := by
    rw [List.filterMap_eq_flatMap_toList, List.flatMap_singleton]
    exact hact.received

theorem more {act : PageAct σ π} {next : σ} (hact : act.Happens paging traffic traffic')
    (hnext : act.next? paging = some next) (hrest : paging.Trail next traffic' acts traffic'') :
    paging.Trail act.place traffic (act :: acts) traffic'' where
  chain := .more hact.fits hnext hrest.chain
  received := by
    have hboth := hact.received.append hrest.received
    rw [List.filterMap_eq_flatMap_toList, List.flatMap_cons, ← List.filterMap_eq_flatMap_toList]
    exact hboth

/-- A trail is an act behind which no place follows, or an act and a trail from the next place on,
so what holds of both ways to make one holds of all trails. -/
@[elab_as_elim]
theorem induct {motive : ∀ place traffic acts, paging.Trail place traffic acts traffic' → Prop}
    (last : ∀ (act : PageAct σ π) (traffic : Traffic)
      (hact : act.Happens paging traffic traffic') (hnone : act.next? paging = none),
      motive act.place traffic [act] (.last hact hnone))
    (more : ∀ (act : PageAct σ π) (next : σ) (traffic between : Traffic)
      (acts : List (PageAct σ π)) (hact : act.Happens paging traffic between)
      (hnext : act.next? paging = some next) (hrest : paging.Trail next between acts traffic'),
      motive next between acts hrest →
        motive act.place traffic (act :: acts) (.more hact hnext hrest))
    (htrail : paging.Trail place traffic acts traffic') : motive place traffic acts htrail := by
  obtain ⟨hchain, hreceived⟩ := htrail
  induction hchain generalizing traffic with
  | @last act hact hnone =>
    have hown : Received traffic act.delivery.toList traffic' := by
      rwa [List.filterMap_eq_flatMap_toList, List.flatMap_singleton] at hreceived
    exact last act traffic ⟨hact, hown⟩ hnone
  | @more act next acts hact hnext hrest ih =>
    have hboth :
        Received traffic (act.delivery.toList ++ acts.filterMap (·.delivery)) traffic' := by
      rwa [List.filterMap_eq_flatMap_toList, List.flatMap_cons,
        ← List.filterMap_eq_flatMap_toList] at hreceived
    obtain ⟨between, hown, hlater⟩ := hboth.of_append
    exact more act next traffic between acts ⟨hact, hown⟩ hnext ⟨hrest, hlater⟩ (ih hlater)

/-- A trail starts with an act at its place, and goes on with a trail from the next place on, if
there is one. -/
theorem exists_cons (htrail : paging.Trail place traffic acts traffic') : ∃ act between rest,
    acts = act :: rest ∧ act.place = place ∧ act.Happens paging traffic between ∧
      ((act.next? paging = none ∧ rest = [] ∧ between = traffic') ∨
        ∃ next, act.next? paging = some next ∧ paging.Trail next between rest traffic') := by
  induction htrail using Trail.induct with
  | last act traffic hact hnone => exact ⟨act, traffic', [], rfl, rfl, hact, .inl ⟨hnone, rfl, rfl⟩⟩
  | more act next traffic between acts hact hnext hrest _ =>
    exact ⟨act, between, acts, rfl, rfl, hact, .inr ⟨next, hnext, hrest⟩⟩

/-- From one state of the network on, one trail starts at a place. -/
theorem unique {others : List (PageAct σ π)} (htrail : paging.Trail place traffic acts traffic')
    (hother : paging.Trail place traffic others traffic'') :
    acts = others ∧ traffic' = traffic'' := by
  induction htrail using Trail.induct generalizing others with
  | last act traffic hact hnone =>
    obtain ⟨first, between, rest, rfl, hplace, hfirst, hend⟩ := hother.exists_cons
    obtain ⟨rfl, rfl⟩ := hact.unique hfirst hplace.symm
    rcases hend with ⟨-, rfl, rfl⟩ | ⟨next, hnext, -⟩
    · exact ⟨rfl, rfl⟩
    · rw [hnone] at hnext
      cases hnext
  | more act next traffic between acts hact hnext hrest ih =>
    obtain ⟨first, between', rest, rfl, hplace, hfirst, hend⟩ := hother.exists_cons
    obtain ⟨rfl, rfl⟩ := hact.unique hfirst hplace.symm
    rcases hend with ⟨hnone, -⟩ | ⟨next', hnext', hrest'⟩
    · rw [hnext] at hnone
      cases hnone
    · obtain rfl : next = next' := Option.some.inj (hnext.symm.trans hnext')
      obtain ⟨rfl, rfl⟩ := ih hrest'
      exact ⟨rfl, rfl⟩

/-- The messages that are sent along a trail are those of its acts, in their order. -/
theorem sent_eq (htrail : paging.Trail place traffic acts traffic') :
    traffic'.sent = traffic.sent ++ acts.flatMap (·.messages) := by
  rw [htrail.received.sent_eq, List.filterMap_eq_flatMap_toList, List.flatMap_assoc]
  rfl

/-- Where no reply that is to come leads anywhere else (`hfinal`), nothing is sent along a trail but
the messages of its requests. -/
theorem sent_of_final (htrail : paging.Trail place traffic acts traffic')
    (hfinal : ∀ reply ∈ traffic.replies, reply.isFinal = true) :
    traffic'.sent = traffic.sent ++ acts.filterMap (·.message?) := by
  rw [htrail.sent_eq, List.filterMap_eq_flatMap_toList]
  refine congrArg (traffic.sent ++ ·) (List.flatMap_congr fun act hact ↦ ?_)
  cases hdelivery : act.delivery with
  | none => rw [PageAct.message?, PageAct.messages, hdelivery]; rfl
  | some delivery =>
    have hmem := List.mem_filterMap.mpr ⟨act, hact, hdelivery⟩
    rw [PageAct.message?, PageAct.messages_of_delivery hdelivery,
      htrail.received.messages_eq hfinal delivery hmem]
    split <;> rfl

/-- Where the first request of a trail cannot be built (`hprepare`), nothing is sent. -/
theorem sent_of_unfit (htrail : paging.Trail place traffic acts traffic') {failure : Http.Failure}
    (hprepare : (paging.request place).prepare paging.config = .error failure) :
    traffic'.sent = traffic.sent := by
  obtain ⟨act, rfl, hdelivery⟩ := htrail.chain.eq_single_of_unfit hprepare
  rw [htrail.sent_eq]
  simp [PageAct.messages, hdelivery]

end Trail

/-! ### Collecting pages -/

/-- Fetch the page at a place: send the request for it, and read the answer. -/
def fetch (paging : Paging σ π) (place : σ) : Session π := do
  let response ← Client.lift (Http.execute paging.config (paging.request place))
  Http.Exchange.ofExcept (paging.read response)

/-- Fetch the page at a place, one message at a time, so that another computation can go on in
between. -/
def ask (paging : Paging σ π) (place : σ) : Steps π :=
  match (paging.request place).prepare paging.config with
  | .error failure => throw (Failure.ofHttp failure)
  | .ok message => ExceptT.mk do
    let delivery ← Process.carry Http.redirectLimit message
    return (delivery.answer.mapError Failure.ofHttp).bind paging.read

/-- Fetch the page at a place and those after it, up to a number of further pages, whatever the way
to fetch a page. -/
def collect {m : Type → Type} [Monad m] (paging : Paging σ π) (fetch : σ → m π) :
    Nat → σ → m (List π)
  | 0, place => do
    let page ← fetch place
    return [page]
  | more + 1, place => do
    let page ← fetch place
    match paging.next? place page with
    | some next => return page :: (← collect paging fetch more next)
    | none => return [page]

/-- Asking for a page (`ask`) without a break is fetching it (`fetch`). -/
theorem alone_ask (paging : Paging σ π) (place : σ) :
    Http.Exchange.alone (paging.ask place) = paging.fetch place := by
  funext traffic
  have hread : ∀ response traffic', (Http.Exchange.ofExcept (paging.read response) : Session π)
      traffic' = (paging.read response, traffic') := fun _ _ ↦ rfl
  have hfetch : paging.fetch place traffic = _ :=
    Client.lift_execute_bind hread (paging.request place) traffic
  rw [hfetch]
  cases hprepare : (paging.request place).prepare paging.config with
  | error failure =>
    rw [Http.execute_of_error hprepare, Http.Exchange.alone, ask, hprepare]
    rfl
  | ok message =>
    rw [Http.execute_of_ok hprepare, Http.Exchange.alone, ask, hprepare]
    exact Process.run_bind _ _ traffic

/-- Collecting pages one message at a time, but without a break, is fetching them one after
another. -/
theorem alone_collect (paging : Paging σ π) (fuel : Nat) (place : σ) :
    Http.Exchange.alone (paging.collect paging.ask fuel place) =
      paging.collect paging.fetch fuel place := by
  induction fuel generalizing place with
  | zero =>
    rw [collect, collect, Http.Exchange.alone_bind, alone_ask]
    rfl
  | succ fuel ih =>
    rw [collect, collect, Http.Exchange.alone_bind, alone_ask]
    refine bind_congr fun page ↦ ?_
    cases paging.next? place page with
    | none => rfl
    | some next =>
      simp only [Http.Exchange.alone_bind, ih]
      rfl

/-- What asking for a page is shown are the messages and replies of an act that fits the place, and
the page is that of the act. -/
theorem ask_shows_iff {shown : List (Message × Reply)} {page : Except Failure π} :
    (paging.ask place).run.Shows shown page ↔ ∃ act : PageAct σ π, act.place = place ∧
      act.Fits paging ∧ act.hops = shown ∧ act.page = page := by
  unfold ask
  constructor
  · intro h
    cases hprepare : (paging.request place).prepare paging.config with
    | error failure =>
      rw [hprepare] at h
      cases h
      exact ⟨⟨place, none, _⟩, rfl, ⟨_, .unfit hprepare, rfl⟩, rfl, rfl⟩
    | ok message =>
      rw [hprepare] at h
      obtain ⟨before, after, delivery, rfl, hcarried, hdone⟩ := Process.Shows.of_bind h
      cases hdone
      obtain ⟨hfollowed, rfl⟩ := Http.Followed.of_shows hcarried
      have hmessage := hfollowed.message_eq
      refine ⟨⟨place, some delivery, _⟩, rfl, ⟨_, .delivered ?_ ?_, rfl⟩, ?_, rfl⟩
      · rw [hmessage]
        exact hprepare
      · rw [hmessage]
        exact hfollowed
      · rw [PageAct.hops, List.append_nil]
        exact List.flatMap_singleton ..
  · rintro ⟨⟨_, delivery, _⟩, rfl, ⟨answer, hanswered, rfl⟩, rfl, rfl⟩
    cases hanswered with
    | unfit hprepare =>
      dsimp only at hprepare ⊢
      rw [hprepare]
      exact .done _
    | @delivered delivery hprepare hfollowed =>
      dsimp only at hprepare ⊢
      rw [hprepare]
      exact hfollowed.shows.bind (.done _)

/-- An act behind which no place follows (`hnone`) is a chain by itself. -/
theorem exists_chain_of_last {act : PageAct σ π} (hact : act.Fits paging)
    (hnone : act.next? paging = none) {result : Except Failure (List π)}
    (hresult : result = act.page.map ([·])) : ∃ acts, paging.Chain act.place acts ∧
      acts.flatMap (·.hops) = act.hops ∧ result = acts.mapM (·.page) := by
  refine ⟨[act], .last hact hnone, List.flatMap_singleton .., ?_⟩
  rw [hresult, List.mapM_cons]
  cases act.page <;> rfl

/-- What collecting pages is shown are the messages and replies of a chain, when it may go on once
for each reply that is taken (`hfuel`): with each page one is. -/
theorem exists_chain_of_shows {fuel : Nat} {shown : List (Message × Reply)}
    {result : Except Failure (List π)} (hfuel : shown.countP (·.2.IsTaken) ≤ fuel)
    (h : (paging.collect paging.ask fuel place).run.Shows shown result) :
    ∃ acts, paging.Chain place acts ∧ acts.flatMap (·.hops) = shown ∧
      result = acts.mapM (·.page) := by
  induction fuel generalizing place shown result with
  | zero =>
    obtain ⟨failure, hfirst, rfl⟩ | ⟨before, after, page, rfl, hfirst, hrest⟩ :=
      Process.Shows.run_bind_iff.mp h
    · obtain ⟨act, rfl, hact, rfl, hpage⟩ := ask_shows_iff.mp hfirst
      exact exists_chain_of_last hact (PageAct.next?_of_error hpage) (by rw [hpage]; rfl)
    · -- No reply may be taken, but the page was read from one.
      obtain ⟨act, rfl, hact, rfl, hpage⟩ := ask_shows_iff.mp hfirst
      obtain ⟨-, htaken⟩ := hact.exists_delivery hpage
      rw [List.countP_append] at hfuel
      omega
  | succ fuel ih =>
    obtain ⟨failure, hfirst, rfl⟩ | ⟨before, after, page, rfl, hfirst, hrest⟩ :=
      Process.Shows.run_bind_iff.mp h
    · obtain ⟨act, rfl, hact, rfl, hpage⟩ := ask_shows_iff.mp hfirst
      exact exists_chain_of_last hact (PageAct.next?_of_error hpage) (by rw [hpage]; rfl)
    · obtain ⟨act, rfl, hact, rfl, hpage⟩ := ask_shows_iff.mp hfirst
      obtain ⟨-, htaken⟩ := hact.exists_delivery hpage
      rw [List.countP_append] at hfuel
      have hstep : act.next? paging = paging.next? act.place page := PageAct.next?_of_ok hpage
      cases hnext : paging.next? act.place page with
      | none =>
        rw [hnext] at hrest hstep
        cases hrest
        rw [List.append_nil]
        exact exists_chain_of_last hact hstep (by rw [hpage]; rfl)
      | some next =>
        rw [hnext] at hrest hstep
        have hmore : ∃ pages, (paging.collect paging.ask fuel next).run.Shows after pages ∧
            result = pages.map (page :: ·) := by
          obtain ⟨failure, hlater, rfl⟩ | ⟨front, rest, pages, rfl, hlater, hdone⟩ :=
            Process.Shows.run_bind_iff.mp hrest
          · exact ⟨_, hlater, rfl⟩
          · cases hdone
            exact ⟨_, by rwa [List.append_nil], rfl⟩
        obtain ⟨pages, hlater, rfl⟩ := hmore
        obtain ⟨acts, hchain, rfl, rfl⟩ := ih (by omega) hlater
        refine ⟨act :: acts, .more hact hstep hchain, List.flatMap_cons, ?_⟩
        rw [List.mapM_cons, hpage]
        cases acts.mapM (·.page) <;> rfl

/-- Collecting pages is shown the messages and replies of a chain of pages, when it may go on as
often as the chain does (`hfuel`). -/
theorem Chain.shows (hchain : paging.Chain place acts) {fuel : Nat}
    (hfuel : acts.length ≤ fuel + 1) : (paging.collect paging.ask fuel place).run.Shows
      (acts.flatMap (·.hops)) (acts.mapM (·.page)) := by
  induction hchain generalizing fuel with
  | @last act hact hnone =>
    have hask : (paging.ask act.place).run.Shows act.hops act.page :=
      ask_shows_iff.mpr ⟨act, rfl, hact, rfl, rfl⟩
    rw [List.flatMap_singleton, List.mapM_cons]
    cases hpage : act.page with
    | error failure =>
      rw [hpage] at hask
      cases fuel <;> exact Process.Shows.run_bind_iff.mpr (.inl ⟨failure, hask, rfl⟩)
    | ok page =>
      rw [hpage] at hask
      rw [PageAct.next?_of_ok hpage] at hnone
      have hsplit : act.hops = act.hops ++ [] := (List.append_nil _).symm
      cases fuel with
      | zero =>
        exact Process.Shows.run_bind_iff.mpr (.inr ⟨_, [], page, hsplit, hask, .done _⟩)
      | succ fuel =>
        refine Process.Shows.run_bind_iff.mpr (.inr ⟨_, [], page, hsplit, hask, ?_⟩)
        rw [hnone]
        exact .done _
  | @more act next acts hact hnext hrest ih =>
    obtain ⟨page, hpage, hstep⟩ := PageAct.exists_of_next? hnext
    have hask : (paging.ask act.place).run.Shows act.hops (.ok page) :=
      ask_shows_iff.mpr ⟨act, rfl, hact, rfl, hpage⟩
    cases fuel with
    | zero =>
      have hsome := hrest.head?_place
      rw [List.length_cons] at hfuel
      obtain rfl : acts = [] := List.eq_nil_of_length_eq_zero (by omega)
      cases hsome
    | succ fuel =>
      have hlater := ih (Nat.le_of_succ_le_succ hfuel)
      rw [List.flatMap_cons, List.mapM_cons, hpage]
      refine Process.Shows.run_bind_iff.mpr (.inr ⟨_, _, page, rfl, hask, ?_⟩)
      rw [hstep]
      refine Process.Shows.run_bind_iff.mpr ?_
      cases hpages : acts.mapM (·.page) with
      | error failure =>
        rw [hpages] at hlater
        exact .inl ⟨failure, hlater, rfl⟩
      | ok pages =>
        rw [hpages] at hlater
        exact .inr ⟨_, [], pages, (List.append_nil _).symm, hlater, .done _⟩

/-- What collecting pages is shown, and what it comes to, is just what chains of pages are and come
to, when it may go on once for each reply that is taken (`hfuel`). -/
theorem collect_shows_iff {fuel : Nat} {shown : List (Message × Reply)}
    {result : Except Failure (List π)} (hfuel : shown.countP (·.2.IsTaken) ≤ fuel) :
    (paging.collect paging.ask fuel place).run.Shows shown result ↔
      ∃ acts, paging.Chain place acts ∧ acts.flatMap (·.hops) = shown ∧
        result = acts.mapM (·.page) := by
  constructor
  · exact exists_chain_of_shows hfuel
  · rintro ⟨acts, hchain, rfl, rfl⟩
    exact hchain.shows (hchain.length_le.trans (Nat.succ_le_succ hfuel))

/-- Fetching a page is an act at its place, from whatever state of the network on. -/
theorem fetch_happens (paging : Paging σ π) (place : σ) (traffic : Traffic) : ∃ delivery,
    PageAct.Happens paging traffic ⟨place, delivery, (paging.fetch place traffic).1⟩
      (paging.fetch place traffic).2 := by
  rw [← alone_ask]
  obtain ⟨shown, hshows, hpassed⟩ := (paging.ask place).run.exists_shows traffic
  obtain ⟨act, rfl, hact, rfl, hpage⟩ := ask_shows_iff.mp hshows
  refine ⟨act.delivery, by rw [Http.Exchange.alone, ← hpage]; exact hact, ⟨?_, hpassed⟩⟩
  intro delivery hdelivery
  exact (hact.of_delivery (Option.mem_toList.mp hdelivery)).2.1

/-- Where at most so many replies are to come (`hfuel`), collecting pages leaves a trail: with each
page one of them is taken, so the number of pages is never what ends it. -/
theorem collect_trail {fuel : Nat} (hfuel : traffic.replies.length ≤ fuel) :
    ∃ acts, paging.Trail place traffic acts
        (paging.collect paging.fetch fuel place traffic).2 ∧
      (paging.collect paging.fetch fuel place traffic).1 = acts.mapM (·.page) := by
  rw [← alone_collect]
  obtain ⟨shown, hshows, hpassed⟩ :=
    (paging.collect paging.ask fuel place).run.exists_shows traffic
  have htaken := hpassed.length_le
  obtain ⟨acts, hchain, rfl, hresult⟩ := exists_chain_of_shows (by omega) hshows
  exact ⟨acts, ⟨hchain, hchain.received hpassed⟩, hresult⟩

end Paging

end BulkJobs
