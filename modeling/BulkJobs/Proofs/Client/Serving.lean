import BulkJobs.Proofs.Client.Paging
import BulkJobs.Proofs.Http.Receiving
import Mathlib.Data.Finset.Card

/-!
# Chains of pages on a server

A server that answers by the place alone leads a client from page to page: `visits` are the places
on that way, and `script` the replies that the server gives there. On these replies a trail goes
along the visits, and one further (`Trail.places_eq`, `Trail.sent_eq_visits`). A way that ends comes
to no place twice (`nodup_walk`), as the place would lead on as it did before; and one that comes to
no place twice ends, if there are finitely many (`length_walk_le_card`). So the requests of a client
are bounded exactly when it is led to no place twice (`bounded_iff`).
-/

set_option autoImplicit false
set_option relaxedAutoImplicit false

namespace BulkJobs

open Http (Delivery Message Reply Traffic)

variable {σ π : Type}

/-! ### Walks -/

/-- The places that a step leads to from a place on, that place included, at most so many. -/
def walk (step : σ → Option σ) : Nat → σ → List σ
  | 0, _ => []
  | more + 1, place =>
    place :: match step place with
      | some next => walk step more next
      | none => []

section

variable {step : σ → Option σ} {place next : σ} {n : Nat}

theorem walk_of_none (hstep : step place = none) (n : Nat) : walk step (n + 1) place = [place] := by
  rw [walk, hstep]

theorem walk_of_some (hstep : step place = some next) (n : Nat) :
    walk step (n + 1) place = place :: walk step n next := by
  rw [walk, hstep]

theorem length_walk_le (step : σ → Option σ) (n : Nat) (place : σ) :
    (walk step n place).length ≤ n := by
  induction n generalizing place with
  | zero => rfl
  | succ n ih =>
    cases hstep : step place with
    | none => simp [walk_of_none hstep]
    | some next => simpa [walk_of_some hstep] using ih next

/-- A walk that ended before its limit (`hlength`) goes no further, however far it may go. -/
theorem walk_eq_of_length_lt (hlength : (walk step n place).length < n) {m : Nat} (hm : n ≤ m) :
    walk step m place = walk step n place := by
  induction n generalizing place m with
  | zero => exact absurd hlength (Nat.not_lt_zero _)
  | succ n ih =>
    obtain ⟨m, rfl⟩ : ∃ less, m = less + 1 := ⟨m - 1, by omega⟩
    cases hstep : step place with
    | none => rw [walk_of_none hstep, walk_of_none hstep]
    | some next =>
      rw [walk_of_some hstep, List.length_cons] at hlength
      rw [walk_of_some hstep, walk_of_some hstep, ih (by omega) (by omega)]

/-- From a place that it comes to (`hplace`), a walk goes on as it would start there, whatever leads
to that place. -/
theorem exists_walk_append {start : σ} (hplace : place ∈ walk step n start) :
    ∃ front : List σ, ∀ more,
      walk step (front.length + more) start = front ++ walk step more place := by
  induction n generalizing start with
  | zero => cases hplace
  | succ n ih =>
    rw [walk] at hplace
    rcases List.mem_cons.mp hplace with rfl | hplace
    · exact ⟨[], fun more ↦ by simp⟩
    · cases hstep : step start with
      | none =>
        rw [hstep] at hplace
        cases hplace
      | some next =>
        rw [hstep] at hplace
        obtain ⟨front, hfront⟩ := ih hplace
        refine ⟨start :: front, fun more ↦ ?_⟩
        rw [List.length_cons, Nat.add_right_comm, walk_of_some hstep, hfront, List.cons_append]

/-- A walk that ends comes to no place twice: from the second time on it would be no shorter than
from the first. -/
theorem nodup_walk (hlength : (walk step n place).length < n) (m : Nat) :
    (walk step m place).Nodup := by
  induction n generalizing place m with
  | zero => exact absurd hlength (Nat.not_lt_zero _)
  | succ n ih =>
    cases m with
    | zero => exact List.nodup_nil
    | succ m =>
      cases hstep : step place with
      | none => simp [walk_of_none hstep]
      | some next =>
        rw [walk_of_some hstep, List.length_cons] at hlength
        have hends : (walk step n next).length < n := by omega
        rw [walk_of_some hstep, List.nodup_cons]
        refine ⟨fun hagain ↦ ?_, ih hends m⟩
        obtain ⟨front, hfront⟩ := exists_walk_append hagain
        -- The walk behind the second visit is the one behind the first, so it is no shorter.
        have hsame := walk_eq_of_length_lt hends (show n ≤ front.length + (n + 1) by omega)
        have hcount := congrArg List.length (hfront (n + 1))
        rw [hsame, List.length_append, walk_of_some hstep, List.length_cons] at hcount
        omega

/-- A walk that comes to a place twice (`hagain`) never ends: from there on it goes round, so it is
as long as it may be. -/
theorem length_walk_of_not_nodup {m : Nat} (hagain : ¬(walk step m place).Nodup) (n : Nat) :
    (walk step n place).length = n := by
  by_contra hshort
  have hends : (walk step n place).length < n :=
    lt_of_le_of_ne (length_walk_le step n place) hshort
  exact hagain (nodup_walk hends m)

theorem walk_subset (step : σ → Option σ) (n : Nat) (place : σ) {other : σ}
    (hother : other ∈ walk step n place) : other = place ∨ ∃ before, step before = some other := by
  induction n generalizing place with
  | zero => cases hother
  | succ n ih =>
    rw [walk] at hother
    rcases List.mem_cons.mp hother with rfl | hother
    · exact .inl rfl
    · right
      cases hstep : step place with
      | none =>
        rw [hstep] at hother
        cases hother
      | some next =>
        rw [hstep] at hother
        rcases ih next hother with rfl | hbefore
        · exact ⟨place, hstep⟩
        · exact hbefore

/-- A walk without repetition (`hnodup`) has room only among the places that something leads to
(`hplaces`), and for the place where it starts. -/
theorem length_walk_le_card [DecidableEq σ] {places : Finset σ}
    (hplaces : ∀ before after, step before = some after → after ∈ places)
    (hnodup : (walk step n place).Nodup) : (walk step n place).length ≤ places.card + 1 := by
  have hsub : (walk step n place).toFinset ⊆ insert place places := by
    intro other hother
    rcases walk_subset step n place (List.mem_toFinset.mp hother) with rfl | ⟨before, hbefore⟩
    · exact Finset.mem_insert_self _ _
    · exact Finset.mem_insert_of_mem (hplaces before other hbefore)
  calc (walk step n place).length
      = (walk step n place).toFinset.card := (List.toFinset_card_of_nodup hnodup).symm
    _ ≤ (insert place places).card := Finset.card_le_card hsub
    _ ≤ places.card + 1 := Finset.card_insert_le _ _

end

/-! ### Servers -/

/-- The reply for whoever asks, so that any message takes it when it is the next one. -/
def Http.Reply.forAnyone (reply : Reply) : Reply :=
  { reply with only := none }

namespace Paging

variable (paging : Paging σ π) (serve : σ → Reply)

/-- The message that asks for the page at a place, if one can be built. -/
def message? (place : σ) : Option Message :=
  ((paging.request place).prepare paging.config).toOption

/-- What a client gets at a place of a server that answers by the place (`serve`): the page, or the
failure to ask for it, to be answered or to read it. -/
def pageAt (place : σ) : Except Failure π :=
  ((((paging.request place).prepare paging.config).bind fun message ↦
    Delivery.answer ⟨message, [], serve place⟩).mapError Failure.ofHttp).bind paging.read

/-- The place that a server leads to from a place, by the page that it has there. -/
def after? (place : σ) : Option σ :=
  (paging.pageAt serve place).toOption.bind (paging.next? place)

/-- The places that a server leads to from a place on, at most so many: the walk of `after?`. -/
def visits : Nat → σ → List σ :=
  walk (paging.after? serve)

/-- The replies of a server at the places that it leads to, at most so many, each for whoever
asks. -/
def script (n : Nat) (place : σ) : List Reply :=
  (paging.visits serve n place).map fun place ↦ (serve place).forAnyone

variable {paging serve} {place next : σ} {traffic traffic' : Traffic}
  {acts : List (PageAct σ π)} {n : Nat}

theorem script_of_next (hnext : paging.after? serve place = some next) :
    paging.script serve (n + 1) place =
      (serve place).forAnyone :: paging.script serve n next := by
  rw [script, visits, walk_of_some hnext]
  rfl

/-- A page at a place (`hpage`) is read from the answer of the server to the message of the request
for it. -/
theorem exists_of_pageAt {page : π} (hpage : paging.pageAt serve place = .ok page) :
    ∃ message response, paging.message? place = some message ∧
      Delivery.answer ⟨message, [], serve place⟩ = .ok response ∧
      paging.read response = .ok page := by
  unfold pageAt at hpage
  unfold message?
  cases hprepare : (paging.request place).prepare paging.config with
  | error failure =>
    rw [hprepare] at hpage
    cases hpage
  | ok message =>
    rw [hprepare] at hpage
    change ((Delivery.answer ⟨message, [], serve place⟩).mapError Failure.ofHttp).bind _ = _
      at hpage
    cases hanswer : Delivery.answer ⟨message, [], serve place⟩ with
    | error failure =>
      rw [hanswer] at hpage
      cases hpage
    | ok response =>
      rw [hanswer] at hpage
      exact ⟨message, response, rfl, hanswer, hpage⟩

/-- A server leads on from a place (`hnext`) through the page there, which names the next place. -/
theorem exists_of_after? (hnext : paging.after? serve place = some next) :
    ∃ page, paging.pageAt serve place = .ok page ∧ paging.next? place page = some next := by
  unfold after? at hnext
  cases hpage : paging.pageAt serve place with
  | error failure =>
    rw [hpage] at hnext
    cases hnext
  | ok page =>
    rw [hpage] at hnext
    exact ⟨page, rfl, hnext⟩

theorem message?_eq {act : PageAct σ π} (hact : act.Fits paging) :
    act.delivery.map (·.message) = paging.message? act.place := by
  unfold message?
  cases hdelivery : act.delivery with
  | none =>
    cases hprepare : (paging.request act.place).prepare paging.config with
    | error failure => rfl
    | ok message =>
      have hsome := hact.isSome_iff.mpr ⟨message, hprepare⟩
      rw [hdelivery] at hsome
      cases hsome
  | some delivery =>
    rw [(hact.of_delivery hdelivery).1]
    rfl

/-- With the reply of a server first (`hreplies`), the page of an act is what the server has at its
place, and the act takes that reply. -/
theorem page_eq {act : PageAct σ π} {rest : List Reply} (hfinal : (serve act.place).isFinal = true)
    (hact : act.Happens paging traffic traffic') (hreach : traffic.reachable = true)
    (hreplies : traffic.replies = (serve act.place).forAnyone :: rest) :
    act.page = paging.pageAt serve act.place ∧
      ∀ page, act.page = .ok page → traffic'.replies = rest := by
  obtain ⟨⟨answer, hanswered, hread⟩, hreceived⟩ := hact
  cases hdelivery : act.delivery with
  | none =>
    rw [hdelivery] at hanswered
    cases hanswered with
    | unfit hprepare =>
      refine ⟨?_, fun page hpage ↦ ?_⟩
      · rw [hread, pageAt, hprepare]
        rfl
      · rw [hread] at hpage
        cases hpage
  | some delivery =>
    rw [hdelivery] at hanswered hreceived
    cases hanswered with
    | delivered hprepare hfollowed =>
      obtain ⟨reachable, replies, sent⟩ := traffic
      cases hreach
      cases hreplies
      have hlast : ((serve act.place).forAnyone).isFinal = true := hfinal
      obtain ⟨hdirect, hrest⟩ := Http.Received.of_reply rfl hlast hreceived
      refine ⟨?_, fun page hpage ↦ by rw [hrest.eq_of_nil]⟩
      rw [hread, pageAt, hprepare, hdirect]
      rfl

theorem next?_eq_after? {act : PageAct σ π} (hpage : act.page = paging.pageAt serve act.place) :
    act.next? paging = paging.after? serve act.place := by
  rw [PageAct.next?, hpage, after?]

/-- Where a page leads on, its act took the first of the replies (`hreplies`), and those that are
left are the ones of the way from the next place on. -/
theorem script_more {act : PageAct σ π} (hfinal : ∀ place, (serve place).isFinal = true)
    (hact : act.Happens paging traffic traffic') (hreach : traffic.reachable = true)
    (hreplies : traffic.replies = paging.script serve n act.place)
    (hnext : act.next? paging = some next) : ∃ m, n = m + 1 ∧
      act.page = paging.pageAt serve act.place ∧ paging.after? serve act.place = some next ∧
      traffic'.replies = paging.script serve m next ∧ traffic'.reachable = true := by
  obtain ⟨page, hpage, -⟩ := PageAct.exists_of_next? hnext
  cases n with
  | zero =>
    have htaken := hact.length_replies hpage
    rw [hreplies] at htaken
    cases htaken
  | succ m =>
    obtain ⟨hsame, -⟩ := page_eq (hfinal act.place) hact hreach hreplies
    have hafter : paging.after? serve act.place = some next := by
      rw [← next?_eq_after? hsame, hnext]
    rw [script_of_next hafter] at hreplies
    exact ⟨m, rfl, hsame, hafter, (page_eq (hfinal act.place) hact hreach hreplies).2 page hpage,
      hact.received.reachable_eq.trans hreach⟩

namespace Trail

/-- On the replies of a server (`hreplies`), a trail goes along the places that the server leads to,
and one place further than there are replies for. -/
theorem places_eq (hfinal : ∀ place, (serve place).isFinal = true)
    (htrail : paging.Trail place traffic acts traffic') (hreach : traffic.reachable = true)
    (hreplies : traffic.replies = paging.script serve n place) :
    acts.map (·.place) = paging.visits serve (n + 1) place := by
  induction htrail using Trail.induct generalizing n with
  | last act traffic hact hnone =>
    cases n with
    | zero =>
      -- The replies are used up: the last place is asked for in vain.
      rw [visits, walk]
      cases paging.after? serve act.place <;> rfl
    | succ n =>
      obtain ⟨hpage, -⟩ := page_eq (hfinal act.place) hact hreach hreplies
      rw [next?_eq_after? hpage] at hnone
      rw [visits, walk_of_none hnone]
      rfl
  | more act next traffic between acts hact hnext hrest ih =>
    obtain ⟨m, rfl, -, hafter, hleft, hstill⟩ := script_more hfinal hact hreach hreplies hnext
    rw [visits, walk_of_some hafter, List.map_cons, ih hstill hleft]
    rfl

/-- On the replies of a server whose way ends before the replies do, the pages of a trail are those
that the server has along the way. -/
theorem mapM_page_eq (hfinal : ∀ place, (serve place).isFinal = true)
    (htrail : paging.Trail place traffic acts traffic') (hreach : traffic.reachable = true)
    (hreplies : traffic.replies = paging.script serve n place)
    (hends : (paging.visits serve n place).length < n) :
    acts.mapM (·.page) = (paging.visits serve n place).mapM (paging.pageAt serve) := by
  induction htrail using Trail.induct generalizing n with
  | last act traffic hact hnone =>
    cases n with
    | zero => exact absurd hends (Nat.not_lt_zero _)
    | succ n =>
      obtain ⟨hpage, -⟩ := page_eq (hfinal act.place) hact hreach hreplies
      rw [next?_eq_after? hpage] at hnone
      rw [visits, walk_of_none hnone, List.mapM_cons, List.mapM_cons, hpage]
      rfl
  | more act next traffic between acts hact hnext hrest ih =>
    obtain ⟨m, rfl, hpage, hafter, hleft, hstill⟩ := script_more hfinal hact hreach hreplies hnext
    rw [visits, walk_of_some hafter, List.length_cons, Nat.succ_lt_succ_iff] at hends
    rw [visits, walk_of_some hafter, List.mapM_cons, List.mapM_cons, hpage,
      ih hstill hleft hends]
    rfl

/-- Where each message is answered as it stands (`hdirect`), those of a trail are what its places
ask for, as far as requests can be built. -/
theorem sent_eq_places (htrail : paging.Trail place traffic acts traffic')
    (hreach : traffic.reachable = true) (hdirect : ∀ reply ∈ traffic.replies, reply.IsDirect) :
    traffic'.sent = traffic.sent ++ (acts.map (·.place)).filterMap paging.message? := by
  have hown := htrail.received.messages_of_isDirect hreach hdirect
  rw [htrail.received.sent_eq, List.filterMap_map]
  refine congrArg (traffic.sent ++ ·) ?_
  calc (acts.filterMap (·.delivery)).flatMap (·.messages)
      = (acts.filterMap (·.delivery)).flatMap fun delivery ↦ [delivery.message] :=
        List.flatMap_congr hown
    _ = (acts.filterMap (·.delivery)).map (·.message) := (List.map_eq_flatMap ..).symm
    _ = acts.filterMap (paging.message? ∘ (·.place)) := by
        rw [List.map_filterMap]
        exact List.filterMap_congr fun act hact ↦ message?_eq (htrail.chain.fits act hact)

/-- On the replies of a server that answers each message as it stands (`hdirect`), the messages of a
trail ask for the places that the server leads to. -/
theorem sent_eq_visits (hdirect : ∀ place, (serve place).IsDirect)
    (htrail : paging.Trail place { replies := paging.script serve n place } acts traffic') :
    traffic'.sent = (paging.visits serve (n + 1) place).filterMap paging.message? := by
  have hreplies : ∀ reply ∈ paging.script serve n place, reply.IsDirect := by
    intro reply hreply
    obtain ⟨visited, -, rfl⟩ := List.mem_map.mp hreply
    exact ⟨(hdirect visited).sent, (hdirect visited).final⟩
  rw [htrail.sent_eq_places rfl hreplies,
    htrail.places_eq (fun place ↦ (hdirect place).final) rfl rfl, List.nil_append]

end Trail

/-! ### How many requests a server gets -/

/-- All the places that a server leads to are asked for, but perhaps the last: only the request for
that one may be impossible to build. -/
theorem length_visits_le (paging : Paging σ π) (serve : σ → Reply) (n : Nat) (place : σ) :
    (paging.visits serve n place).length ≤
      ((paging.visits serve n place).filterMap paging.message?).length + 1 := by
  induction n generalizing place with
  | zero => exact Nat.zero_le _
  | succ n ih =>
    cases hafter : paging.after? serve place with
    | none =>
      rw [visits, walk_of_none hafter]
      exact Nat.le_add_left _ _
    | some next =>
      obtain ⟨page, hpage, -⟩ := exists_of_after? hafter
      obtain ⟨message, response, hmessage, -⟩ := exists_of_pageAt hpage
      rw [visits, walk_of_some hafter, List.filterMap_cons, hmessage]
      exact Nat.succ_le_succ (ih next)

/-- A client that is led to a place twice (`hagain`) goes on for as long as it is answered: with so
many replies it sends at least so many messages. -/
theorem le_length_messages {m : Nat} (hagain : ¬(paging.visits serve m place).Nodup) (n : Nat) :
    n ≤ ((paging.visits serve (n + 1) place).filterMap paging.message?).length := by
  have hlength : (paging.visits serve (n + 1) place).length = n + 1 :=
    length_walk_of_not_nodup hagain (n + 1)
  have hcount := length_visits_le paging serve (n + 1) place
  omega

/-- A client that is led to no place twice (`hnodup`) sends at most one message for each place that
something leads to (`hplaces`), and one more for the start. -/
theorem length_messages_le [DecidableEq σ] {places : Finset σ}
    (hplaces : ∀ before after, paging.after? serve before = some after → after ∈ places)
    (hnodup : (paging.visits serve n place).Nodup) :
    ((paging.visits serve n place).filterMap paging.message?).length ≤ places.card + 1 :=
  calc ((paging.visits serve n place).filterMap paging.message?).length
      ≤ (paging.visits serve n place).length := List.length_filterMap_le _ _
    _ ≤ places.card + 1 := length_walk_le_card hplaces hnodup

/-- Where finitely many places are led to (`hplaces`), the messages are bounded exactly when no
place is visited twice, however many replies there are. -/
theorem bounded_iff [DecidableEq σ] (paging : Paging σ π) (serve : σ → Reply) (place : σ)
    {places : Finset σ}
    (hplaces : ∀ before after, paging.after? serve before = some after → after ∈ places) :
    (∃ most, ∀ n,
        ((paging.visits serve (n + 1) place).filterMap paging.message?).length ≤ most) ↔
      ∀ n, (paging.visits serve n place).Nodup := by
  constructor
  · rintro ⟨most, hmost⟩ n
    by_contra hagain
    have hmany := le_length_messages hagain (most + 1)
    have hfew := hmost (most + 1)
    omega
  · intro hnodup
    exact ⟨places.card + 1, fun n ↦ length_messages_le hplaces (hnodup (n + 1))⟩

end Paging

end BulkJobs
