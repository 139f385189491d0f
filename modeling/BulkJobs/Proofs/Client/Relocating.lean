import BulkJobs.Proofs.Client.ResultPages
import BulkJobs.Proofs.Client.Serving

/-!
# Results whose pages lead back

The fetching of a result does not go on to the locator that it is at, but it may come back to an
earlier one, and then it goes round for as long as it is answered (`locators_come_back`). From a
server that answers by the locator and names finitely many, it ends exactly when it is led to no
locator twice (`allQueryResults_ends_iff`): then it asks for each locator at most once, and the
result is joined from the pages on the way (`Client.result_fetchFrom`).
-/

set_option autoImplicit false
set_option relaxedAutoImplicit false

namespace BulkJobs

open Http (Reply Traffic)

namespace Client

/-- The fetching of a whole result from a server that answers by the locator (`serve`), as long as
it has replies: it stops after so many pages. -/
def fetchFrom (client : Client) (id : String) (serve : Option String → Reply) (n : Nat) :
    Except Failure String × Traffic :=
  client.allQueryResults id { replies := (client.resultPages id).script serve n none }

variable {client : Client} {id : String} {serve : Option String → Reply}

/-- A server whose replies name finitely many locators (`hlocators`) leads from any page to one at
these locators, so to one of finitely many places. -/
theorem after?_results_mem {locators : Finset String}
    (hlocators : ∀ place locator,
      Http.Header.find? "sforce-locator" (serve place).headers = some locator →
        locator ∈ locators) {before after : Option String}
    (hafter : (client.resultPages id).after? serve before = some after) :
    after ∈ locators.image some := by
  obtain ⟨page, hpage, hnext⟩ := Paging.exists_of_after? hafter
  obtain ⟨message, response, -, hanswer, hread⟩ := Paging.exists_of_pageAt hpage
  obtain ⟨-, -, rfl⟩ := resultPage_of_read hanswer hread
  obtain ⟨locator, hlocator, rfl⟩ := Option.map_eq_some_iff.mp hnext
  obtain ⟨hnamed, -⟩ := nextLocator?_eq_some_iff.mp hlocator
  exact Finset.mem_image_of_mem _ (hlocators before locator (locator?_eq_some_iff.mp hnamed).1)

/-- From a server whose replies lead nowhere else (`hdirect`), a client asks for the places that the
server leads to, one message for each. -/
theorem sent_fetchFrom (client : Client) (id : String) {serve : Option String → Reply}
    (hdirect : ∀ place, (serve place).IsDirect) (n : Nat) :
    (client.fetchFrom id serve n).2.sent =
      ((client.resultPages id).visits serve (n + 1) none).filterMap
        (client.resultPages id).message? := by
  obtain ⟨acts, htrail, -⟩ := client.allQueryResults_trail id
    { replies := (client.resultPages id).script serve n none }
  exact htrail.sent_eq_visits hdirect

/-- Where the way of a server ends before its replies do (`hends`), the result is joined from the
pages on that way, or it is the failure of the last one. -/
theorem result_fetchFrom (hdirect : ∀ place, (serve place).IsDirect) {n : Nat}
    (hends : ((client.resultPages id).visits serve n none).length < n) :
    (client.fetchFrom id serve n).1 = Except.map (fun pages ↦ joinPages (pages.map (·.csv)))
      (((client.resultPages id).visits serve n none).mapM
        ((client.resultPages id).pageAt serve)) := by
  obtain ⟨acts, htrail, hresult⟩ := client.allQueryResults_trail id
    { replies := (client.resultPages id).script serve n none }
  rw [fetchFrom, hresult, htrail.mapM_page_eq (fun place ↦ (hdirect place).final) rfl rfl hends]

end Client

/-- A whole result is fetched from a server that answers each request by its locator
(`Http.Reply.IsDirect`) and names finitely many exactly when it leads back to no locator; then there
are no more requests than locators and one more, and how many replies more are to come makes no
difference. -/
theorem allQueryResults_ends_iff (client : Client) (id : String) (serve : Option String → Reply)
    {locators : Finset String} (hdirect : ∀ place, (serve place).IsDirect)
    (hlocators : ∀ place locator,
      Http.Header.find? "sforce-locator" (serve place).headers = some locator →
        locator ∈ locators) :
    (∀ n, (client.fetchFrom id serve n).2.sent =
      ((client.resultPages id).visits serve (n + 1) none).filterMap
        (client.resultPages id).message?) ∧
    ((∃ most, ∀ n, (client.fetchFrom id serve n).2.sent.length ≤ most) ↔
      ∀ n, ((client.resultPages id).visits serve n none).Nodup) ∧
    ((∀ n, ((client.resultPages id).visits serve n none).Nodup) → ∀ n, locators.card + 2 ≤ n →
      (client.fetchFrom id serve n).2.sent.length ≤ locators.card + 1 ∧
      (client.fetchFrom id serve n).2.sent =
        (client.fetchFrom id serve (locators.card + 2)).2.sent ∧
      (client.fetchFrom id serve n).1 = (client.fetchFrom id serve (locators.card + 2)).1) := by
  have hplaces : ∀ before after, (client.resultPages id).after? serve before = some after →
      after ∈ locators.image some := fun before after hafter ↦
    Client.after?_results_mem hlocators hafter
  have hcard : (locators.image some).card ≤ locators.card := Finset.card_image_le
  refine ⟨client.sent_fetchFrom id hdirect, ?_, fun hnodup n hn ↦ ?_⟩
  · simp only [client.sent_fetchFrom id hdirect]
    exact Paging.bounded_iff _ serve none hplaces
  · have hends : ((client.resultPages id).visits serve (locators.card + 2) none).length <
        locators.card + 2 :=
      lt_of_le_of_lt (length_walk_le_card hplaces (hnodup (locators.card + 2)))
        (Nat.lt_succ_of_le (Nat.succ_le_succ hcard))
    have hstays : ∀ m, locators.card + 2 ≤ m → (client.resultPages id).visits serve m none =
        (client.resultPages id).visits serve (locators.card + 2) none := fun m hm ↦
      walk_eq_of_length_lt hends hm
    refine ⟨?_, ?_, ?_⟩
    · rw [client.sent_fetchFrom id hdirect]
      exact (Paging.length_messages_le hplaces (hnodup (n + 1))).trans (Nat.succ_le_succ hcard)
    · rw [client.sent_fetchFrom id hdirect, client.sent_fetchFrom id hdirect,
        hstays (n + 1) (by omega), hstays (locators.card + 2 + 1) (by omega)]
    · rw [Client.result_fetchFrom hdirect hends, Client.result_fetchFrom hdirect, hstays n hn]
      rw [hstays n hn]
      exact lt_of_lt_of_le hends hn

/-- A server that leads from the first page to a locator, and back and forth between that and
another one. -/
def backAndForth (place : Option String) : Reply :=
  if place = some "A" then locatorReply "B" else locatorReply "A"

theorem eq_of_find?_locatorReply {locator found : String} (hlocator : locator ∈ ["A", "B"])
    (hfound : Http.Header.find? "sforce-locator" (locatorReply locator).headers = some found) :
    found = locator := by
  have hnamed : ∀ name ∈ ["A", "B"],
      Http.Header.find? "sforce-locator" (locatorReply name).headers = some name := by
    decide +kernel
  rw [hnamed locator hlocator] at hfound
  exact (Option.some.inj hfound).symm

/-- A server with two locators that lead to one another is asked for as long as it answers. -/
theorem locators_come_back :
    (∀ place, (backAndForth place).IsDirect) ∧ (∀ place locator,
      Http.Header.find? "sforce-locator" (backAndForth place).headers = some locator →
        locator ∈ ({"A", "B"} : Finset String)) ∧
    ∀ n, n ≤ (Client.fetchFrom { org := Org.sample } "1" backAndForth n).2.sent.length := by
  have hdirect : ∀ place, (backAndForth place).IsDirect := by
    intro place
    unfold backAndForth
    split_ifs <;> decide +kernel
  have hagain : ¬(Paging.visits (Client.resultPages { org := Org.sample } "1") backAndForth 4
      none).Nodup := by
    decide +kernel
  refine ⟨hdirect, ?_, fun n ↦ ?_⟩
  · intro place locator hlocator
    unfold backAndForth at hlocator
    split_ifs at hlocator
    · simp [eq_of_find?_locatorReply (by simp) hlocator]
    · simp [eq_of_find?_locatorReply (by simp) hlocator]
  · rw [Client.sent_fetchFrom _ _ hdirect]
    exact Paging.le_length_messages hagain n

/-- A server with two pages, of which only the first names a locator. -/
def twoPages (place : Option String) : Reply :=
  if place = none then locatorReply "A" else {}

/-- A server with two pages is asked for two, however often it would answer. -/
theorem allQueryResults_ends_iff_sample :
    (∀ place, (twoPages place).IsDirect) ∧ (∀ place locator,
      Http.Header.find? "sforce-locator" (twoPages place).headers = some locator →
        locator ∈ ({"A"} : Finset String)) ∧
    (∀ n, ((Client.resultPages { org := Org.sample } "1").visits twoPages n none).Nodup) ∧
    ∀ n, 3 ≤ n →
      (Client.fetchFrom { org := Org.sample } "1" twoPages n).2.sent.length ≤ 2 ∧
      (Client.fetchFrom { org := Org.sample } "1" twoPages n).2.sent =
        (Client.fetchFrom { org := Org.sample } "1" twoPages 3).2.sent ∧
      (Client.fetchFrom { org := Org.sample } "1" twoPages n).1 =
        (Client.fetchFrom { org := Org.sample } "1" twoPages 3).1 := by
  have hlocators : ∀ place locator,
      Http.Header.find? "sforce-locator" (twoPages place).headers = some locator →
        locator ∈ ({"A"} : Finset String) := by
    intro place locator hlocator
    unfold twoPages at hlocator
    split_ifs at hlocator
    · simp [eq_of_find?_locatorReply (by simp) hlocator]
    · cases hlocator
  have hdirect : ∀ place, (twoPages place).IsDirect := by
    intro place
    unfold twoPages
    split_ifs <;> decide +kernel
  have hends : ((Client.resultPages { org := Org.sample } "1").visits twoPages 3 none).length < 3 :=
    by decide +kernel
  have hnodup : ∀ n,
      ((Client.resultPages { org := Org.sample } "1").visits twoPages n none).Nodup :=
    nodup_walk hends
  have hsettled :=
    (allQueryResults_ends_iff { org := Org.sample } "1" twoPages hdirect hlocators).2.2 hnodup
  simp only [Finset.card_singleton, Nat.reduceAdd] at hsettled
  exact ⟨hdirect, hlocators, hnodup, hsettled⟩

end BulkJobs
