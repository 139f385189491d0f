import BulkJobs.Proofs.Http.Delivery
import BulkJobs.Proofs.Http.Headers
import BulkJobs.Proofs.Org.Reaching

/-!
# Setting headers again

A request is built by calls that each set a header, some of them along with a body (`Setter`). A
call puts its header in place of those whose name is spelled like its own, and on the way the names
lose their case. So of the headers whose names agree up to case, the last one alone is left exactly
when all calls that set one spell it alike (`Request.named_built_eq_iff`).

The message carries these headers behind the one in which its URL says who asks, if it does, so that
the name of this one is not for the calls to set (`Request.values_prepare_built_iff`). Together with
what is sent: `execute_carries_last_iff`.
-/

set_option autoImplicit false
set_option relaxedAutoImplicit false

namespace BulkJobs.Http

/-! ### Calls that set a header -/

/-- A call that sets a header of a request: one by name and value, or one that gives a body or asks
for a type, and sets the header of that. -/
inductive Setter where
  | header (name value : String)
  | json (value : Json)
  | text (content : String)
  | csv (content : Octets)
  | acceptCsv

namespace Setter

def apply (request : Request) : Setter → Request
  | header name value => request.withHeader name value
  | json value => request.withJson value
  | text content => request.withText content
  | csv content => request.withCsv content
  | acceptCsv => request.acceptingCsv

/-- The name of the header that a call sets, as the call spells it. -/
def name : Setter → String
  | header name _ => name
  | json _ | text _ | csv _ => "Content-Type"
  | acceptCsv => "Accept"

def value : Setter → String
  | header _ value => value
  | json _ => "application/json"
  | text _ => "text/plain"
  | csv _ | acceptCsv => "text/csv"

/-- Whether a call sets the header with a name, in whatever case. -/
def sets (name : String) (setter : Setter) : Bool :=
  Text.sameIgnoringCase setter.name name

/-- Whether name and value of a call are fit to be sent, each made of the characters that a header
may have. -/
def isFit (setter : Setter) : Bool :=
  Header.isName setter.name && Header.isValue setter.value

/-- The value of the last call that sets a header with a name, in whatever case, if any call does.
-/
def lastValue? (name : String) (setters : List Setter) : Option String :=
  (setters.reverse.find? (sets name)).map value

/-- Whether all calls that set the header with a name, in whatever case, spell the name alike. -/
def SpellAlike (name : String) (setters : List Setter) : Prop :=
  ∀ setter ∈ setters, setter.sets name → ∀ other ∈ setters, other.sets name →
    setter.name = other.name

theorem lastValue?_append_singleton (name : String) (setters : List Setter) (setter : Setter) :
    lastValue? name (setters ++ [setter]) =
      if setter.sets name then some setter.value else lastValue? name setters := by
  rw [lastValue?, List.reverse_append, List.reverse_singleton, List.singleton_append,
    List.find?_cons]
  cases setter.sets name <;> rfl

/-- A call that sets another header (`hother`) does not matter to how a name is spelled. -/
theorem spellAlike_append_singleton_of_not_sets {name : String} {setters : List Setter}
    {setter : Setter} (hother : setter.sets name = false) :
    SpellAlike name (setters ++ [setter]) ↔ SpellAlike name setters := by
  have hearlier : ∀ other ∈ setters ++ [setter], other.sets name = true → other ∈ setters := by
    intro other hmem hsets
    rcases List.mem_append.mp hmem with h | h
    · exact h
    · rw [List.mem_singleton.mp h, hother] at hsets
      cases hsets
  constructor
  · intro h first hfirst hsets second hsecond
    exact h first (List.mem_append_left _ hfirst) hsets second (List.mem_append_left _ hsecond)
  · intro h first hfirst hsets second hsecond hsets'
    exact h first (hearlier first hfirst hsets) hsets second (hearlier second hsecond hsets') hsets'

/-- A call that sets a header (`hsets`) fixes how its name has to be spelled by the calls before
it. -/
theorem spellAlike_append_singleton_of_sets {name : String} {setters : List Setter}
    {setter : Setter} (hsets : setter.sets name = true) :
    SpellAlike name (setters ++ [setter]) ↔
      ∀ other ∈ setters, other.sets name = true → other.name = setter.name := by
  constructor
  · intro h other hother hsets'
    exact h other (List.mem_append_left _ hother) hsets' setter
      (List.mem_append_right _ List.mem_cons_self) hsets
  · intro h
    have hlike : ∀ other ∈ setters ++ [setter], other.sets name = true →
        other.name = setter.name := by
      intro other hmem hsets'
      rcases List.mem_append.mp hmem with hearlier | hlast
      · exact h other hearlier hsets'
      · rw [List.mem_singleton.mp hlast]
    intro first hfirst hsets second hsecond hsets'
    rw [hlike first hfirst hsets, hlike second hsecond hsets']

theorem headers_apply (request : Request) (setter : Setter) : (setter.apply request).headers =
    request.headers.filter (·.1 != setter.name) ++ [(setter.name, setter.value)] := by
  cases setter <;> rfl

end Setter

namespace Request

/-- A request that a sequence of calls builds from a method and a URL. -/
def built (method : Method) (url : String) (setters : List Setter) : Request :=
  setters.foldl Setter.apply { method, url }

variable {method : Method} {url name value : String} {setters : List Setter} {setter : Setter}

theorem built_append_singleton (method : Method) (url : String) (setters : List Setter)
    (setter : Setter) :
    built method url (setters ++ [setter]) = setter.apply (built method url setters) := by
  rw [built, List.foldl_append]
  rfl

/-- The calls leave all but headers and body as they are: method and URL are kept, and there are no
parameters and no token. -/
theorem built_keeps (method : Method) (url : String) (setters : List Setter) :
    (built method url setters).method = method ∧ (built method url setters).url = url ∧
      (built method url setters).query = [] ∧ (built method url setters).bearer = none := by
  induction setters using List.reverseRecOn with
  | nil => exact ⟨rfl, rfl, rfl, rfl⟩
  | append_singleton setters setter ih =>
    rw [built_append_singleton]
    cases setter <;> exact ih

theorem headers_built_append_singleton (method : Method) (url : String) (setters : List Setter)
    (setter : Setter) : (built method url (setters ++ [setter])).headers =
      (built method url setters).headers.filter (·.1 != setter.name) ++
        [(setter.name, setter.value)] := by
  rw [built_append_singleton, Setter.headers_apply]

/-- Every header of a request that was built (`hheader`) was set by a call, with the name as the
call spells it. -/
theorem exists_setter_of_mem {header : String × String}
    (hheader : header ∈ (built method url setters).headers) :
    ∃ setter ∈ setters, header = (setter.name, setter.value) := by
  induction setters using List.reverseRecOn with
  | nil => cases hheader
  | append_singleton setters setter ih =>
    rw [headers_built_append_singleton] at hheader
    rcases List.mem_append.mp hheader with hkept | hset
    · obtain ⟨earlier, hearlier, rfl⟩ := ih (List.mem_of_mem_filter hkept)
      exact ⟨earlier, List.mem_append_left _ hearlier, rfl⟩
    · exact ⟨setter, List.mem_append_right _ List.mem_cons_self, List.mem_singleton.mp hset⟩

/-- Every name that was set (`hsetter`) has a header in the request that is built, if perhaps not
with the value of that call. -/
theorem exists_header_of_mem (method : Method) (url : String) (hsetter : setter ∈ setters) :
    ∃ value, (setter.name, value) ∈ (built method url setters).headers := by
  induction setters using List.reverseRecOn with
  | nil => cases hsetter
  | append_singleton setters last ih =>
    rw [headers_built_append_singleton]
    by_cases hname : setter.name = last.name
    · exact ⟨last.value, List.mem_append_right _ (by rw [hname]; exact List.mem_cons_self)⟩
    · have hearlier : setter ∈ setters := by
        rcases List.mem_append.mp hsetter with hearlier | hlast
        · exact hearlier
        · exact absurd (congrArg Setter.name (List.mem_singleton.mp hlast)) hname
      obtain ⟨value, hvalue⟩ := ih hearlier
      exact ⟨value, List.mem_append_left _ (List.mem_filter.mpr ⟨hvalue, by simpa using hname⟩)⟩

theorem named_built_of_not_sets (hother : setter.sets name = false) :
    named name (built method url (setters ++ [setter])).headers =
      named name (built method url setters).headers := by
  have hlast : [(setter.name, setter.value)].filter (Text.sameIgnoringCase ·.1 name) = [] :=
    List.filter_cons_of_neg (by rw [Setter.sets] at hother; simp [hother])
  rw [named, headers_built_append_singleton, List.filter_append, hlast, List.append_nil,
    List.filter_filter]
  refine List.filter_congr fun header _ ↦ ?_
  by_cases hname : header.1 = setter.name
  · rw [hname, bne_self_eq_false, Bool.and_false]
    exact hother.symm
  · simp [hname]

theorem named_built_of_sets (hsets : setter.sets name = true) :
    named name (built method url (setters ++ [setter])).headers =
      (named name (built method url setters).headers).filter (·.1 != setter.name) ++
        [(setter.name, setter.value)] := by
  have hlast : [(setter.name, setter.value)].filter (Text.sameIgnoringCase ·.1 name) =
      [(setter.name, setter.value)] := List.filter_cons_of_pos hsets
  rw [named, headers_built_append_singleton, List.filter_append, hlast, named,
    List.filter_filter, List.filter_filter]
  refine congrArg (· ++ _) (List.filter_congr fun header _ ↦ Bool.and_comm _ _)

/-- The headers under a name are spelled as a text exactly when the calls that set one spell it
so. -/
theorem forall_named_iff (method : Method) (url : String) {spelling : String} :
    (∀ header ∈ named name (built method url setters).headers, header.1 = spelling) ↔
      ∀ setter ∈ setters, setter.sets name = true → setter.name = spelling := by
  constructor
  · intro h setter hsetter hsets
    obtain ⟨value, hvalue⟩ := exists_header_of_mem method url hsetter
    exact h _ (List.mem_filter.mpr ⟨hvalue, hsets⟩)
  · intro h header hheader
    obtain ⟨hmem, hname⟩ := List.mem_filter.mp hheader
    obtain ⟨setter, hsetter, rfl⟩ := exists_setter_of_mem hmem
    exact h setter hsetter hname

/-- Of the headers under a name, the one of the last call alone is left exactly when all calls that
set one spell the name alike. -/
theorem named_built_eq_iff (method : Method) (url : String)
    (hlast : Setter.lastValue? name setters = some value) :
    (named name (built method url setters).headers).map (·.2) = [value] ↔
      Setter.SpellAlike name setters := by
  induction setters using List.reverseRecOn with
  | nil => cases hlast
  | append_singleton setters setter ih =>
    rw [Setter.lastValue?_append_singleton] at hlast
    cases hsets : setter.sets name with
    | false =>
      rw [hsets] at hlast
      rw [named_built_of_not_sets hsets,
        Setter.spellAlike_append_singleton_of_not_sets hsets]
      exact ih hlast
    | true =>
      rw [hsets] at hlast
      obtain rfl := Option.some.inj hlast
      rw [named_built_of_sets hsets, Setter.spellAlike_append_singleton_of_sets hsets,
        ← forall_named_iff method url, List.map_append]
      simp

theorem named_built_ne_nil (hlast : Setter.lastValue? name setters = some value) :
    named name (built method url setters).headers ≠ [] := by
  obtain ⟨setter, hfound, -⟩ := Option.map_eq_some_iff.mp hlast
  have hsetter : setter ∈ setters := List.mem_reverse.mp (List.mem_of_find?_eq_some hfound)
  obtain ⟨value, hvalue⟩ := exists_header_of_mem method url hsetter
  have hsets : setter.sets name = true := List.find?_some hfound
  exact List.ne_nil_of_mem (List.mem_filter.mpr ⟨hvalue, hsets⟩)

/-- Requests that are built by fit calls (`hfit`) have fit headers, whether the URL says who asks or
not. -/
theorem exists_ownHeaders?_built (hfit : ∀ setter ∈ setters, setter.isFit)
    (credentials : Option (String × String)) :
    ∃ own, (built method url setters).ownHeaders? credentials = some own := by
  refine ⟨_, ownHeaders?_eq_some_iff.mpr ⟨fun pair hpair ↦ ?_, rfl⟩⟩
  rw [askedHeaders, (built_keeps method url setters).2.2.2, bearerPairs, List.append_nil] at hpair
  rcases List.mem_append.mp hpair with hcredentials | hheader
  · cases credentials with
    | none => cases hcredentials
    | some pair =>
      have hname : Header.isName "Authorization" = true := by decide +kernel
      have hvalue : Header.isValue (basicCredentials pair.1 pair.2) = true :=
        isValue_append (by decide) (isValue_encode _)
      rw [List.mem_singleton.mp hcredentials, hname, hvalue]
      rfl
  · obtain ⟨setter, hsetter, rfl⟩ := exists_setter_of_mem hheader
    exact hfit setter hsetter

/-! ### What such a request carries -/

/-- Whether a URL says who asks, with a user name or a password in it. -/
def NamesAsker (url : String) : Prop :=
  ∃ written, Url.parse url = .ok written ∧ (urlCredentials? written).isSome

theorem named_credentialPairs_eq_nil_iff {written : Url} (hparse : Url.parse url = .ok written) :
    named name (credentialPairs (urlCredentials? written)) = [] ↔
      ¬ (Text.sameIgnoringCase "Authorization" name = true ∧ NamesAsker url) := by
  have hasker : NamesAsker url ↔ (urlCredentials? written).isSome = true := by
    constructor
    · rintro ⟨other, hother, hsome⟩
      cases hparse.symm.trans hother
      exact hsome
    · exact fun hsome ↦ ⟨written, hparse, hsome⟩
  rw [hasker]
  cases urlCredentials? written with
  | none => simp [named, credentialPairs]
  | some pair => simp [named, credentialPairs]

/-- Under a name that the calls set, a request that they build carries the value of the last call
alone exactly when they spell the name alike and the URL does not take it to say who asks. -/
theorem values_prepare_built_iff {config : Config} {message : Message}
    (hprepare : (built method url setters).prepare config = .ok message)
    (hlast : Setter.lastValue? name setters = some value) :
    message.values name = [value] ↔ Setter.SpellAlike name setters ∧
      ¬ (Text.sameIgnoringCase "Authorization" name = true ∧ NamesAsker url) := by
  obtain ⟨-, hurl, -, hbearer⟩ := built_keeps method url setters
  obtain ⟨written, -, hwritten, -⟩ := prepare_eq_ok_iff.mp hprepare
  have hleft : named name (built method url setters).headers ≠ [] := named_built_ne_nil hlast
  have hasked : named name ((built method url setters).askedHeaders (urlCredentials? written)) =
      named name (credentialPairs (urlCredentials? written)) ++
        named name (built method url setters).headers := by
    rw [askedHeaders, hbearer, bearerPairs, List.append_nil, named, List.filter_append]
    rfl
  rw [values_of_prepare hprepare hwritten (by rw [hasked]; simp [hleft]), hasked,
    ← named_credentialPairs_eq_nil_iff (hurl ▸ hwritten), ← named_built_eq_iff method url hlast]
  generalize named name (credentialPairs (urlCredentials? written)) = asking
  cases asking with
  | nil => simp
  | cons pair pairs => simp [hleft]

/-- Calls that are fit to be sent leave it to the URL whether a request can be sent. -/
theorem exists_prepare_built_iff (hfit : ∀ setter ∈ setters, setter.isFit) {config : Config} :
    (∃ message, (built method url setters).prepare config = .ok message) ↔
      ∃ message, prepare config { method, url } = .ok message := by
  have hbuilt : ∀ setters : List Setter, (∀ setter ∈ setters, setter.isFit) →
      ((∃ message, (built method url setters).prepare config = .ok message) ↔
        ∃ written, Url.parse url = .ok written ∧ written.host?.isSome ∧
          Url.IsWebScheme (destination { method, url } written).scheme ∧
          isCarriable (destination { method, url } written) = true) := by
    intro setters hfit
    obtain ⟨-, hurl, hquery, -⟩ := built_keeps method url setters
    have hdestination (written : Url) : (built method url setters).destination written =
        destination { method, url } written := by
      rw [destination, hquery]
      rfl
    simp [prepare_eq_ok_iff, hurl, hdestination, exists_ownHeaders?_built hfit]
  exact (hbuilt setters hfit).trans (hbuilt [] (fun _ h ↦ absurd h List.not_mem_nil)).symm

end Request

/-- What is sent first for a request (`hsent`) is the message that it becomes, so the request could
be built. -/
theorem prepare_of_sent {config : Config} {request : Request} {traffic : Traffic}
    {message : Message} {more : List Message}
    (hsent : (execute config request traffic).2.sent = traffic.sent ++ message :: more) :
    request.prepare config = .ok message := by
  obtain ⟨delivery, hanswered, hreceived⟩ := execute_attempt config request traffic
  generalize (execute config request traffic).1 = answer,
    (execute config request traffic).2 = traffic' at hanswered hreceived hsent
  cases hanswered with
  | unfit hprepare =>
    rw [hreceived.eq_of_nil] at hsent
    simp at hsent
  | delivered hprepare hfollowed =>
    have hmessages := List.append_cancel_left (hreceived.sent_single.symm.trans hsent)
    have hfirst := hfollowed.head?_messages (by rw [hmessages]; exact List.cons_ne_nil _ _)
    rw [hmessages] at hfirst
    rw [hprepare, Option.some.inj hfirst]

/-- Requests that are built by calls with fit names and values are delivered when the bare request
would be: they are sent unless the host cannot be connected to, and nothing else is where each reply
answers its message as it stands. What is sent first carries, under each name that the calls set,
the value of the last such call and no other exactly when these calls spell the name alike
(`Setter.SpellAlike`), and it is not the name of the header in which the URL says who asks
(`Request.NamesAsker`). -/
theorem execute_carries_last_iff (config : Config) (method : Method) (url : String)
    {setters : List Setter} (hfit : ∀ setter ∈ setters, setter.isFit) (traffic : Traffic) :
    ((∃ message, Request.prepare config { method, url } = .ok message) → ∃ delivery,
      Received traffic [delivery] (execute config (Request.built method url setters) traffic).2 ∧
      (¬delivery.IsUnreached → ∃ more,
        (execute config (Request.built method url setters) traffic).2.sent =
          traffic.sent ++ delivery.message :: more) ∧
      (traffic.reachable = true → (∀ reply ∈ traffic.replies, reply.IsDirect) →
        (execute config (Request.built method url setters) traffic).2.sent =
          traffic.sent ++ [delivery.message])) ∧
    ∀ message more, (execute config (Request.built method url setters) traffic).2.sent =
        traffic.sent ++ message :: more →
      message.method = method ∧
      ∀ name value, Setter.lastValue? name setters = some value →
        (message.values name = [value] ↔ Setter.SpellAlike name setters ∧
          ¬ (Text.sameIgnoringCase "Authorization" name = true ∧ Request.NamesAsker url)) := by
  constructor
  · intro hbare
    obtain ⟨message, hprepare⟩ := (Request.exists_prepare_built_iff hfit).mpr hbare
    obtain ⟨delivery, traffic', rfl, hreceived, hrun⟩ := execute_delivers hprepare traffic
    rw [hrun]
    refine ⟨delivery, hreceived, fun hreached ↦ ?_, fun hreach hdirect ↦ ?_⟩
    · obtain ⟨hfollowed, -⟩ := Received.single_iff.mp hreceived
      have hsome : delivery.messages ≠ [] := mt hfollowed.messages_eq_nil_iff.mp hreached
      obtain ⟨more, hmessages⟩ := List.head?_eq_some_iff.mp (hfollowed.head?_messages hsome)
      exact ⟨more, by rw [hreceived.sent_single, hmessages]⟩
    · rw [hreceived.sent_single,
        hreceived.messages_of_isDirect hreach hdirect delivery (List.mem_singleton_self delivery)]
  · intro message more hsent
    have hprepare := prepare_of_sent hsent
    exact ⟨(Request.method_of_prepare hprepare).trans (Request.built_keeps method url setters).1,
      fun name value hlast ↦ Request.values_prepare_built_iff hprepare hlast⟩

theorem execute_carries_last_iff_sample :
    ∃ message : Message,
      (execute {} (.built .post "http://na1.example.com/x" [.text "a", .csv [97]]) {}).2.sent =
        [message] ∧ message.values "content-type" = ["text/csv"] := by
  have hfit : ∀ setter ∈ [Setter.text "a", .csv [97]], setter.isFit := by decide +kernel
  have hbare : (Request.prepare {} { method := .post, url := "http://na1.example.com/x" }).isOk =
      true := by decide +kernel
  have halike : Setter.SpellAlike "content-type" [.text "a", .csv [97]] := by
    rintro first hfirst - second hsecond -
    simp only [List.mem_cons, List.not_mem_nil, or_false] at hfirst hsecond
    rcases hfirst with rfl | rfl <;> rcases hsecond with rfl | rfl <;> rfl
  obtain ⟨hsends, hcarries⟩ :=
    execute_carries_last_iff {} .post "http://na1.example.com/x" hfit {}
  obtain ⟨bare, hbare⟩ := exists_of_isOk hbare
  obtain ⟨delivery, -, -, hsent⟩ := hsends ⟨bare, hbare⟩
  have hfirst := hsent rfl fun reply hreply ↦ absurd hreply List.not_mem_nil
  refine ⟨delivery.message, hfirst, ?_⟩
  refine ((hcarries delivery.message [] hfirst).2 "content-type" "text/csv" (by decide +kernel)).mpr
    ⟨halike, fun h ↦ absurd h.1 (by decide +kernel)⟩

/-- Of two calls that spell one name differently, both headers are sent. -/
theorem two_spellings_are_sent :
    Setter.lastValue? "x-a" [.header "X-A" "1", .header "x-a" "2"] = some "2" ∧
    ∃ message : Message,
      (execute {} (.built .get "http://na1.example.com/x"
        [.header "X-A" "1", .header "x-a" "2"]) {}).2.sent = [message] ∧
        message.values "x-a" = ["1", "2"] := by
  have hvalues : ((Request.built .get "http://na1.example.com/x"
      [.header "X-A" "1", .header "x-a" "2"]).prepare {}).toOption.map (·.values "x-a") =
        some ["1", "2"] := by decide +kernel
  cases hprepare : (Request.built .get "http://na1.example.com/x"
      [.header "X-A" "1", .header "x-a" "2"]).prepare {} with
  | error failure =>
    rw [hprepare] at hvalues
    cases hvalues
  | ok message =>
    rw [hprepare] at hvalues
    refine ⟨by decide +kernel, message, ?_, Option.some.inj hvalues⟩
    rw [execute_of_pass hprepare rfl rfl]
    rfl

end BulkJobs.Http
