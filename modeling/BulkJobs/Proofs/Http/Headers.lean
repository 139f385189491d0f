import BulkJobs.Proofs.Http.Preparing
import Mathlib.Data.List.Basic

/-!
# The headers of a message

A request asks for headers by name and value: who asks, if its URL says so, then its token, then the
headers that were set (`Request.askedHeaders`). It can be sent with them if all are fit
(`Request.ownHeaders?_eq_some_iff`), and the names lose their case on the way. The defaults that are
added take no name that is taken (`completes_completeHeaders`). So under every name that is asked
for, in whatever case, a message carries the values that were asked for and no other
(`values_of_prepare`).
-/

set_option autoImplicit false
set_option relaxedAutoImplicit false

namespace BulkJobs.Http

/-! ### Names in whatever case -/

/-- A header as it is written on the wire, with its name in small letters and its value without
blanks around it. -/
def Header.ofPair (pair : String × String) : Header :=
  ⟨Text.lowerAsciiText pair.1, pair.2⟩

/-- The values of the headers with a name, in whatever case the name is given. -/
def Header.valuesOf (name : String) (headers : List Header) : List String :=
  (headers.filter (·.name == Text.lowerAsciiText name)).map (·.value)

/-- The values that a message carries under a name, in whatever case the name is given. -/
def Message.values (message : Message) (name : String) : List String :=
  Header.valuesOf name message.headers

theorem Header.valuesOf_append (name : String) (before after : List Header) :
    valuesOf name (before ++ after) = valuesOf name before ++ valuesOf name after := by
  rw [valuesOf, List.filter_append, List.map_append]
  rfl

theorem Header.valuesOf_map_ofPair (name : String) (pairs : List (String × String)) :
    valuesOf name (pairs.map ofPair) =
      (pairs.filter (Text.sameIgnoringCase ·.1 name)).map (·.2) := by
  rw [valuesOf, List.filter_map, List.map_map]
  rfl

theorem Header.valuesOf_eq_nil {name : String} {headers : List Header}
    (h : ∀ header ∈ headers, header.name ≠ Text.lowerAsciiText name) :
    valuesOf name headers = [] := by
  rw [valuesOf, List.filter_eq_nil_iff.mpr fun header hheader ↦ by simpa using h header hheader]
  rfl

theorem Header.make?_eq_some_iff {name value : String} {header : Header} :
    make? name value = some header ↔
      (isName name && isValue value) = true ∧ header = ofPair (name, value) := by
  unfold make?
  split_ifs with hfit
  · rw [Option.some.injEq, and_iff_right hfit, eq_comm]
    rfl
  · simp [hfit]

theorem Header.mapM_make?_eq_some_iff {pairs : List (String × String)} {headers : List Header} :
    (pairs.mapM fun (name, value) ↦ make? name value) = some headers ↔
      (∀ pair ∈ pairs, isName pair.1 && isValue pair.2) ∧ headers = pairs.map ofPair := by
  induction pairs generalizing headers with
  | nil =>
    exact ⟨fun h ↦ ⟨fun _ hpair ↦ absurd hpair List.not_mem_nil, (Option.some.inj h).symm⟩,
      fun h ↦ congrArg some h.2.symm⟩
  | cons pair pairs ih =>
    obtain ⟨name, value⟩ := pair
    simp only [List.mapM_cons, Option.bind_eq_bind, Option.bind_eq_some_iff, ih,
      make?_eq_some_iff, Option.pure_def, Option.some.injEq, List.forall_mem_cons, List.map_cons]
    constructor
    · rintro ⟨header, ⟨hfit, rfl⟩, _, ⟨hrest, rfl⟩, rfl⟩
      exact ⟨⟨hfit, hrest⟩, rfl⟩
    · rintro ⟨⟨hfit, hrest⟩, rfl⟩
      exact ⟨_, ⟨hfit, rfl⟩, _, ⟨hrest, rfl⟩, rfl⟩

/-! ### Defaults -/

/-- Whether headers are completed by others whose names are not among theirs, so that what they say
is still said. -/
def Header.Completes (own headers : List Header) : Prop :=
  ∃ more, headers = own ++ more ∧ ∀ header ∈ more, has header.name own = false

theorem Header.Completes.refl (own : List Header) : Completes own own :=
  ⟨[], (List.append_nil own).symm, fun _ h ↦ absurd h List.not_mem_nil⟩

theorem Header.Completes.addIfAbsent {own headers : List Header} (h : Completes own headers)
    (header : Header) : Completes own (header.addIfAbsent headers) := by
  obtain ⟨more, rfl, hmore⟩ := h
  unfold Header.addIfAbsent
  split_ifs with hhas
  · exact ⟨more, rfl, hmore⟩
  · refine ⟨more ++ [header], List.append_assoc _ _ _, fun other hother ↦ ?_⟩
    rcases List.mem_append.mp hother with hearlier | hlast
    · exact hmore other hearlier
    · rw [List.mem_singleton.mp hlast]
      rw [has, List.any_append, Bool.or_eq_true, not_or] at hhas
      exact Bool.eq_false_iff.mpr hhas.1

theorem Header.Completes.addWhen {own headers : List Header} (h : Completes own headers)
    (header : Header) (wanted : Bool) :
    Completes own (if wanted then header.addIfAbsent headers else headers) := by
  cases wanted
  · exact h
  · exact h.addIfAbsent header

/-- The defaults come behind the headers that a request asks for (`own`), and under other names. -/
theorem completes_completeHeaders (config : Config) (url : Url) (json : Bool) (own : List Header) :
    Header.Completes own (Request.completeHeaders config url json own) := by
  have hjson := (Header.Completes.refl own).addWhen ⟨"content-type", "application/json"⟩ json
  have hagent := (hjson.addIfAbsent ⟨"accept", "*/*"⟩).addIfAbsent ⟨"user-agent", config.userAgent⟩
  have hencoding := hagent.addWhen ⟨"accept-encoding", "gzip,deflate"⟩
  unfold Request.completeHeaders
  simp only
  split
  · exact (hencoding _).addIfAbsent _
  · exact hencoding _

/-- The values under a name that is among the headers (`hname`) stay the same when the headers are
completed (`h`). -/
theorem Header.Completes.valuesOf_eq {own headers : List Header} {name : String}
    (h : Completes own headers) (hname : valuesOf name own ≠ []) :
    valuesOf name headers = valuesOf name own := by
  obtain ⟨more, rfl, hmore⟩ := h
  have hnone : valuesOf name more = [] := by
    refine valuesOf_eq_nil fun header hheader heq ↦ ?_
    refine hname (valuesOf_eq_nil fun other hother hsame ↦ ?_)
    have hfree := hmore header hheader
    rw [heq, has, List.any_eq_false] at hfree
    exact hfree other hother (beq_iff_eq.mpr hsame)
  rw [valuesOf_append, hnone, List.append_nil]

/-! ### What a request asks for -/

namespace Request

/-- The header that says who asks when the URL does, with user name and password in it. -/
def credentialPairs : Option (String × String) → List (String × String)
  | some (username, password) => [("Authorization", basicCredentials username password)]
  | none => []

/-- The header that carries a token, if there is one to carry. -/
def bearerPairs : Option String → List (String × String)
  | some token => [("Authorization", "Bearer " ++ token)]
  | none => []

/-- The headers that a request asks for: who asks, the token, and those that were set, in this
order. -/
def askedHeaders (request : Request) (credentials : Option (String × String)) :
    List (String × String) :=
  credentialPairs credentials ++ bearerPairs request.bearer ++ request.headers

/-- The headers under a name, in whatever case the name is given. -/
def named (name : String) (pairs : List (String × String)) : List (String × String) :=
  pairs.filter (Text.sameIgnoringCase ·.1 name)

theorem ownHeaders?_eq_some_iff {request : Request} {credentials : Option (String × String)}
    {own : List Header} : request.ownHeaders? credentials = some own ↔
      (∀ pair ∈ request.askedHeaders credentials,
        Header.isName pair.1 && Header.isValue pair.2) ∧
      own = (request.askedHeaders credentials).map Header.ofPair := by
  rw [← Header.mapM_make?_eq_some_iff]
  unfold ownHeaders? askedHeaders
  cases credentials <;> cases request.bearer <;> rfl

end Request

/-- Under a name that is asked for, a message carries just the values that are asked for, in their
order: the defaults leave such a name alone. -/
theorem values_of_prepare {config : Config} {request : Request} {message : Message}
    {written : Url} (hprepare : request.prepare config = .ok message)
    (hwritten : Url.parse request.url = .ok written) {name : String}
    (hname : Request.named name (request.askedHeaders (Request.urlCredentials? written)) ≠ []) :
    message.values name =
      (Request.named name (request.askedHeaders (Request.urlCredentials? written))).map (·.2) := by
  obtain ⟨url, own, hurl, -, hown, -, -, rfl⟩ := Request.prepare_eq_ok_iff.mp hprepare
  cases hwritten.symm.trans hurl
  have hvalues := Header.valuesOf_map_ofPair name
    (request.askedHeaders (Request.urlCredentials? written))
  rw [← (Request.ownHeaders?_eq_some_iff.mp hown).2] at hvalues
  refine ((completes_completeHeaders config _ _ own).valuesOf_eq ?_).trans hvalues
  rw [hvalues]
  exact mt List.map_eq_nil_iff.mp hname

end BulkJobs.Http
