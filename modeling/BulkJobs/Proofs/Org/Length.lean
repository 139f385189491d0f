import BulkJobs.Proofs.Http.Preparing
import BulkJobs.Proofs.Org.Plain

/-!
# How long URLs can be

A request line carries so many bytes of a URL and no more. At the host of the sample org, a request
for plain segments of which none is a dot can be built exactly when the path that is written from
them leaves room for the host (`exists_prepare_iff`).
-/

set_option autoImplicit false
set_option relaxedAutoImplicit false

namespace BulkJobs.Org

variable {org : Org} {segments : List String}

theorem url_congr {other : Org} (hinstance : org.instanceUrl = other.instanceUrl) (path : String) :
    org.url path = other.url path := by
  obtain ⟨instanceUrl, accessToken, apiVersion, http⟩ := org
  obtain ⟨instanceUrl', accessToken', apiVersion', http'⟩ := other
  cases hinstance
  rfl

/-- The URL of a path of these segments at the host of the sample org. -/
def homeUrl (segments : List String) : Url :=
  { scheme := "http"
    authority := some { username := "", password := none, host := .ipv6 [0, 0, 0, 0, 0, 0, 0, 1]
                        port := none }
    path := .segments segments
    query := none
    fragment := none }

theorem parse_home (hinstance : org.instanceUrl = sample.instanceUrl) (hsome : segments ≠ [])
    (hplain : ∀ part ∈ segments, Url.IsPlainSegment part) :
    Url.parse (org.url (org.instanceUrl ++ .ofList (UrlPath.segments segments).write)) =
      .ok (homeUrl (Url.carryOutDots [] segments)) := by
  obtain ⟨authority, hparse⟩ := sample_isPlain.parse_segments
  have hauthority : some authority = (homeUrl []).authority := by
    have hread : (Url.parse (sample.url
        (sample.instanceUrl ++ .ofList (UrlPath.segments ["a"]).write))).toOption.bind
          (·.authority) = (homeUrl []).authority := by
      decide +kernel
    rw [hparse ["a"] (List.cons_ne_nil _ _) (by decide +kernel)] at hread
    exact hread
  rw [url_congr hinstance, hinstance, hparse segments hsome hplain, hauthority]
  rfl

/-! ### Bytes -/

theorem utf8ByteSize_of_ascii {text : List Char} (hascii : ∀ c ∈ text, c.toNat < 0x80) :
    (String.ofList text).utf8ByteSize = text.length := by
  induction text with
  | nil => rfl
  | cons c text ih =>
    have hsize : c.utf8Size = 1 := by
      have hc : c.toNat < 0x80 := hascii c List.mem_cons_self
      rw [Char.utf8Size_eq_one_iff, UInt32.le_iff_toNat_le]
      exact Nat.le_of_lt_succ hc
    rw [String.ofList_cons, String.utf8ByteSize_append, String.utf8ByteSize_singleton, hsize,
      ih fun d hd ↦ hascii d (List.mem_cons_of_mem c hd), List.length_cons, Nat.add_comm]

theorem utf8ByteSize_write_home (hplain : ∀ part ∈ segments, Url.IsPlainSegment part) :
    (homeUrl segments).write.utf8ByteSize = (UrlPath.segments segments).write.length + 12 := by
  have hwrite : (homeUrl segments).write =
      .ofList ("http://[::1]".toList ++ (UrlPath.segments segments).write) := by
    have hfront : "http".toList ++ ':' :: '/' :: '/' ::
        (Authority.write ⟨"", none, .ipv6 [0, 0, 0, 0, 0, 0, 0, 1], none⟩) =
          "http://[::1]".toList := by
      decide
    rw [← hfront]
    simp [homeUrl, Url.write, Url.writeHierarchy, Url.writeQuery, Url.writeFragment]
  have hmarks : ∀ c ∈ "http://[::1]".toList, c.toNat < 0x80 :=
    List.all_iff_forall_prop.mp (by decide)
  rw [hwrite, utf8ByteSize_of_ascii, List.length_append, Nat.add_comm]
  · rfl
  · intro c hc
    rcases List.mem_append.mp hc with hc | hc
    · exact hmarks c hc
    rcases Url.mem_write_segments hplain hc with rfl | hc
    · decide
    · exact Url.toNat_lt_of_isPlain hc

/-! ### Requests -/

theorem urlCredentials?_home (segments : List String) :
    Http.Request.urlCredentials? (homeUrl segments) = none := by
  have hnone : Http.Request.urlCredentials? (homeUrl []) = none := by decide +kernel
  exact hnone

/-- A URL of plain segments (`hplain`) that are too long (`hlength`) cannot be carried with the
parameters of any request. -/
theorem not_isCarriable_home (hplain : ∀ part ∈ segments, Url.IsPlainSegment part)
    (hlength : 65534 < (UrlPath.segments segments).write.length + 12) (request : Http.Request) :
    Http.Request.isCarriable (request.destination (homeUrl segments)) = false := by
  have hcredentials := urlCredentials?_home segments
  have hwrite : ∃ more, (request.destination (homeUrl segments)).write =
      (homeUrl segments).write ++ more := by
    refine ⟨.ofList ((request.destination (homeUrl segments)).writeQuery ++
      (request.destination (homeUrl segments)).writeFragment), ?_⟩
    rw [Url.write, Url.write, ← String.ofList_append, List.append_assoc, List.append_assoc]
    refine congrArg String.ofList (congrArg₂ (· ++ ·) ?_ rfl)
    rw [Http.Request.destination, hcredentials, Http.Request.addQuery]
    simp only [Option.isSome_none, Bool.false_eq_true, if_false]
    cases request.query.isEmpty <;> simp [Url.writeHierarchy, Url.writeQuery, homeUrl]
  obtain ⟨more, hmore⟩ := hwrite
  have hsize := utf8ByteSize_write_home hplain
  simp only [Http.Request.isCarriable, hmore, String.utf8ByteSize_append, Bool.and_eq_false_iff,
    decide_eq_false_iff_not]
  left
  omega

/-- At the host of the sample org (`hinstance`) a request for plain segments that are no dots
(`hplain`, `hdots`) can be built exactly when its URL can be carried in a request line. -/
theorem exists_prepare_iff (hinstance : org.instanceUrl = sample.instanceUrl)
    (hsome : segments ≠ []) (hplain : ∀ part ∈ segments, Url.IsPlainSegment part)
    (hdots : Url.carryOutDots [] segments = segments) {request : Http.Request}
    (hurl : request.url = org.url (org.instanceUrl ++ .ofList (UrlPath.segments segments).write))
    (hquery : request.query = []) (hown : (request.ownHeaders? none).isSome)
    (config : Http.Config) : (∃ message, request.prepare config = .ok message) ↔
      (UrlPath.segments segments).write.length + 12 ≤ 65534 := by
  have hparse := parse_home hinstance hsome hplain
  rw [hdots, ← hurl] at hparse
  have hcredentials := urlCredentials?_home segments
  have hdestination : request.destination (homeUrl segments) = homeUrl segments := by
    rw [Http.Request.destination, hcredentials, hquery]
    rfl
  have hcarriable : Http.Request.isCarriable (homeUrl segments) = true ↔
      (UrlPath.segments segments).write.length + 12 ≤ 65534 := by
    have hhost : (homeUrl segments).host? = some (.ipv6 [0, 0, 0, 0, 0, 0, 0, 1]) := rfl
    have hmarks : (Host.ipv6 [0, 0, 0, 0, 0, 0, 0, 1]).write.any
        ['"', '\x60', '\x7b', '\x7d'].contains = false := by decide
    simp only [Http.Request.isCarriable, utf8ByteSize_write_home hplain, hhost, hmarks,
      Bool.not_false, Bool.and_true, decide_eq_true_eq]
  constructor
  · rintro ⟨message, hprepare⟩
    obtain ⟨written, own, hwritten, -, -, -, hfits, -⟩ :=
      Http.Request.prepare_eq_ok_iff.mp hprepare
    rw [hparse] at hwritten
    cases hwritten
    rw [hdestination] at hfits
    exact hcarriable.mp hfits
  · intro hlength
    obtain ⟨own, hown'⟩ := Option.isSome_iff_exists.mp hown
    refine ⟨_, Http.Request.prepare_eq_ok_iff.mpr
      ⟨homeUrl segments, own, hparse, rfl, ?_, ?_, ?_, rfl⟩⟩
    · rw [hcredentials, hown']
    · rw [hdestination]
      exact .inl rfl
    · rw [hdestination]
      exact hcarriable.mpr hlength

/-- At the host of the sample org a request for too many plain segments (`hlength`) cannot be built,
whatever its parameters are: preparing it fails for its URL. -/
theorem prepare_of_too_long (hinstance : org.instanceUrl = sample.instanceUrl)
    (hsome : segments ≠ []) (hplain : ∀ part ∈ segments, Url.IsPlainSegment part)
    (hdots : Url.carryOutDots [] segments = segments) {request : Http.Request}
    (hurl : request.url = org.url (org.instanceUrl ++ .ofList (UrlPath.segments segments).write))
    (hlength : 65534 < (UrlPath.segments segments).write.length + 12) (config : Http.Config) :
    ∃ failure, request.prepare config = .error failure := by
  cases hprepare : request.prepare config with
  | error failure => exact ⟨failure, rfl⟩
  | ok message =>
    obtain ⟨written, own, hwritten, -, -, -, hfits, -⟩ :=
      Http.Request.prepare_eq_ok_iff.mp hprepare
    rw [hurl, parse_home hinstance hsome hplain, hdots] at hwritten
    cases hwritten
    rw [not_isCarriable_home hplain hlength] at hfits
    cases hfits

/-! ### Below the jobs -/

theorem isPlainSegment_jobsRoot {version : String} (hversion : Url.IsPlainSegment version) :
    ∀ part ∈ jobsRoot version, Url.IsPlainSegment part := by
  have hnames : ∀ part ∈ ["services", "data", "v", "jobs"], Url.IsPlainSegment part := by
    decide +kernel
  intro part hpart
  simp only [jobsRoot, List.mem_cons, List.not_mem_nil, or_false] at hpart
  rcases hpart with rfl | rfl | rfl | rfl
  · exact hnames _ (by simp)
  · exact hnames _ (by simp)
  · intro c hc
    rw [String.toList_append] at hc
    rcases List.mem_append.mp hc with hc | hc
    · exact hnames "v" (by simp) c hc
    · exact hversion c hc
  · exact hnames _ (by simp)

theorem kept_jobsRoot (version : String) : ∀ part ∈ jobsRoot version,
    Url.isDoubleDot part = false ∧ Url.isSingleDot part = false := by
  have hversion : ("v" ++ version).toList.head? = some 'v' := by
    rw [String.toList_append]
    rfl
  intro part hpart
  simp only [jobsRoot, List.mem_cons, List.not_mem_nil, or_false] at hpart
  rcases hpart with rfl | rfl | rfl | rfl
  · decide +kernel
  · decide +kernel
  · exact Url.kept_of_head hversion (by decide) (by decide)
  · decide +kernel

theorem length_write_jobsRoot (version : String) (below : List String) :
    (UrlPath.segments (jobsRoot version ++ below)).write.length =
      version.toList.length + 21 + (UrlPath.segments below).write.length := by
  simp only [UrlPath.write, jobsRoot, List.cons_append, List.nil_append, List.flatMap_cons,
    List.length_append, List.length_cons, String.toList_append, String.length_toList]
  have hnames : "services".length = 8 ∧ "data".length = 4 ∧ "v".length = 1 ∧ "jobs".length = 4 := by
    decide
  omega

/-- A URL below the jobs that is written from plain segments (`hplain`), none of them a dot
(`hkept`), leads to these segments. -/
theorem jobsRoot_append {version : String} (hversion : Url.IsPlainSegment version)
    {below : List String} (hplain : ∀ part ∈ below, Url.IsPlainSegment part)
    (hkept : ∀ part ∈ below, Url.isDoubleDot part = false ∧ Url.isSingleDot part = false) :
    jobsRoot version ++ below ≠ [] ∧
      (∀ part ∈ jobsRoot version ++ below, Url.IsPlainSegment part) ∧
      Url.carryOutDots [] (jobsRoot version ++ below) = jobsRoot version ++ below :=
  ⟨List.append_ne_nil_of_left_ne_nil (List.cons_ne_nil _ _) below,
    List.forall_mem_append.mpr ⟨isPlainSegment_jobsRoot hversion, hplain⟩,
    Url.carryOutDots_of_kept (List.forall_mem_append.mpr ⟨kept_jobsRoot version, hkept⟩)⟩

/-- At the host of the sample org, with an API version that is plain text, a request for segments
below the jobs can be built exactly when version and segments leave room for the rest of the URL. -/
theorem exists_prepare_jobs_iff (hinstance : org.instanceUrl = sample.instanceUrl)
    (hversion : Url.IsPlainSegment org.apiVersion) {path : String} {below : List String}
    (hbelow : '/' :: (Text.trimStartChars ['/'] path).toList = (UrlPath.segments below).write)
    (hplain : ∀ part ∈ below, Url.IsPlainSegment part)
    (hkept : ∀ part ∈ below, Url.isDoubleDot part = false ∧ Url.isSingleDot part = false)
    {request : Http.Request} (hurl : request.url = org.url (org.jobsUrl path))
    (hquery : request.query = []) (hown : (request.ownHeaders? none).isSome)
    (config : Http.Config) : (∃ message, request.prepare config = .ok message) ↔
      org.apiVersion.toList.length + (UrlPath.segments below).write.length ≤ 65501 := by
  obtain ⟨hsome, hall, hdots⟩ := jobsRoot_append hversion hplain hkept
  rw [jobsUrl_eq hbelow] at hurl
  rw [exists_prepare_iff hinstance hsome hall hdots hurl hquery hown config, length_write_jobsRoot]
  omega

/-- With an API version that is plain text and too long, no request below the jobs can be built. -/
theorem prepare_jobs_of_too_long (hinstance : org.instanceUrl = sample.instanceUrl)
    (hversion : Url.IsPlainSegment org.apiVersion) (hlength : 65501 < org.apiVersion.toList.length)
    {path : String} {below : List String}
    (hbelow : '/' :: (Text.trimStartChars ['/'] path).toList = (UrlPath.segments below).write)
    (hplain : ∀ part ∈ below, Url.IsPlainSegment part)
    (hkept : ∀ part ∈ below, Url.isDoubleDot part = false ∧ Url.isSingleDot part = false)
    {request : Http.Request} (hurl : request.url = org.url (org.jobsUrl path))
    (config : Http.Config) : ∃ failure, request.prepare config = .error failure := by
  obtain ⟨hsome, hall, hdots⟩ := jobsRoot_append hversion hplain hkept
  rw [jobsUrl_eq hbelow] at hurl
  refine prepare_of_too_long hinstance hsome hall hdots hurl ?_ config
  rw [length_write_jobsRoot]
  omega

/-- There are plain texts of any length: a letter as often as wanted. -/
theorem isPlainSegment_replicate (n : Nat) :
    Url.IsPlainSegment (.ofList (List.replicate n 'a')) ∧
      (String.ofList (List.replicate n 'a')).toList.length = n := by
  rw [Url.IsPlainSegment, String.toList_ofList, List.length_replicate]
  refine ⟨fun c hc ↦ ?_, rfl⟩
  rw [List.eq_of_mem_replicate hc]
  decide

end BulkJobs.Org
