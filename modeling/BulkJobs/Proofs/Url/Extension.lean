import BulkJobs.Proofs.Url.Authority

/-!
# Texts behind a URL

What is written behind a URL of the web, from a slash on, has no part in its scheme and none in its
authority. Either the whole is no URL at all, or it has scheme and authority of the URL in front
(`parse_append`). The whole can fail, as blanks behind the authority, which are dropped at the end
of a text, come to stand inside; that depends on the URL in front alone (`exists_parse_append_iff`).
-/

set_option autoImplicit false
set_option relaxedAutoImplicit false

namespace BulkJobs.Url

/-- Whether a scheme is one of the two schemes of the web. -/
def IsWebScheme (scheme : String) : Prop :=
  scheme = "http" ∨ scheme = "https"

theorem IsWebScheme.isSpecial {scheme : String} (hweb : IsWebScheme scheme) :
    isSpecialScheme scheme = true := by
  rcases hweb with rfl | rfl <;> rfl

theorem IsWebScheme.ne_file {scheme : String} (hweb : IsWebScheme scheme) :
    (scheme == "file") = false := by
  rcases hweb with rfl | rfl <;> rfl

/-! ### The scheme -/

theorem takeWhile_append_of_dropWhile {p : Char → Bool} {text rest : List Char} {c : Char}
    (hdrop : text.dropWhile p = c :: rest) (more : List Char) :
    (text ++ more).takeWhile p = text.takeWhile p := by
  have hlength : (text.takeWhile p).length ≠ text.length := by
    intro hall
    have hsplit := congrArg List.length (List.takeWhile_append_dropWhile (p := p) (l := text))
    rw [List.length_append, hall, hdrop, List.length_cons] at hsplit
    omega
  rw [List.takeWhile_append, if_neg hlength]

theorem dropWhile_append_of_dropWhile {p : Char → Bool} {text rest : List Char} {c : Char}
    (hdrop : text.dropWhile p = c :: rest) (more : List Char) :
    (text ++ more).dropWhile p = c :: rest ++ more := by
  rw [List.dropWhile_append, hdrop]
  rfl

/-- The scheme ends at its colon. -/
theorem scheme?_append {text rest : List Char} {scheme : String}
    (hscheme : scheme? text = some (scheme, rest)) (more : List Char) :
    scheme? (text ++ more) = some (scheme, rest ++ more) := by
  unfold scheme? at hscheme ⊢
  simp only at hscheme ⊢
  split at hscheme
  case h_1 first behind hfirst hbehind =>
    have hhead : (text ++ more).head? = some first := by
      rw [List.head?_append, hfirst]
      rfl
    rw [hhead, dropWhile_append_of_dropWhile hbehind, takeWhile_append_of_dropWhile hbehind]
    simp only [List.cons_append]
    split_ifs at hscheme ⊢
    simp only [Option.some.injEq, Prod.mk.injEq] at hscheme ⊢
    exact ⟨hscheme.1, by rw [hscheme.2]⟩
  case h_2 => cases hscheme

/-! ### The authority -/

/-- Whatever is read as an authority (`hread`), what is left behind it stands behind the first end
of an authority. -/
theorem exists_of_readAuthority {scheme : String} (hspecial : isSpecialScheme scheme = true)
    {text behind : List Char} {authority : Authority}
    (hread : readAuthority scheme text = .ok (authority, behind)) : ∃ written port,
      text = written ++ behind ∧ IsUnbroken written ∧ StartsBehind behind ∧
        readAuthority scheme written = .ok (authority, port) := by
  obtain ⟨written, tail, rfl, hwritten, htail⟩ := exists_eq_unbroken_append text
  rw [readAuthority_append hspecial hwritten htail] at hread
  cases hplain : readAuthority scheme written with
  | error problem =>
    rw [hplain] at hread
    cases hread
  | ok read =>
    rw [hplain] at hread
    cases hread
    exact ⟨written, read.2, rfl, hwritten, htail, hplain⟩

/-- An authority that is followed by more text is read as it was (`hread`) when it had ended
already, or when the added text ends it. -/
theorem readAuthority_extend {scheme : String} (hspecial : isSpecialScheme scheme = true)
    {text behind more : List Char} {authority : Authority}
    (hread : readAuthority scheme text = .ok (authority, behind))
    (hend : behind ≠ [] ∨ StartsBehind more) :
    readAuthority scheme (text ++ more) = .ok (authority, behind ++ more) := by
  obtain ⟨written, port, rfl, hwritten, hbehind, hplain⟩ :=
    exists_of_readAuthority hspecial hread
  have hmore : StartsBehind (behind ++ more) := by
    cases behind with
    | nil => exact hend.resolve_left fun hne ↦ hne rfl
    | cons c rest => exact StartsBehind.cons (hbehind c rfl) _
  rw [List.append_assoc, readAuthority_append hspecial hwritten hmore, hplain]
  rfl

/-- An authority at the end of a text (`hread`) does not go on with a blank. -/
theorem readAuthority_extend_blank {scheme : String} (hspecial : isSpecialScheme scheme = true)
    {text blanks more : List Char} {authority : Authority}
    (hread : readAuthority scheme text = .ok (authority, []))
    (hsome : blanks ≠ []) (hblanks : ∀ c ∈ blanks, c.toNat ≤ 0x20) (hmore : StartsBehind more) :
    ∃ problem, readAuthority scheme (text ++ blanks ++ more) = .error problem := by
  obtain ⟨written, port, rfl, hwritten, -, -⟩ := exists_of_readAuthority hspecial hread
  obtain ⟨front, last, rfl⟩ : ∃ front last, blanks = front ++ [last] :=
    ⟨blanks.dropLast, blanks.getLast hsome, (List.dropLast_append_getLast hsome).symm⟩
  have hfront : IsUnbroken (written ++ front) := by
    intro c hc
    rcases List.mem_append.mp hc with hc | hc
    · exact hwritten c hc
    · exact not_endsAuthority_of_blank (hblanks c (List.mem_append_left _ hc))
  have hlast : last.toNat ≤ 0x20 := hblanks last List.mem_concat_self
  obtain ⟨problem, hproblem⟩ := readAuthority_concat hspecial hfront hlast hmore
  exact ⟨problem, by simpa using hproblem⟩

/-! ### The location -/

theorem readLocation_web {scheme : String} (hweb : IsWebScheme scheme) (text : List Char) :
    readLocation scheme text =
      (readAuthority scheme (text.dropWhile isSlash)).map fun read ↦ (some read.1, read.2) := by
  unfold readLocation
  rw [hweb.ne_file, hweb.isSpecial]
  change (readAuthority scheme (text.dropWhile isSlash) >>= fun read ↦
    pure (some read.1, read.2)) = _
  cases readAuthority scheme (text.dropWhile isSlash) <;> rfl

/-- Behind the slashes of a location there is an authority, and it is not empty. -/
theorem exists_of_readLocation {scheme : String} (hweb : IsWebScheme scheme)
    {text behind : List Char} {location : Option Authority}
    (hread : readLocation scheme text = .ok (location, behind)) : ∃ authority c rest,
      location = some authority ∧ text.dropWhile isSlash = c :: rest ∧
        readAuthority scheme (c :: rest) = .ok (authority, behind) := by
  rw [readLocation_web hweb] at hread
  cases htext : text.dropWhile isSlash with
  | nil =>
    rw [htext] at hread
    have hnone : readAuthority scheme [] = .error .emptyHost := by
      rcases hweb with rfl | rfl <;> rfl
    rw [hnone] at hread
    cases hread
  | cons c rest =>
    rw [htext] at hread
    cases hauthority : readAuthority scheme (c :: rest) with
    | error problem =>
      rw [hauthority] at hread
      cases hread
    | ok read =>
      rw [hauthority] at hread
      cases hread
      exact ⟨read.1, c, rest, rfl, rfl, hauthority⟩

theorem readLocation_extend {scheme : String} (hweb : IsWebScheme scheme)
    {text behind more : List Char} {location : Option Authority}
    (hread : readLocation scheme text = .ok (location, behind))
    (hend : behind ≠ [] ∨ StartsBehind more) :
    readLocation scheme (text ++ more) = .ok (location, behind ++ more) := by
  obtain ⟨authority, c, rest, rfl, htext, hauthority⟩ := exists_of_readLocation hweb hread
  rw [readLocation_web hweb, dropWhile_append_of_dropWhile htext,
    readAuthority_extend hweb.isSpecial hauthority hend]
  rfl

/-- A location that is followed by blanks and the end of an authority is read exactly when the
blanks do not stand right behind the authority. -/
theorem readLocation_extend_blanks_iff {scheme : String} (hweb : IsWebScheme scheme)
    {text behind blanks more : List Char} {location : Option Authority}
    (hread : readLocation scheme text = .ok (location, behind))
    (hblanks : ∀ c ∈ blanks, c.toNat ≤ 0x20) (hmore : StartsBehind more) :
    (∃ read, readLocation scheme (text ++ blanks ++ more) = .ok read) ↔
      behind ≠ [] ∨ blanks = [] := by
  by_cases hbehind : behind = []
  · by_cases hnone : blanks = []
    · rw [hnone, List.append_nil]
      exact ⟨fun _ ↦ .inr rfl, fun _ ↦ ⟨_, readLocation_extend hweb hread (.inr hmore)⟩⟩
    · obtain ⟨authority, c, rest, rfl, htext, hauthority⟩ := exists_of_readLocation hweb hread
      rw [hbehind] at hauthority
      obtain ⟨problem, hproblem⟩ :=
        readAuthority_extend_blank hweb.isSpecial hauthority hnone hblanks hmore
      have hfail : readLocation scheme (text ++ blanks ++ more) = .error problem := by
        rw [readLocation_web hweb, List.append_assoc, dropWhile_append_of_dropWhile htext,
          ← List.append_assoc, hproblem]
        rfl
      rw [hfail]
      simp [hbehind, hnone]
  · rw [List.append_assoc]
    exact ⟨fun _ ↦ .inl hbehind, fun _ ↦ ⟨_, readLocation_extend hweb hread (.inl hbehind)⟩⟩

/-- A location that is followed by blanks and the end of an authority is read, if at all, as it was
(`hread`). -/
theorem readLocation_extend_blanks {scheme : String} (hweb : IsWebScheme scheme)
    {text behind blanks more : List Char} {location : Option Authority}
    (hread : readLocation scheme text = .ok (location, behind))
    (hblanks : ∀ c ∈ blanks, c.toNat ≤ 0x20) (hmore : StartsBehind more)
    {read : Option Authority × List Char}
    (hsome : readLocation scheme (text ++ blanks ++ more) = .ok read) :
    read = (location, behind ++ blanks ++ more) := by
  refine Except.ok.inj (hsome.symm.trans ?_)
  rcases (readLocation_extend_blanks_iff hweb hread hblanks hmore).mp ⟨read, hsome⟩ with
    hbehind | rfl
  · rw [List.append_assoc, List.append_assoc]
    exact readLocation_extend hweb hread (.inl hbehind)
  · rw [List.append_nil, List.append_nil]
    exact readLocation_extend hweb hread (.inr hmore)

/-! ### The URL -/

/-- A text without marks (`hquery`, `hfragment`) is nothing but a path. -/
theorem splitQuery_of_notMem {text : List Char} (hquery : '?' ∉ text) (hfragment : '#' ∉ text) :
    splitQuery text = (text, none, none) := by
  have htake : ∀ mark ∉ text, text.takeWhile (· != mark) = text := by
    intro mark hmark
    exact List.takeWhile_eq_self_iff.mpr fun c hc ↦ bne_iff_ne.mpr (ne_of_mem_of_not_mem hc hmark)
  have hdrop : ∀ mark ∉ text, text.dropWhile (· != mark) = [] := by
    intro mark hmark
    exact List.dropWhile_eq_nil_iff.mpr fun c hc ↦ bne_iff_ne.mpr (ne_of_mem_of_not_mem hc hmark)
  simp [splitQuery, htake _ hquery, htake _ hfragment, hdrop _ hquery, hdrop _ hfragment]

/-- The URL of a scheme, an authority, and the text behind them. -/
def assemble (scheme : String) (location : Option Authority) (behind : List Char) : Url :=
  { scheme, authority := location
    path := readPath scheme location.isSome (splitQuery behind).1
    query := (splitQuery behind).2.1.map (escape (keptInQuery (isSpecialScheme scheme)))
    fragment := (splitQuery behind).2.2.map (escape keptInFragment) }

/-- A text is read as a URL exactly when its scheme and its location are, and then as what
`assemble` makes of them. -/
theorem parse_eq_ok_iff {text : String} {url : Url} : parse text = .ok url ↔
    ∃ scheme rest location behind, scheme? (clean text.toList) = some (scheme, rest) ∧
      readLocation scheme rest = .ok (location, behind) ∧
        url = assemble scheme location behind := by
  unfold parse
  cases hscheme : scheme? (clean text.toList) with
  | none => simp
  | some parts =>
    obtain ⟨scheme, rest⟩ := parts
    change ((readLocation scheme rest).bind fun read ↦ .ok (assemble scheme read.1 read.2)) =
      .ok url ↔ _
    constructor
    · intro hurl
      cases hlocation : readLocation scheme rest with
      | error problem =>
        rw [hlocation] at hurl
        cases hurl
      | ok read =>
        rw [hlocation] at hurl
        cases hurl
        exact ⟨scheme, rest, read.1, read.2, rfl, hlocation, rfl⟩
    · rintro ⟨scheme', rest', location, behind, hsame, hlocation, rfl⟩
      cases hsame
      rw [hlocation]
      rfl

/-- Text that is written behind a URL of the web (`hhome`, `hweb`), from a slash on, changes neither
its scheme nor its authority. -/
theorem parse_append {text : String} {home : Url} (hhome : parse text = .ok home)
    (hweb : IsWebScheme home.scheme) {after : String} (hafter : after.toList.head? = some '/')
    {url : Url} (hurl : parse (text ++ after) = .ok url) :
    url.scheme = home.scheme ∧ url.authority = home.authority := by
  obtain ⟨scheme, rest, location, behind, hscheme, hlocation, rfl⟩ := parse_eq_ok_iff.mp hhome
  obtain ⟨scheme', rest', location', behind', hscheme', hlocation', rfl⟩ :=
    parse_eq_ok_iff.mp hurl
  change IsWebScheme scheme at hweb
  obtain ⟨path, hpath⟩ : ∃ path, after.toList = '/' :: path := List.head?_eq_some_iff.mp hafter
  obtain ⟨blanks, more, hclean, hblanks⟩ :=
    clean_append_cons text.toList path (by decide : 0x20 < '/'.toNat)
  rw [String.toList_append, hpath, hclean, List.append_assoc,
    scheme?_append hscheme] at hscheme'
  cases hscheme'
  have hmore : StartsBehind ('/' :: more) := StartsBehind.cons (by decide) more
  rw [← List.append_assoc] at hlocation'
  cases readLocation_extend_blanks hweb hlocation hblanks hmore hlocation'
  exact ⟨rfl, rfl⟩

/-- Whether text that is written behind a URL of the web (`hhome`, `hweb`), from a slash on, leaves
it a URL does not depend on the text. -/
theorem exists_parse_append_iff {text : String} {home : Url} (hhome : parse text = .ok home)
    (hweb : IsWebScheme home.scheme) {after other : String}
    (hafter : after.toList.head? = some '/') (hother : other.toList.head? = some '/') :
    (∃ url, parse (text ++ after) = .ok url) ↔ ∃ url, parse (text ++ other) = .ok url := by
  obtain ⟨scheme, rest, location, behind, hscheme, hlocation, rfl⟩ := parse_eq_ok_iff.mp hhome
  change IsWebScheme scheme at hweb
  obtain ⟨blanks, hblanks, hclean⟩ := exists_clean_append text.toList
  have hiff : ∀ more : String, more.toList.head? = some '/' →
      ((∃ url, parse (text ++ more) = .ok url) ↔ behind ≠ [] ∨ blanks = []) := by
    intro more hmore
    obtain ⟨path, hpath⟩ : ∃ path, more.toList = '/' :: path := List.head?_eq_some_iff.mp hmore
    obtain ⟨tail, htail⟩ := hclean path (by decide : 0x20 < '/'.toNat)
    have hscheme' : scheme? (clean (text ++ more).toList) =
        some (scheme, rest ++ blanks ++ '/' :: tail) := by
      rw [String.toList_append, hpath, htail, List.append_assoc, scheme?_append hscheme,
        List.append_assoc]
    rw [← readLocation_extend_blanks_iff hweb hlocation hblanks
      (StartsBehind.cons (by decide : endsAuthority true '/' = true) tail)]
    constructor
    · rintro ⟨url, hurl⟩
      obtain ⟨scheme', rest', location', behind', hsame, hread, -⟩ := parse_eq_ok_iff.mp hurl
      rw [hscheme'] at hsame
      cases hsame
      exact ⟨_, hread⟩
    · rintro ⟨⟨location', behind'⟩, hread⟩
      exact ⟨_, parse_eq_ok_iff.mpr ⟨scheme, _, location', behind', hscheme', hread, rfl⟩⟩
  rw [hiff after hafter, hiff other hother]

/-- URLs with the same scheme (`hscheme`) and the same authority (`hauthority`) have the same
origin. -/
theorem origin?_congr {url home : Url} (hscheme : url.scheme = home.scheme)
    (hauthority : url.authority = home.authority) : url.origin? = home.origin? := by
  rw [origin?, origin?, hscheme, hauthority]

end BulkJobs.Url
