import BulkJobs.Http.Redaction
import Mathlib.Data.List.Infix

/-!
# What redaction leaves of a text

A secret is a part of a text that has the form of an access token or of a session id (`IsSecret`).
Both forms are made of letters, digits and few marks, and the replacements stand in brackets, so
what is found in a text with replacements was in the text, at a place where the pattern did not
match, or in one of the replacements (`infix_replaceFrom`). Where the form of a pattern begins, the
pattern matches (`accessToken_ne_none`, `sessionId_ne_none`), so a redacted text shows no secret
(`not_shows_redact`).

The note that a text was cut begins with dots, and dots may stand in the secret part of an access
token. A text that is cut right behind the mark of a token shows a token with dots for the secret
part, and this is the only way in which a sanitized text shows a secret
(`showsSecret_sanitize_iff`). There are such texts (`exists_isCutAtMark`).
-/

set_option autoImplicit false
set_option relaxedAutoImplicit false

namespace BulkJobs.Http.Redaction

open Text (isAsciiAlphanumeric)

/-! ### Secrets -/

/-- Two zeros and at least thirteen letters or digits, an exclamation mark, and at least one
character of the secret part. -/
def IsAccessToken (text : List Char) : Prop :=
  ∃ org secret, text = '0' :: '0' :: org ++ '!' :: secret ∧ 13 ≤ org.length ∧
    (∀ c ∈ org, isAsciiAlphanumeric c = true) ∧ secret ≠ [] ∧ ∀ c ∈ secret, isTokenChar c = true

/-- `sid=` and at least twenty letters or digits. -/
def IsSessionId (text : List Char) : Prop :=
  ∃ id, text = "sid=".toList ++ id ∧ 20 ≤ id.length ∧ ∀ c ∈ id, isAsciiAlphanumeric c = true

/-- Whether a text is a secret: an access token or a session id. -/
def IsSecret (text : List Char) : Prop :=
  IsAccessToken text ∨ IsSessionId text

/-- Whether a text has a part of a certain form, wherever it stands. -/
def ShowsPart (P : List Char → Prop) (text : List Char) : Prop :=
  ∃ part, P part ∧ part <:+: text

/-- Whether a text shows a secret, that is, has a part that is one. -/
def ShowsSecret (text : String) : Prop :=
  ShowsPart IsSecret text.toList

variable {P : List Char → Prop} {part text : List Char}

theorem ShowsPart.mono (hshows : ShowsPart P part) (hpart : part <:+: text) : ShowsPart P text := by
  obtain ⟨found, hfound, hwithin⟩ := hshows
  exact ⟨found, hfound, hwithin.trans hpart⟩

theorem isTokenChar_of_isAsciiAlphanumeric {c : Char} (hc : isAsciiAlphanumeric c = true) :
    isTokenChar c = true := by
  rw [isTokenChar, hc]
  rfl

/-- Secrets are made of few characters: those of tokens, and the two marks. -/
theorem IsSecret.forall_mem (hsecret : IsSecret part) :
    ∀ c ∈ part, isTokenChar c = true ∨ c = '!' ∨ c = '=' := by
  have hzero : isTokenChar '0' = true := by decide
  have hopening : ∀ c ∈ "sid=".toList, isTokenChar c = true ∨ c = '!' ∨ c = '=' := by decide
  intro c hc
  rcases hsecret with ⟨org, secret, rfl, -, horg, -, hsecret⟩ | ⟨id, rfl, -, hid⟩
  · simp only [List.cons_append, List.mem_cons, List.mem_append] at hc
    rcases hc with rfl | rfl | hc | rfl | hc
    · exact .inl hzero
    · exact .inl hzero
    · exact .inl (isTokenChar_of_isAsciiAlphanumeric (horg c hc))
    · exact .inr (.inl rfl)
    · exact .inl (hsecret c hc)
  · rcases List.mem_append.mp hc with hc | hc
    · exact hopening c hc
    · exact .inl (isTokenChar_of_isAsciiAlphanumeric (hid c hc))

theorem IsSecret.notMem {c : Char} (hsecret : IsSecret part)
    (hc : ¬(isTokenChar c = true ∨ c = '!' ∨ c = '=')) : c ∉ part :=
  mt (hsecret.forall_mem c) hc

/-- Every secret has a mark, by which a text that could show one is known. -/
theorem IsSecret.mark_mem (hsecret : IsSecret part) : '!' ∈ part ∨ '=' ∈ part := by
  rcases hsecret with ⟨org, secret, rfl, -⟩ | ⟨id, rfl, -⟩
  · simp
  · exact .inr (List.mem_append_left id (by decide))

def IsUnmarked (text : List Char) : Prop :=
  ∀ c ∈ text, c ≠ '!' ∧ c ≠ '='

instance : DecidablePred IsUnmarked :=
  fun text ↦ inferInstanceAs (Decidable (∀ c ∈ text, c ≠ '!' ∧ c ≠ '='))

theorem IsUnmarked.append {left right : List Char} (hleft : IsUnmarked left)
    (hright : IsUnmarked right) : IsUnmarked (left ++ right) :=
  List.forall_mem_append.mpr ⟨hleft, hright⟩

/-- A text without marks (`htext`) shows no secret, as every secret has one of them. -/
theorem IsUnmarked.not_shows (htext : IsUnmarked text) : ¬ ShowsPart IsSecret text := by
  rintro ⟨part, hsecret, hpart⟩
  rcases hsecret.mark_mem with hmark | hmark
  · exact (htext '!' (hpart.subset hmark)).1 rfl
  · exact (htext '=' (hpart.subset hmark)).2 rfl

/-! ### Parts beside a separator -/

theorem eq_nil_of_prefix_cons {c : Char} {right : List Char} (hc : c ∉ part)
    (hpart : part <+: c :: right) : part = [] := by
  rcases List.prefix_cons_iff.mp hpart with h | ⟨rest, rfl, -⟩
  · exact h
  · exact absurd List.mem_cons_self hc

theorem prefix_of_prefix_append_cons {c : Char} {left right : List Char} (hc : c ∉ part)
    (hpart : part <+: left ++ c :: right) : part <+: left := by
  rcases List.prefix_or_prefix_of_prefix hpart (List.prefix_append left (c :: right)) with
    h | ⟨rest, rfl⟩
  · exact h
  · have hrest : rest <+: c :: right := (List.prefix_append_right_inj left).mp hpart
    rw [eq_nil_of_prefix_cons (fun h ↦ hc (List.mem_append_right left h)) hrest, List.append_nil]

theorem infix_append_cons_iff {c : Char} {left right : List Char} (hc : c ∉ part) :
    part <:+: left ++ c :: right ↔ part <:+: left ∨ part <:+: right := by
  constructor
  · intro hpart
    rcases List.infix_append_iff.mp hpart with h | h | ⟨front, back, rfl, hfront, hback⟩
    · exact .inl h
    · rcases List.infix_cons_iff.mp h with h | h
      · rw [eq_nil_of_prefix_cons hc h]
        exact .inl List.nil_infix
      · exact .inr h
    · have hnil : back = [] :=
        eq_nil_of_prefix_cons (fun h ↦ hc (List.mem_append_right front h)) hback
      rw [hnil, List.append_nil]
      exact .inl hfront.isInfix
  · rintro (h | h)
    · exact h.trans (List.prefix_append left _).isInfix
    · exact h.trans ((List.suffix_cons c right).trans (List.suffix_append left _)).isInfix

theorem shows_append_cons_iff {c : Char} (hc : ¬(isTokenChar c = true ∨ c = '!' ∨ c = '='))
    (left right : List Char) :
    ShowsPart IsSecret (left ++ c :: right) ↔
      ShowsPart IsSecret left ∨ ShowsPart IsSecret right := by
  constructor
  · rintro ⟨part, hsecret, hpart⟩
    exact ((infix_append_cons_iff (hsecret.notMem hc)).mp hpart).imp
      (fun h ↦ ⟨part, hsecret, h⟩) fun h ↦ ⟨part, hsecret, h⟩
  · rintro (h | h)
    · exact h.mono (List.prefix_append left _).isInfix
    · exact h.mono ((List.suffix_cons c right).trans (List.suffix_append left _)).isInfix

/-! ### Replacing -/

section Replacing

variable {pattern : Pattern} {common inner replacement : List Char}

theorem prefix_replaceFrom (hopen : '[' ∉ part)
    (hreplacement : replacement = common ++ '[' :: (inner ++ [']']))
    (hcommon : ∀ text more, pattern text = some more → common <+: text)
    (hpart : part <+: replaceFrom pattern replacement 0 text) : part <+: text := by
  induction text generalizing part with
  | nil => exact hpart
  | cons c rest ih =>
    rw [replaceFrom] at hpart
    cases hmatch : pattern (c :: rest) with
    | none =>
      rw [hmatch] at hpart
      rcases List.prefix_cons_iff.mp hpart with rfl | ⟨later, rfl, hlater⟩
      · exact List.nil_prefix
      · exact List.cons_prefix_cons.mpr ⟨rfl, ih (fun h ↦ hopen (.tail c h)) hlater⟩
    | some more =>
      rw [hmatch] at hpart
      simp only [hreplacement, List.append_assoc, List.cons_append] at hpart
      exact (prefix_of_prefix_append_cons hopen hpart).trans (hcommon _ more hmatch)

/-- What is found in a text with replacements is part of a replacement, or it begins where the
pattern does not match. The induction is on the text; what begins in front of a replacement and ends
in it ends in the part that every match begins with. -/
theorem infix_replaceFrom (hopen : '[' ∉ part) (hclose : ']' ∉ part)
    (hreplacement : replacement = common ++ '[' :: (inner ++ [']']))
    (hcommon : ∀ text more, pattern text = some more → common <+: text) {skip : Nat}
    (hpart : part <:+: replaceFrom pattern replacement skip text) :
    part <:+: common ∨ part <:+: inner ∨
      ∃ rest, rest <:+ text ∧ part <+: rest ∧ pattern rest = none := by
  induction text generalizing skip with
  | nil =>
    cases skip <;> exact .inl (List.infix_nil.mp hpart ▸ List.nil_infix)
  | cons c later ih =>
    have hlater : (∃ rest, rest <:+ later ∧ part <+: rest ∧ pattern rest = none) →
        ∃ rest, rest <:+ c :: later ∧ part <+: rest ∧ pattern rest = none := by
      rintro ⟨rest, hrest, hfound⟩
      exact ⟨rest, hrest.trans (List.suffix_cons c later), hfound⟩
    cases skip with
    | succ skip => exact (ih hpart).imp id (Or.imp id hlater)
    | zero =>
      cases hmatch : pattern (c :: later) with
      | none =>
        rw [replaceFrom, hmatch] at hpart
        rcases List.infix_cons_iff.mp hpart with hhere | hbehind
        · have hkept : part <+: replaceFrom pattern replacement 0 (c :: later) := by
            rw [replaceFrom, hmatch]
            exact hhere
          exact .inr (.inr ⟨c :: later, List.suffix_rfl,
            prefix_replaceFrom hopen hreplacement hcommon hkept, hmatch⟩)
        · exact (ih hbehind).imp id (Or.imp id hlater)
      | some more =>
        rw [replaceFrom, hmatch] at hpart
        simp only [hreplacement, List.append_assoc, List.cons_append, List.nil_append] at hpart
        rcases (infix_append_cons_iff hopen).mp hpart with h | h
        · exact .inl h
        · rcases (infix_append_cons_iff hclose).mp h with h | h
          · exact .inr (.inl h)
          · rw [← hreplacement] at h
            exact (ih h).imp id (Or.imp id hlater)

end Replacing

/-! ### Where the patterns match -/

/-- Where an access token begins (`hlong`, `horg`), the pattern matches it and all that goes on with
its secret part, whatever is behind that. -/
theorem accessToken_append {org secret : List Char} (hlong : 13 ≤ org.length)
    (horg : ∀ c ∈ org, isAsciiAlphanumeric c = true) (hsome : secret ≠ [])
    (hsecret : ∀ c ∈ secret, isTokenChar c = true) (behind : List Char) :
    accessToken ('0' :: '0' :: org ++ '!' :: secret ++ behind) =
      some (2 + org.length + (secret ++ behind.takeWhile isTokenChar).length) := by
  have hmark : isAsciiAlphanumeric '!' = false := by decide
  have hsplit : '0' :: '0' :: org ++ '!' :: secret ++ behind =
      '0' :: '0' :: (org ++ '!' :: (secret ++ behind)) := by simp
  have htaken : (org ++ '!' :: (secret ++ behind)).takeWhile isAsciiAlphanumeric = org := by
    rw [List.takeWhile_append_of_pos horg, List.takeWhile_cons_of_neg (by rw [hmark]; decide),
      List.append_nil]
  have hlength : 1 ≤ (secret ++ behind.takeWhile isTokenChar).length := by
    rw [List.length_append]
    exact Nat.le_add_right_of_le (List.length_pos_iff.mpr hsome)
  rw [hsplit, accessToken]
  simp only [htaken, List.drop_left, List.takeWhile_append_of_pos hsecret]
  rw [if_pos (by simp only [hlong, hlength, decide_true, Bool.and_self])]

theorem accessToken_ne_none {rest : List Char} (htoken : IsAccessToken part)
    (hpart : part <+: rest) : accessToken rest ≠ none := by
  obtain ⟨org, secret, rfl, hlong, horg, hsome, hsecret⟩ := htoken
  obtain ⟨behind, rfl⟩ := hpart
  rw [accessToken_append hlong horg hsome hsecret]
  exact Option.some_ne_none _

theorem sessionId_append {id : List Char} (hlong : 20 ≤ id.length)
    (hid : ∀ c ∈ id, isAsciiAlphanumeric c = true) (behind : List Char) :
    sessionId ("sid=".toList ++ id ++ behind) =
      some (3 + (id ++ behind.takeWhile isAsciiAlphanumeric).length) := by
  have hsplit : "sid=".toList ++ id ++ behind = 's' :: 'i' :: 'd' :: '=' :: (id ++ behind) := by
    rw [List.append_assoc]
    rfl
  have henough : 20 ≤ (id ++ behind.takeWhile isAsciiAlphanumeric).length := by
    rw [List.length_append]
    exact Nat.le_add_right_of_le hlong
  rw [hsplit, sessionId]
  simp only [List.takeWhile_append_of_pos hid]
  rw [if_pos henough]

theorem sessionId_ne_none {rest : List Char} (hid : IsSessionId part) (hpart : part <+: rest) :
    sessionId rest ≠ none := by
  obtain ⟨id, rfl, hlong, hid⟩ := hid
  obtain ⟨behind, rfl⟩ := hpart
  rw [sessionId_append hlong hid]
  exact Option.some_ne_none _

theorem prefix_of_sessionId {rest : List Char} {more : Nat} (hmatch : sessionId rest = some more) :
    "sid=".toList <+: rest := by
  unfold sessionId at hmatch
  split at hmatch
  · exact List.prefix_append "sid=".toList _
  · cases hmatch

/-! ### Redacted texts -/

/-- No access token is left where access tokens are replaced: the replacement is part of none, and
what is between two replacements shows none. -/
theorem not_shows_replaceAll_accessToken (text : List Char) :
    ¬ ShowsPart IsAccessToken (replaceAll accessToken "[REDACTED_TOKEN]" text) := by
  rintro ⟨part, htoken, hpart⟩
  have hsecret : IsSecret part := .inl htoken
  have hopen : '[' ∉ part := hsecret.notMem (by decide)
  have hclose : ']' ∉ part := hsecret.notMem (by decide)
  have hreplacement : "[REDACTED_TOKEN]".toList = [] ++ '[' :: ("REDACTED_TOKEN".toList ++ [']']) :=
    rfl
  have hunmarked : IsUnmarked "REDACTED_TOKEN".toList := by decide
  rcases infix_replaceFrom hopen hclose hreplacement (fun _ _ _ ↦ List.nil_prefix) hpart with
    h | h | ⟨rest, -, hrest, hnone⟩
  · exact IsUnmarked.not_shows (by decide) ⟨part, hsecret, h⟩
  · exact hunmarked.not_shows ⟨part, hsecret, h⟩
  · exact accessToken_ne_none htoken hrest hnone

/-- A redacted text shows no secret. What replaces session ids could be part of a secret only up to
its opening bracket, and is too short for a session id there. -/
theorem not_shows_redact (text : List Char) : ¬ ShowsPart IsSecret (redact text) := by
  rintro ⟨part, hsecret, hpart⟩
  have hopen : '[' ∉ part := hsecret.notMem (by decide)
  have hclose : ']' ∉ part := hsecret.notMem (by decide)
  have hreplacement :
      "sid=[REDACTED]".toList = "sid=".toList ++ '[' :: ("REDACTED".toList ++ [']']) := rfl
  have hunmarked : IsUnmarked "REDACTED".toList := by decide
  rcases infix_replaceFrom hopen hclose hreplacement (fun _ _ ↦ prefix_of_sessionId) hpart with
    h | h | ⟨rest, hsuffix, hrest, hnone⟩
  · have hlength : part.length ≤ 4 := h.length_le
    rcases hsecret with ⟨org, secret, rfl, hlong, -⟩ | ⟨id, rfl, hlong, -⟩
    · simp only [List.cons_append, List.length_cons, List.length_append] at hlength
      omega
    · rw [List.length_append] at hlength
      omega
  · exact hunmarked.not_shows ⟨part, hsecret, h⟩
  · rcases hsecret with htoken | hid
    · exact not_shows_replaceAll_accessToken text
        ⟨part, htoken, hrest.isInfix.trans hsuffix.isInfix⟩
    · exact sessionId_ne_none hid hrest hnone

/-! ### Sanitized texts -/

theorem isPrefix_takeBytes (room : Nat) (text : List Char) : takeBytes room text <+: text := by
  induction text generalizing room with
  | nil => exact List.nil_prefix
  | cons c rest ih =>
    rw [takeBytes]
    split_ifs
    · exact List.cons_prefix_cons.mpr ⟨rfl, ih _⟩
    · exact List.nil_prefix

/-- Whether a text ends in the mark of an access token, with the org in front of it and nothing of
the secret part behind it. -/
def EndsAtMark (text : List Char) : Prop :=
  ∃ org, '0' :: '0' :: org ++ ['!'] <:+ text ∧ 13 ≤ org.length ∧
    ∀ c ∈ org, isAsciiAlphanumeric c = true

/-- Whether a text is too long to be shown in full, and the beginning that is shown is cut right
behind the mark of an access token. -/
def IsCutAtMark (text : String) : Prop :=
  maxLength < byteLength (redact text.toList) ∧
    EndsAtMark (takeBytes maxLength (redact text.toList))

theorem IsSessionId.dot_notMem (hid : IsSessionId part) : '.' ∉ part := by
  obtain ⟨id, rfl, -, hid⟩ := hid
  have hdot : isAsciiAlphanumeric '.' = false := by decide
  intro hmem
  rcases List.mem_append.mp hmem with h | h
  · exact absurd h (by decide)
  · rw [hid '.' h] at hdot
    cases hdot

/-- A token that ends in dots which stand behind a text has its mark at the end of the text, unless
a token is in the text alone. -/
theorem IsAccessToken.endsAtMark {front back : List Char} (htoken : IsAccessToken (front ++ back))
    (hclean : ¬ IsAccessToken front) (hfront : front <:+ text) (hback : '!' ∉ back) :
    EndsAtMark text := by
  obtain ⟨org, secret, hsplit, hlong, horg, -, hsecret⟩ := htoken
  have hhead : front ++ back = ('0' :: '0' :: org ++ ['!']) ++ secret := by
    rw [hsplit, List.append_assoc]
    rfl
  rcases List.append_eq_append_iff.mp hhead with ⟨missing, hmissing, rfl⟩ | ⟨more, rfl, rfl⟩
  · rcases List.eq_nil_or_concat' missing with rfl | ⟨before, last, rfl⟩
    · rw [List.append_nil] at hmissing
      exact ⟨org, hmissing ▸ hfront, hlong, horg⟩
    · rw [← List.append_assoc] at hmissing
      obtain rfl : '!' = last := by simpa using (List.append_inj' hmissing rfl).2
      exact absurd (by simp) hback
  · by_cases hmore : more = []
    · rw [hmore, List.append_nil] at hfront
      exact ⟨org, hfront, hlong, horg⟩
    · have hshort : IsAccessToken ('0' :: '0' :: org ++ ['!'] ++ more) :=
        ⟨org, more, by simp, hlong, horg, hmore, fun c hc ↦
          hsecret c (List.mem_append_left back hc)⟩
      exact absurd hshort hclean

/-- Dots behind a text that shows no secret (`hclean`) complete a token exactly behind its mark
(`EndsAtMark`). -/
theorem shows_append_dots_iff (hclean : ¬ ShowsPart IsSecret text) :
    ShowsPart IsSecret (text ++ "...".toList) ↔ EndsAtMark text := by
  have hdots : ∀ c ∈ "...".toList, c = '.' := by decide
  constructor
  · rintro ⟨part, hsecret, hpart⟩
    rcases List.infix_append_iff.mp hpart with h | h | ⟨front, back, rfl, hfront, hback⟩
    · exact absurd ⟨part, hsecret, h⟩ hclean
    · exact absurd ⟨part, hsecret, h⟩ (IsUnmarked.not_shows (by decide))
    · have hkept : ¬ IsSecret front := fun h ↦ hclean ⟨front, h, hfront.isInfix⟩
      rcases hsecret with htoken | hid
      · refine htoken.endsAtMark (mt .inl hkept) hfront fun hmark ↦ ?_
        exact absurd (hdots '!' (hback.subset hmark)) (by decide)
      · have hnil : back = [] := List.eq_nil_iff_forall_not_mem.mpr fun c hc ↦
          hid.dot_notMem (hdots c (hback.subset hc) ▸ List.mem_append_right front hc)
        rw [hnil, List.append_nil] at hid
        exact absurd (.inr hid) hkept
  · rintro ⟨org, ⟨before, rfl⟩, hlong, horg⟩
    have htoken : IsAccessToken ('0' :: '0' :: org ++ ['!', '.']) :=
      ⟨org, ['.'], rfl, hlong, horg, List.cons_ne_nil _ _, by decide⟩
    exact ⟨_, .inl htoken, before, ['.', '.'], by simp⟩

theorem showsSecret_sanitize_iff (text : String) :
    ShowsSecret (sanitize text) ↔ IsCutAtMark text := by
  have hclean : ¬ ShowsPart IsSecret (redact text.toList) := not_shows_redact text.toList
  have hcut : ¬ ShowsPart IsSecret (takeBytes maxLength (redact text.toList)) := fun h ↦
    hclean (h.mono (isPrefix_takeBytes _ _).isInfix)
  have hrest : IsUnmarked "truncated]".toList := by decide
  have hnote : "...[truncated]".toList = "...".toList ++ '[' :: "truncated]".toList := rfl
  unfold ShowsSecret sanitize IsCutAtMark
  by_cases hlong : maxLength < byteLength (redact text.toList)
  · simp only [if_pos hlong, String.toList_ofList, hnote, ← List.append_assoc]
    rw [shows_append_cons_iff (by decide), shows_append_dots_iff hcut,
      or_iff_left hrest.not_shows, and_iff_right hlong]
  · simp only [if_neg hlong, String.toList_ofList]
    exact iff_of_false hclean fun h ↦ hlong h.1

/-! ### A text that is cut at a mark -/

theorem replaceFrom_replicate {pattern : Pattern} {replacement : List Char} {c : Char}
    (hpattern : ∀ rest, pattern (c :: rest) = none) (count : Nat) (text : List Char) :
    replaceFrom pattern replacement 0 (List.replicate count c ++ text) =
      List.replicate count c ++ replaceFrom pattern replacement 0 text := by
  induction count with
  | zero => rfl
  | succ count ih =>
    rw [List.replicate_succ, List.cons_append, replaceFrom, hpattern]
    exact congrArg (c :: ·) ih

theorem byteLength_replicate {c : Char} (hc : Utf8.width c = 1) (count : Nat) (text : List Char) :
    byteLength (List.replicate count c ++ text) = count + byteLength text := by
  induction count with
  | zero => rw [List.replicate_zero, List.nil_append, Nat.zero_add]
  | succ count ih =>
    have hstep : byteLength (c :: (List.replicate count c ++ text)) =
        Utf8.width c + byteLength (List.replicate count c ++ text) := rfl
    rw [List.replicate_succ, List.cons_append, hstep, ih, hc]
    omega

theorem takeBytes_replicate {c : Char} (hc : Utf8.width c = 1) (count room : Nat)
    (text : List Char) :
    takeBytes (count + room) (List.replicate count c ++ text) =
      List.replicate count c ++ takeBytes room text := by
  induction count with
  | zero => rw [List.replicate_zero, List.nil_append, List.nil_append, Nat.zero_add]
  | succ count ih =>
    have hroom : count + 1 + room - 1 = count + room := by omega
    rw [List.replicate_succ, List.cons_append, takeBytes, if_pos (by omega), hc, hroom, ih]
    rfl

/-- There are texts that are cut at the mark of a token: behind the right number of other
characters, the mark stands at the cut. -/
theorem exists_isCutAtMark : ∃ text, IsCutAtMark text := by
  have hwidth : Utf8.width 'x' = 1 := by decide
  have hkept : redact "00D000000000001!-".toList = "00D000000000001!-".toList := by decide +kernel
  have hredact : redact (List.replicate 484 'x' ++ "00D000000000001!-".toList) =
      List.replicate 484 'x' ++ "00D000000000001!-".toList := by
    unfold redact replaceAll at hkept ⊢
    rw [replaceFrom_replicate (fun _ ↦ rfl), replaceFrom_replicate (fun _ ↦ rfl), hkept]
  refine ⟨.ofList (List.replicate 484 'x' ++ "00D000000000001!-".toList), ?_, ?_⟩
  · rw [String.toList_ofList, hredact, byteLength_replicate hwidth]
    decide
  · have hcut : takeBytes 16 "00D000000000001!-".toList =
        '0' :: '0' :: "D000000000001".toList ++ ['!'] := by decide
    rw [String.toList_ofList, hredact, maxLength, takeBytes_replicate hwidth 484 16, hcut]
    exact ⟨_, List.suffix_append _ _, by decide, by decide⟩

end BulkJobs.Http.Redaction
