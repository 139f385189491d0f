import BulkJobs.Proofs.Http.Redaction
import BulkJobs.Proofs.Text.Coding
import Mathlib.Data.List.TakeWhile

/-!
# What sanitizing makes of a text

Replacing goes from left to right: where no match of a form begins a character is kept, and where
one begins the longest one is replaced and what is behind it is gone through in turn (`Replaces`).
A pattern that finds the longest match wherever there is one (`Pattern.Finds`) replaces so
(`replaces_iff`), and both patterns do. A text is cut behind the longest of its beginnings that
are texts and have few enough bytes (`isLongestWithin_takeBytes`). `sanitize_account` puts both
together: what is shown of a redacted text has no secret.
-/

set_option autoImplicit false
set_option relaxedAutoImplicit false

namespace BulkJobs.Http.Redaction

open Text (isAsciiAlphanumeric)

/-! ### Replacing -/

/-- How what has a certain form is replaced in a text: from left to right, the longest match at each
place, and then on behind it. -/
inductive Replaces (P : List Char → Prop) (replacement : List Char) :
    List Char → List Char → Prop where
  | done : Replaces P replacement [] []
  | kept {c : Char} {rest out : List Char} : (∀ found, found <+: c :: rest → ¬ P found) →
      Replaces P replacement rest out → Replaces P replacement (c :: rest) (c :: out)
  | replaced {found rest out : List Char} : P found →
      (∀ longer, longer <+: found ++ rest → P longer → longer.length ≤ found.length) →
      Replaces P replacement rest out → Replaces P replacement (found ++ rest) (replacement ++ out)

/-- Whether a pattern finds the longest part of a form at the start of a text, and nothing where
there is none. -/
structure Pattern.Finds (pattern : Pattern) (P : List Char → Prop) : Prop where
  some : ∀ {text more}, pattern text = some more →
    ∃ found rest, text = found ++ rest ∧ found.length = more + 1 ∧ P found
  longest : ∀ {text more longer}, pattern text = .some more → longer <+: text → P longer →
    longer.length ≤ more + 1
  none : ∀ {text found}, pattern text = .none → found <+: text → ¬ P found

section Replacing

variable {P : List Char → Prop} {pattern : Pattern} {replacement text out : List Char}

theorem replaceFrom_append (pattern : Pattern) (replacement part rest : List Char) :
    replaceFrom pattern replacement part.length (part ++ rest) =
      replaceFrom pattern replacement 0 rest := by
  induction part with
  | nil => rfl
  | cons c part ih => exact ih

/-- A match (`hmatch`) is replaced, and what is behind it is gone through in the same way. -/
theorem replaceFrom_match {found rest : List Char} {more : Nat}
    (hmatch : pattern (found ++ rest) = some more) (hlength : found.length = more + 1) :
    replaceFrom pattern replacement 0 (found ++ rest) =
      replacement ++ replaceFrom pattern replacement 0 rest := by
  obtain ⟨c, later, rfl⟩ := List.exists_cons_of_length_eq_add_one hlength
  have hmore : later.length = more := Nat.succ.inj hlength
  rw [List.cons_append] at hmatch ⊢
  rw [replaceFrom, hmatch, ← hmore]
  exact congrArg (replacement ++ ·) (replaceFrom_append pattern replacement later rest)

theorem Pattern.Finds.replaces (h : pattern.Finds P) (replacement text : List Char) :
    Replaces P replacement text (replaceFrom pattern replacement 0 text) := by
  induction hlength : text.length using Nat.strong_induction_on generalizing text with
  | _ n ih =>
    cases text with
    | nil => exact .done
    | cons c later =>
      cases hmatch : pattern (c :: later) with
      | none =>
        rw [replaceFrom, hmatch]
        exact .kept (fun found ↦ h.none hmatch) (ih _ (by simp [← hlength]) later rfl)
      | some more =>
        obtain ⟨found, rest, htext, hfound, hP⟩ := h.some hmatch
        rw [htext] at hmatch hlength ⊢
        rw [replaceFrom_match hmatch hfound]
        refine .replaced hP (fun longer hlonger hP' ↦ ?_) (ih _ ?_ rest rfl)
        · exact hfound ▸ h.longest hmatch hlonger hP'
        · rw [List.length_append] at hlength
          omega

/-- A pattern that finds the longest match of a form (`h`) replaces the matches of the form, as
`Replaces` says, and in no other way. -/
theorem replaces_iff (h : pattern.Finds P) {replacement : String} :
    Replaces P replacement.toList text out ↔ out = replaceAll pattern replacement text := by
  constructor
  · intro hreplaces
    rw [replaceAll]
    induction hreplaces with
    | done => rfl
    | @kept c rest out hnone _ ih =>
      cases hmatch : pattern (c :: rest) with
      | none => rw [replaceFrom, hmatch, ih]
      | some more =>
        obtain ⟨found, behind, htext, -, hP⟩ := h.some hmatch
        exact absurd hP (hnone found (htext ▸ List.prefix_append found behind))
    | @replaced found rest out hP hlongest _ ih =>
      cases hmatch : pattern (found ++ rest) with
      | none => exact absurd hP (h.none hmatch (List.prefix_append found rest))
      | some more =>
        obtain ⟨other, behind, htext, hother, hP'⟩ := h.some hmatch
        have hle := hlongest other (htext ▸ List.prefix_append other behind) hP'
        have hge := h.longest hmatch (List.prefix_append found rest) hP
        rw [replaceFrom_match hmatch (by omega), ih]
  · rintro rfl
    exact h.replaces replacement.toList text

/-- A text without matches (`h`) stays as it is when they are replaced. -/
theorem Replaces.of_not_shows (h : ¬ ShowsPart P text) : Replaces P replacement text text := by
  induction text with
  | nil => exact .done
  | cons c rest ih =>
    refine .kept (fun found hfound hP ↦ h ⟨found, hP, hfound.isInfix⟩) (ih fun hshows ↦ h ?_)
    exact hshows.mono (List.suffix_cons c rest).isInfix

end Replacing

/-! ### The patterns -/

theorem finds_accessToken : Pattern.Finds accessToken IsAccessToken where
  some {text more} hmatch := by
    unfold accessToken at hmatch
    split at hmatch
    · next rest =>
      have hdrop : (rest.takeWhile isAsciiAlphanumeric ++ rest.dropWhile isAsciiAlphanumeric).drop
          (rest.takeWhile isAsciiAlphanumeric).length = rest.dropWhile isAsciiAlphanumeric :=
        List.drop_left
      rw [List.takeWhile_append_dropWhile] at hdrop
      simp only [hdrop] at hmatch
      split at hmatch
      · next secret hmark =>
        split_ifs at hmatch with hlong
        cases hmatch
        rw [Bool.and_eq_true, decide_eq_true_eq, decide_eq_true_eq] at hlong
        refine ⟨'0' :: '0' :: rest.takeWhile isAsciiAlphanumeric ++
            '!' :: secret.takeWhile isTokenChar, secret.dropWhile isTokenChar, ?_, ?_,
          _, _, rfl, hlong.1, fun _ ↦ List.mem_takeWhile_imp, ?_, fun _ ↦ List.mem_takeWhile_imp⟩
        · simp [← hmark]
        · simp only [List.cons_append, List.length_cons, List.length_append]
          omega
        · exact List.length_pos_iff.mp hlong.2
      · cases hmatch
    · cases hmatch
  longest hmatch hlonger htoken := by
    obtain ⟨org, secret, rfl, hlong, horg, hsome, hsecret⟩ := htoken
    obtain ⟨behind, rfl⟩ := hlonger
    rw [accessToken_append hlong horg hsome hsecret] at hmatch
    cases hmatch
    simp only [List.length_append, List.length_cons]
    omega
  none hnone hfound htoken := accessToken_ne_none htoken hfound hnone

theorem finds_sessionId : Pattern.Finds sessionId IsSessionId where
  some {text more} hmatch := by
    unfold sessionId at hmatch
    split at hmatch
    · next rest =>
      dsimp only at hmatch
      split_ifs at hmatch with hlong
      cases hmatch
      refine ⟨"sid=".toList ++ rest.takeWhile isAsciiAlphanumeric,
        rest.dropWhile isAsciiAlphanumeric, ?_, ?_, _, rfl, hlong,
        fun _ ↦ List.mem_takeWhile_imp⟩
      · rw [List.append_assoc, List.takeWhile_append_dropWhile]
        rfl
      · rw [List.length_append]
        exact Nat.add_right_comm 3 1 _
    · cases hmatch
  longest hmatch hlonger hid := by
    obtain ⟨id, rfl, hlong, hid⟩ := hid
    obtain ⟨behind, rfl⟩ := hlonger
    rw [sessionId_append hlong hid] at hmatch
    cases hmatch
    have hopening : "sid=".toList.length = 4 := rfl
    simp only [List.length_append, hopening]
    omega
  none hnone hfound hid := sessionId_ne_none hid hfound hnone

/-- Whether a text is another one with access tokens and then session ids replaced, from left to
right. -/
def IsRedacted (message redacted : String) : Prop :=
  ∃ between, Replaces IsAccessToken "[REDACTED_TOKEN]".toList message.toList between ∧
    Replaces IsSessionId "sid=[REDACTED]".toList between redacted.toList

theorem isRedacted_iff {message redacted : String} :
    IsRedacted message redacted ↔ redacted = .ofList (redact message.toList) := by
  unfold IsRedacted redact
  simp only [replaces_iff finds_accessToken, replaces_iff finds_sessionId, exists_eq_left,
    ← String.toList_inj, String.toList_ofList]

/-- A text that shows no secret (`h`) stays as it is when secrets are redacted. -/
theorem isRedacted_self {message : String} (h : ¬ ShowsSecret message) :
    IsRedacted message message :=
  ⟨message.toList,
    .of_not_shows fun ⟨part, htoken, hpart⟩ ↦ h ⟨part, .inl htoken, hpart⟩,
    .of_not_shows fun ⟨part, hid, hpart⟩ ↦ h ⟨part, .inr hid, hpart⟩⟩

/-! ### Cutting -/

/-- Whether a text is the longest beginning of another one with at most some number of bytes. Only
the beginnings that end between two characters are texts. -/
structure IsLongestWithin (limit : Nat) (text kept : String) : Prop where
  begins : Utf8.encode kept <+: Utf8.encode text
  length_le : (Utf8.encode kept).length ≤ limit
  longest : ∀ other, Utf8.encode other <+: Utf8.encode text →
    (Utf8.encode other).length ≤ limit → (Utf8.encode other).length ≤ (Utf8.encode kept).length

theorem length_encode (text : String) : (Utf8.encode text).length = byteLength text.toList := by
  rw [Utf8.encode]
  induction text.toList with
  | nil => rfl
  | cons c rest ih =>
    rw [List.flatMap_cons, List.length_append, ih]
    rfl

theorem byteLength_takeBytes_le (room : Nat) (text : List Char) :
    byteLength (takeBytes room text) ≤ room := by
  induction text generalizing room with
  | nil => exact Nat.zero_le room
  | cons c rest ih =>
    rw [takeBytes]
    split_ifs with hfits
    · have hrest := ih (room - Utf8.width c)
      have hlength : byteLength (c :: takeBytes (room - Utf8.width c) rest) =
        Utf8.width c + byteLength (takeBytes (room - Utf8.width c) rest) := rfl
      omega
    · exact Nat.zero_le room

theorem byteLength_le_of_prefix {part text : List Char} (h : part <+: text) :
    byteLength part ≤ byteLength text := by
  obtain ⟨rest, rfl⟩ := h
  induction part with
  | nil => exact Nat.zero_le _
  | cons c part ih => exact Nat.add_le_add_left ih _

theorem prefix_takeBytes {room : Nat} {part text : List Char} (h : part <+: text)
    (hroom : byteLength part ≤ room) : part <+: takeBytes room text := by
  induction text generalizing room part with
  | nil => exact h
  | cons c rest ih =>
    rcases List.prefix_cons_iff.mp h with rfl | ⟨later, rfl, hlater⟩
    · exact List.nil_prefix
    · have hlength : Utf8.width c + byteLength later ≤ room := hroom
      rw [takeBytes, if_pos (by omega)]
      exact List.cons_prefix_cons.mpr ⟨rfl, ih hlater (by omega)⟩

theorem isLongestWithin_takeBytes (limit : Nat) (text : List Char) :
    IsLongestWithin limit (.ofList text) (.ofList (takeBytes limit text)) where
  begins := by
    rw [Utf8.encode_prefix_iff, String.toList_ofList, String.toList_ofList]
    exact isPrefix_takeBytes limit text
  length_le := by
    rw [length_encode, String.toList_ofList]
    exact byteLength_takeBytes_le limit text
  longest other hother hlimit := by
    rw [Utf8.encode_prefix_iff, String.toList_ofList] at hother
    rw [length_encode] at hlimit ⊢
    rw [length_encode, String.toList_ofList]
    exact byteLength_le_of_prefix (prefix_takeBytes hother hlimit)

/-! ### Sanitizing -/

/-- Replacing leaves one text, which shows no secret. A text of at most 500 bytes is shown as it is
redacted, and so as it is if it shows no secret itself; of a longer one the longest beginning within
500 bytes is shown, which shows no secret either, with a note behind it. -/
theorem sanitize_account (message : String) : ∃ redacted,
    (∀ other, IsRedacted message other ↔ other = redacted) ∧ ¬ ShowsSecret redacted ∧
      ((Utf8.encode redacted).length ≤ 500 → sanitize message = redacted) ∧
      (500 < (Utf8.encode redacted).length → ∃ kept, IsLongestWithin 500 redacted kept ∧
        ¬ ShowsSecret kept ∧ sanitize message = kept ++ "...[truncated]") ∧
      ((Utf8.encode message).length ≤ 500 → ¬ ShowsSecret message →
        sanitize message = message) := by
  have hclean : ¬ ShowsPart IsSecret (redact message.toList) := not_shows_redact message.toList
  have hshort : (Utf8.encode (.ofList (redact message.toList))).length ≤ 500 →
      sanitize message = .ofList (redact message.toList) := by
    intro hlength
    rw [length_encode, String.toList_ofList] at hlength
    exact if_neg (Nat.not_lt_of_le hlength)
  refine ⟨.ofList (redact message.toList), fun other ↦ isRedacted_iff, ?_, hshort, ?_, ?_⟩
  · rw [ShowsSecret, String.toList_ofList]
    exact hclean
  · intro hlength
    rw [length_encode, String.toList_ofList] at hlength
    refine ⟨_, isLongestWithin_takeBytes 500 (redact message.toList), ?_, ?_⟩
    · rw [ShowsSecret, String.toList_ofList]
      exact fun h ↦ hclean (h.mono (isPrefix_takeBytes 500 _).isInfix)
    · have hlong : byteLength (redact message.toList) > maxLength := hlength
      rw [sanitize, if_pos hlong, String.ofList_append, String.ofList_toList]
      rfl
  · intro hlength hsecret
    have hsame := isRedacted_iff.mp (isRedacted_self hsecret)
    rw [hshort (hsame ▸ hlength), ← hsame]

end BulkJobs.Http.Redaction
