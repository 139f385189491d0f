import BulkJobs.Proofs.Url.Path
import Mathlib.Data.List.Count

/-!
# What an encoded segment looks like

The form of an encoded segment is that of a sequence of unreserved characters and of triples, which
are `%` with two upper-case hexadecimal digits (`IsSegmentText`). Whatever is written for one
character has this form (`isSegmentText_encodeChar`), and the form is closed under concatenation. A
character that is not unreserved takes at least two characters more than itself
(`length_encodeChars`), so a text is left as it is exactly when all its characters are unreserved
(`encodeSegment_eq_self_iff`).
-/

set_option autoImplicit false
set_option relaxedAutoImplicit false

namespace BulkJobs.Percent

/-- Whether a character is an ASCII letter or digit, or one of the four marks that mean nothing of
their own in a URL. -/
def IsUnreserved (c : Char) : Prop :=
  c.isAlphanum = true ∨ c = '-' ∨ c = '_' ∨ c = '.' ∨ c = '~'

/-- Whether a character is a decimal digit or an upper-case letter from `A` to `F`. -/
def IsUpperHexDigit (c : Char) : Prop :=
  c.isDigit = true ∨ c ∈ ['A', 'B', 'C', 'D', 'E', 'F']

instance : DecidablePred IsUpperHexDigit :=
  fun c ↦ inferInstanceAs (Decidable (c.isDigit = true ∨ c ∈ ['A', 'B', 'C', 'D', 'E', 'F']))

/-- The texts of unreserved characters and of triples of `%` and two upper-case hexadecimal digits,
in any order. -/
inductive IsSegmentText : List Char → Prop where
  | nil : IsSegmentText []
  | unreserved {c : Char} {rest : List Char} :
      IsUnreserved c → IsSegmentText rest → IsSegmentText (c :: rest)
  | triple {high low : Char} {rest : List Char} : IsUpperHexDigit high → IsUpperHexDigit low →
      IsSegmentText rest → IsSegmentText ('%' :: high :: low :: rest)

/-! ### The form of what is written -/

theorem isUnreserved_iff {c : Char} : isUnreserved c = true ↔ IsUnreserved c := by
  have hupper : (decide ('A' ≤ c) && decide (c ≤ 'Z')) = c.isUpper := (Bool.decide_and _ _).symm
  have hletters : Text.isAsciiAlphanumeric c = c.isAlphanum := by
    rw [Text.isAsciiAlphanumeric, Text.isAsciiLetter, hupper, Bool.or_comm _ c.isUpper]
    rfl
  simp [isUnreserved, IsUnreserved, hletters, or_assoc]

theorem isUpperHexDigit_upperHexDigit {n : Nat} (hn : n < 16) :
    IsUpperHexDigit (Text.upperHexDigit n) := by
  revert n
  decide

theorem IsSegmentText.append {front back : List Char} (hfront : IsSegmentText front)
    (hback : IsSegmentText back) : IsSegmentText (front ++ back) := by
  induction hfront with
  | nil => exact hback
  | unreserved hc _ ih => exact .unreserved hc ih
  | triple hhigh hlow _ ih => exact .triple hhigh hlow ih

theorem isSegmentText_triples (bytes : Octets) : IsSegmentText (bytes.flatMap triple) := by
  induction bytes with
  | nil => exact .nil
  | cons b bytes ih =>
    have hb : b.toNat < 256 := b.toNat_lt
    exact .triple (isUpperHexDigit_upperHexDigit (by omega))
      (isUpperHexDigit_upperHexDigit (by omega)) ih

/-- What is written for a character has the form of a segment. -/
theorem isSegmentText_encodeChar (c : Char) : IsSegmentText (encodeChar isUnreserved c) := by
  unfold encodeChar
  split_ifs with hkept
  · rw [Bool.and_eq_true] at hkept
    exact .unreserved (isUnreserved_iff.mp hkept.2) .nil
  · exact isSegmentText_triples _

theorem isSegmentText_encodeChars (text : List Char) :
    IsSegmentText (encodeChars isUnreserved text) := by
  induction text with
  | nil => exact .nil
  | cons c text ih => exact (isSegmentText_encodeChar c).append ih

/-! ### Texts that are left as they are -/

theorem length_triples (bytes : Octets) : (bytes.flatMap triple).length = 3 * bytes.length := by
  simp [List.length_flatMap, triple, List.map_const', Nat.mul_comm]

theorem le_length_encodeChar (keep : Char → Bool) (c : Char) :
    (if keep c then 1 else 3) ≤ (encodeChar keep c).length := by
  have htriples : 3 ≤ ((String.utf8EncodeChar c).flatMap triple).length := by
    have hbytes : 0 < (String.utf8EncodeChar c).length := by
      rw [String.length_utf8EncodeChar]
      exact c.utf8Size_pos
    rw [length_triples]
    omega
  unfold encodeChar
  by_cases hkeep : keep c = true
  · rw [if_pos hkeep]
    split_ifs
    · exact Nat.le_refl 1
    · exact Nat.le_of_succ_le (Nat.le_of_succ_le htriples)
  · rw [if_neg hkeep, if_neg fun hkept ↦ hkeep (Bool.and_eq_true_iff.mp hkept).2]
    exact htriples

/-- Every character that is not kept makes an encoded text at least two characters longer. -/
theorem length_encodeChars (keep : Char → Bool) (text : List Char) :
    text.length + 2 * text.countP (fun c ↦ !keep c) ≤ (encodeChars keep text).length := by
  induction text with
  | nil => exact Nat.le_refl 0
  | cons c text ih =>
    have hchar := le_length_encodeChar keep c
    rw [encodeChars, List.flatMap_cons, List.length_append, ← encodeChars, List.countP_cons,
      List.length_cons]
    by_cases hkeep : keep c = true
    · simp only [hkeep, if_true, Bool.not_true, Bool.false_eq_true, if_false] at hchar ⊢
      omega
    · simp only [hkeep, Bool.not_false, if_true, Bool.false_eq_true, if_false] at hchar ⊢
      omega

/-- A text is its own encoding exactly when all its characters are unreserved. -/
theorem encodeSegment_eq_self_iff {value : String} :
    encodeSegment value = value ↔ ∀ c ∈ value.toList, IsUnreserved c := by
  have hchars : encodeSegment value = value ↔
      encodeChars isUnreserved value.toList = value.toList := by
    rw [encodeSegment, ← String.toList_inj, String.toList_ofList]
  rw [hchars]
  constructor
  · intro hself c hc
    have hlength := length_encodeChars isUnreserved value.toList
    rw [hself] at hlength
    have hnone : value.toList.countP (fun d ↦ !isUnreserved d) = 0 := by omega
    have hkept := List.countP_eq_zero.mp hnone c hc
    exact isUnreserved_iff.mp (by simpa using hkept)
  · intro hall
    refine Url.encodeChars_of_kept fun c hc ↦ ?_
    have hkept : isUnreserved c = true := isUnreserved_iff.mpr (hall c hc)
    exact ⟨Url.toNat_lt_of_isPlain (by rw [Url.isPlain, hkept, Bool.true_or]), hkept⟩

/-! ### The encoding as a whole -/

/-- An encoded segment is made of unreserved characters and of triples, so it does not end the
segment, the path or the query it stands in; it decodes to the text it was made from, so no other
text has the same one; and it is that text itself exactly when all its characters are
unreserved. -/
theorem encodeSegment_faithful (value : String) :
    IsSegmentText (encodeSegment value).toList ∧
      (∀ c ∈ (encodeSegment value).toList, c ≠ '/' ∧ c ≠ '?' ∧ c ≠ '#' ∧ c ≠ '\\') ∧
      Utf8.decode? (decode (Utf8.encode (encodeSegment value))) = some value ∧
      (∀ other, encodeSegment other = encodeSegment value → other = value) ∧
      (encodeSegment value = value ↔ ∀ c ∈ value.toList, IsUnreserved c) := by
  refine ⟨?_, fun c hc ↦ ?_, ?_, fun other hsame ↦ encodeSegment_injective hsame,
    encodeSegment_eq_self_iff⟩
  · rw [encodeSegment, String.toList_ofList]
    exact isSegmentText_encodeChars value.toList
  · obtain ⟨-, -, hslash, hbackslash, hquery, hfragment⟩ :=
      Url.facts_of_isPlain (Url.isPlainSegment_encodeSegment value c hc)
    exact ⟨hslash, hquery, hfragment, hbackslash⟩
  · rw [decode_encodeSegment, Utf8.decode?_encode]

end BulkJobs.Percent
