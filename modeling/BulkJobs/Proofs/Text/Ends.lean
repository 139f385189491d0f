import BulkJobs.Url.Parse
import Mathlib.Data.List.DropRight

/-!
# The ends of a text

Dropping characters of a class from the end of a text stops at the first character outside the
class, so it never reaches what stands before one. Cleaning a text that goes on behind a character
that is no blank therefore leaves the text before that character as it is, up to blanks that stood
at its own end (`exists_clean_append`). A text without blanks is clean already (`clean_eq_self`).
-/

set_option autoImplicit false
set_option relaxedAutoImplicit false

namespace BulkJobs.Text

theorem ne_of_blank {c d : Char} (hc : c.toNat ≤ 0x20) (hd : 0x20 < d.toNat) : c ≠ d := by
  rintro rfl
  omega

theorem not_le_blank {c d : Char} (hc : c.toNat ≤ 0x20) (hd : 0x20 < d.toNat) : ¬ d ≤ c := by
  intro h
  have hle : d.toNat ≤ c.toNat := h
  omega

variable {p : Char → Bool}

theorem dropEndWhile_append_cons (before after : List Char) {c : Char} (hc : p c = false) :
    dropEndWhile p (before ++ c :: after) = before ++ c :: dropEndWhile p after := by
  unfold dropEndWhile
  rw [List.reverse_append, List.reverse_cons, List.append_assoc, List.dropWhile_append]
  by_cases hafter : (after.reverse.dropWhile p).isEmpty
  · have hnil : after.reverse.dropWhile p = [] := List.isEmpty_iff.mp hafter
    simp [hnil, hc]
  · simp [hafter]

/-- A text is what `dropEndWhile` leaves of it and a run of characters of the class. -/
theorem exists_eq_dropEndWhile_append (p : Char → Bool) (text : List Char) :
    ∃ tail, text = dropEndWhile p text ++ tail ∧ ∀ c ∈ tail, p c = true :=
  ⟨text.rtakeWhile p, List.rdropWhile_append_rtakeWhile.symm, fun _ ↦ List.mem_rtakeWhile_imp⟩

theorem stripWhile_eq_self {text : List Char} (h : ∀ c ∈ text, p c = false) :
    stripWhile p text = text := by
  have hfront : text.dropWhile p = text := by
    refine List.dropWhile_eq_self_iff.mpr fun hlength ↦ ?_
    simp [h _ (List.getElem_mem hlength)]
  have hend : text.rdropWhile p = text := by
    refine List.rdropWhile_eq_self_iff.mpr fun hne ↦ ?_
    simp [h _ (List.getLast_mem hne)]
  rw [stripWhile, hfront]
  exact hend

/-- Nothing is left of a text by `stripWhile` exactly when its characters are all in the class. -/
theorem stripWhile_eq_nil_iff {text : List Char} :
    stripWhile p text = [] ↔ ∀ c ∈ text, p c = true := by
  constructor
  · intro hnil c hc
    have hdropped : ∀ d ∈ text.dropWhile p, p d = true := List.rdropWhile_eq_nil_iff.mp hnil
    rw [← List.takeWhile_append_dropWhile (p := p) (l := text)] at hc
    rcases List.mem_append.mp hc with hfront | hrest
    · exact List.mem_takeWhile_imp hfront
    · exact hdropped c hrest
  · intro hall
    rw [stripWhile, List.dropWhile_eq_nil_iff.mpr hall]
    rfl

theorem isEmpty_trim (text : String) : (trim text).isEmpty = isBlankText text := by
  rw [Bool.eq_iff_iff, isBlankText, List.all_eq_true, ← stripWhile_eq_nil_iff, trim]
  simp

/-- Stripping does not reach across a character outside the class: what was in the class at the end
of the first part stays, whatever follows. -/
theorem stripWhile_append_cons (p : Char → Bool) (before : List Char) : ∃ tail,
    (∀ d ∈ tail, p d = true) ∧ ∀ (after : List Char) {c : Char}, p c = false →
      stripWhile p (before ++ c :: after) =
        stripWhile p before ++ tail ++ c :: dropEndWhile p after := by
  obtain ⟨tail, htail, hclass⟩ := exists_eq_dropEndWhile_append p (before.dropWhile p)
  refine ⟨tail, hclass, fun after c hc ↦ ?_⟩
  have hfront : (before ++ c :: after).dropWhile p = before.dropWhile p ++ c :: after := by
    rw [List.dropWhile_append]
    by_cases hbefore : (before.dropWhile p).isEmpty
    · simp [List.isEmpty_iff.mp hbefore, hc]
    · simp [hbefore]
  rw [stripWhile, hfront, dropEndWhile_append_cons _ _ hc, stripWhile, ← htail]

end BulkJobs.Text

namespace BulkJobs.Url

open Text

/-- A character that is no blank (`hc`) is none of those that cleaning takes away everywhere. -/
theorem not_stripped {c : Char} (hc : 0x20 < c.toNat) :
    (c != '\t' && c != '\n' && c != '\r') = true := by
  have htab : '\t' ≠ c := ne_of_blank (by decide) hc
  have hfeed : '\n' ≠ c := ne_of_blank (by decide) hc
  have hreturn : '\r' ≠ c := ne_of_blank (by decide) hc
  simp [htab.symm, hfeed.symm, hreturn.symm]

/-- Cleaning a text that goes on with a character that is no blank: what was blank at the end of the
first part now stands inside the text and stays there, whatever follows. -/
theorem exists_clean_append (before : List Char) : ∃ tail, (∀ d ∈ tail, d.toNat ≤ 0x20) ∧
    ∀ (after : List Char) {c : Char}, 0x20 < c.toNat →
      ∃ rest, clean (before ++ c :: after) = clean before ++ tail ++ c :: rest := by
  obtain ⟨tail, htail, hstrip⟩ := stripWhile_append_cons (fun d ↦ decide (d.toNat ≤ 0x20)) before
  refine ⟨tail.filter fun d ↦ d != '\t' && d != '\n' && d != '\r', ?_, fun after c hc ↦ ?_⟩
  · intro d hd
    simpa using htail d (List.mem_filter.mp hd).1
  · refine ⟨(dropEndWhile (·.toNat ≤ 0x20) after).filter fun d ↦
      d != '\t' && d != '\n' && d != '\r', ?_⟩
    have hblank : decide (c.toNat ≤ 0x20) = false := by simpa using hc
    unfold clean
    rw [hstrip after hblank, List.filter_append, List.filter_append, List.filter_cons,
      if_pos (not_stripped hc)]

theorem clean_append_cons (before after : List Char) {c : Char} (hc : 0x20 < c.toNat) :
    ∃ tail rest, clean (before ++ c :: after) = clean before ++ tail ++ c :: rest ∧
      ∀ d ∈ tail, d.toNat ≤ 0x20 := by
  obtain ⟨tail, htail, hclean⟩ := exists_clean_append before
  obtain ⟨rest, hrest⟩ := hclean after hc
  exact ⟨tail, rest, hrest, htail⟩

theorem clean_eq_self {text : List Char} (h : ∀ c ∈ text, 0x20 < c.toNat) :
    clean text = text := by
  unfold clean
  rw [stripWhile_eq_self (p := fun c ↦ decide (c.toNat ≤ 0x20)) (by simpa using h)]
  exact List.filter_eq_self.mpr fun c hc ↦ not_stripped (h c hc)

end BulkJobs.Url
