import BulkJobs.Json.Lexer
import Mathlib.Data.List.TakeWhile
import Mathlib.Tactic.SplitIfs

/-!
# How JSON numbers and strings are spelled

The grammar of the two kinds of token that carry content, and that the lexer follows it. A number is
a sign, whole digits, a fraction and an exponent, of which only the whole digits have to be there
(`SpellsNumeral`); a string is bytes as they stand and escapes (`SpellsParts`). What the lexer reads
was spelled so (`spells_of_readNumeral`, `spells_of_readParts`), and it reads whatever is spelled: a
string up to its closing quote (`readParts_append`), and a number if what follows does not go on
with it (`Ends`, `readNumeral_append`).
-/

set_option autoImplicit false
set_option relaxedAutoImplicit false

namespace BulkJobs.Json

/-! ### The grammar -/

/-- Whether a text is decimal digits, one at least. -/
def IsDigits (text : Octets) : Prop :=
  text ≠ [] ∧ ∀ b ∈ text, isDigit b = true

def digitValues (text : Octets) : List Nat :=
  text.map fun b ↦ b.toNat - 0x30

/-- How a fraction is spelled: not at all, or by a point and digits. -/
inductive SpellsFraction : Option (List Nat) → Octets → Prop where
  | absent : SpellsFraction none []
  | present {digits : Octets} : IsDigits digits →
      SpellsFraction (some (digitValues digits)) (0x2E :: digits)

/-- How an exponent is spelled: not at all, or by its mark, perhaps a sign, and digits, whose number
it is. -/
inductive SpellsExponent : Option Int → Octets → Prop where
  | absent : SpellsExponent none []
  | unsigned {mark : UInt8} {digits : Octets} : mark = 0x65 ∨ mark = 0x45 → IsDigits digits →
      SpellsExponent (some (digitsValue (digitValues digits))) (mark :: digits)
  | plus {mark : UInt8} {digits : Octets} : mark = 0x65 ∨ mark = 0x45 → IsDigits digits →
      SpellsExponent (some (digitsValue (digitValues digits))) (mark :: 0x2B :: digits)
  | minus {mark : UInt8} {digits : Octets} : mark = 0x65 ∨ mark = 0x45 → IsDigits digits →
      SpellsExponent (some (-digitsValue (digitValues digits))) (mark :: 0x2D :: digits)

/-- How a `Numeral` is spelled: perhaps a minus sign, then a whole part, which begins with zero only
if that is its single digit, then fraction and exponent. -/
inductive SpellsNumeral : Numeral → Octets → Prop where
  | mk {negative : Bool} {digits behind power : Octets} {fraction : Option (List Nat)}
      {exponent : Option Int} : IsDigits digits → (digits.head? = some 0x30 → digits.length = 1) →
      SpellsFraction fraction behind → SpellsExponent exponent power →
      SpellsNumeral ⟨negative, digitValues digits, fraction, exponent⟩
        ((if negative then [0x2D] else []) ++ (digits ++ (behind ++ power)))

/-- How the parts of a string are spelled: a byte as it stands or by a letter behind a backslash, a
code unit by four hexadecimal digits. -/
inductive SpellsParts : List StringPart → Octets → Prop where
  | nil : SpellsParts [] []
  | plain {b : UInt8} {parts : List StringPart} {text : Octets} : b ≠ 0x22 → b ≠ 0x5C → ¬b < 0x20 →
      SpellsParts parts text → SpellsParts (.byte b :: parts) (b :: text)
  | escaped {letter b : UInt8} {parts : List StringPart} {text : Octets} :
      escapedByte? letter = some b → SpellsParts parts text →
      SpellsParts (.byte b :: parts) (0x5C :: letter :: text)
  | unit {h₁ h₂ h₃ h₄ : UInt8} {u : Nat} {parts : List StringPart} {text : Octets} :
      codeUnit? h₁ h₂ h₃ h₄ = some u → SpellsParts parts text →
      SpellsParts (.unit u :: parts) (0x5C :: 0x75 :: h₁ :: h₂ :: h₃ :: h₄ :: text)

/-! ### Digits and numbers -/

/-- Whether what follows a value does not go on with it, were it a number: no digit, no point and no
mark of an exponent comes next. -/
def Ends (rest : Octets) : Prop :=
  ∀ b ∈ rest.head?, isDigit b = false ∧ b ≠ 0x2E ∧ b ≠ 0x65 ∧ b ≠ 0x45

theorem readDigits_append {digits rest : Octets} (hdigits : IsDigits digits)
    (hrest : ∀ b ∈ rest.head?, isDigit b = false) :
    readDigits (digits ++ rest) = (digitValues digits, rest) := by
  have hstop : rest.takeWhile isDigit = [] ∧ rest.dropWhile isDigit = rest := by
    cases rest with
    | nil => exact ⟨rfl, rfl⟩
    | cons b rest => simp [hrest b rfl]
  rw [readDigits, List.takeWhile_append_of_pos hdigits.2, List.dropWhile_append_of_pos hdigits.2,
    hstop.1, hstop.2, List.append_nil]
  rfl

theorem exists_readDigits {input : Octets} (hsome : (readDigits input).1.isEmpty = false) :
    ∃ digits rest, IsDigits digits ∧ readDigits input = (digitValues digits, rest) ∧
      input = digits ++ rest := by
  refine ⟨input.takeWhile isDigit, input.dropWhile isDigit,
    ⟨fun hnil ↦ ?_, fun _ ↦ List.mem_takeWhile_imp⟩, rfl, List.takeWhile_append_dropWhile.symm⟩
  rw [readDigits, hnil] at hsome
  cases hsome

/-- Digits that have to be there were read (`hread`): they stand at the start of the input, and
there is one at least. -/
theorem isDigits_of_readDigits {α : Type} {f : List Nat → α} {value : α} {input rest : Octets}
    (hread : (if (readDigits input).1.isEmpty then none
      else some (f (readDigits input).1, (readDigits input).2)) = some (value, rest)) :
    ∃ digits, IsDigits digits ∧ value = f (digitValues digits) ∧ input = digits ++ rest := by
  split_ifs at hread with hnone
  obtain ⟨digits, behind, hdigits, hvalues, hinput⟩ :=
    exists_readDigits (Bool.not_eq_true _ ▸ hnone)
  rw [hvalues] at hread
  cases hread
  exact ⟨digits, hdigits, rfl, hinput⟩

theorem readDigits_ne_nil {digits : Octets} (hdigits : IsDigits digits) :
    (digitValues digits).isEmpty = false := by
  obtain ⟨b, rest, rfl⟩ := List.exists_cons_of_ne_nil hdigits.1
  rfl

theorem readFraction_append {fraction : Option (List Nat)} {text rest : Octets}
    (hspells : SpellsFraction fraction text)
    (hrest : ∀ b ∈ rest.head?, isDigit b = false ∧ b ≠ 0x2E) :
    readFraction (text ++ rest) = some (fraction, rest) := by
  cases hspells with
  | absent =>
    cases rest with
    | nil => rfl
    | cons b rest =>
      have hpoint : b ≠ 0x2E := (hrest b rfl).2
      unfold readFraction
      split
      · next heq => exact absurd (List.cons.inj heq).1 hpoint
      · rfl
  | present hdigits =>
    rw [List.cons_append, readFraction, readDigits_append hdigits fun b hb ↦ (hrest b hb).1]
    simp [readDigits_ne_nil hdigits]

theorem spells_of_readFraction {fraction : Option (List Nat)} {input rest : Octets}
    (hread : readFraction input = some (fraction, rest)) :
    ∃ text, SpellsFraction fraction text ∧ input = text ++ rest := by
  unfold readFraction at hread
  split at hread
  · obtain ⟨digits, hdigits, rfl, rfl⟩ := isDigits_of_readDigits hread
    exact ⟨_, .present hdigits, rfl⟩
  · cases hread
    exact ⟨[], .absent, rfl⟩

theorem readExponent_append {exponent : Option Int} {text rest : Octets}
    (hspells : SpellsExponent exponent text) (hrest : Ends rest) :
    readExponent (text ++ rest) = some (exponent, rest) := by
  have hstop : ∀ b ∈ rest.head?, isDigit b = false := fun b hb ↦ (hrest b hb).1
  cases hspells with
  | absent =>
    cases rest with
    | nil => rfl
    | cons b rest =>
      obtain ⟨-, -, hlower, hupper⟩ := hrest b rfl
      simp [readExponent, hlower, hupper]
  | @unsigned mark digits hmark hdigits =>
    have hread := readDigits_append hdigits hstop
    obtain ⟨first, more, rfl⟩ := List.exists_cons_of_ne_nil hdigits.1
    have hfirst : isDigit first = true := hdigits.2 first List.mem_cons_self
    have hminus : first ≠ 0x2D := by rintro rfl; cases hfirst
    have hplus : first ≠ 0x2B := by rintro rfl; cases hfirst
    rw [List.cons_append] at hread
    simp [readExponent, hmark, hminus, hplus, hread, readDigits_ne_nil hdigits]
  | plus hmark hdigits =>
    simp [readExponent, hmark, readDigits_append hdigits hstop, readDigits_ne_nil hdigits]
  | minus hmark hdigits =>
    simp [readExponent, hmark, readDigits_append hdigits hstop, readDigits_ne_nil hdigits]

theorem spells_of_readExponent {exponent : Option Int} {input rest : Octets}
    (hread : readExponent input = some (exponent, rest)) :
    ∃ text, SpellsExponent exponent text ∧ input = text ++ rest := by
  cases input with
  | nil =>
    cases hread
    exact ⟨[], .absent, rfl⟩
  | cons mark behind =>
    rw [readExponent] at hread
    by_cases hmark : mark = 0x65 ∨ mark = 0x45
    · rw [if_pos (by simpa using hmark)] at hread
      by_cases hminus : behind.head? = some 0x2D
      · obtain ⟨behind, rfl⟩ := List.head?_eq_some_iff.mp hminus
        obtain ⟨digits, hdigits, rfl, rfl⟩ :=
          isDigits_of_readDigits (f := fun digits ↦ some (-(digitsValue digits : Int))) hread
        exact ⟨_, .minus hmark hdigits, rfl⟩
      have hbare : (behind.head? == some 0x2D) = false := beq_eq_false_iff_ne.mpr hminus
      by_cases hplus : behind.head? = some 0x2B
      · obtain ⟨behind, rfl⟩ := List.head?_eq_some_iff.mp hplus
        obtain ⟨digits, hdigits, rfl, rfl⟩ :=
          isDigits_of_readDigits (f := fun digits ↦ some (digitsValue digits : Int)) hread
        exact ⟨_, .plus hmark hdigits, rfl⟩
      have hunsigned : (behind.head? == some 0x2B) = false := beq_eq_false_iff_ne.mpr hplus
      simp only [hbare, hunsigned, Bool.or_self, Bool.false_eq_true, if_false] at hread
      obtain ⟨digits, hdigits, rfl, rfl⟩ :=
        isDigits_of_readDigits (f := fun digits ↦ some (digitsValue digits : Int)) hread
      exact ⟨_, .unsigned hmark hdigits, rfl⟩
    · rw [if_neg (by simpa using hmark)] at hread
      cases hread
      exact ⟨[], .absent, rfl⟩

theorem digitValues_head_eq_zero {digits : Octets} (hdigits : IsDigits digits) :
    (digitValues digits).head? = some 0 ↔ digits.head? = some 0x30 := by
  obtain ⟨b, rest, rfl⟩ := List.exists_cons_of_ne_nil hdigits.1
  have hb : isDigit b = true := hdigits.2 b List.mem_cons_self
  have hrange : 48 ≤ b.toNat ∧ b.toNat ≤ 57 := by
    simpa [isDigit, UInt8.le_iff_toNat_le] using hb
  simp only [digitValues, List.map_cons, List.head?_cons, Option.some.injEq, ← UInt8.toNat_inj]
  simp only [UInt8.reduceToNat]
  omega

/-- What follows a whole part or a fraction, an exponent perhaps and then the end of the number
(`hrest`), does not go on with its digits. -/
theorem Ends.head?_exponent {exponent : Option Int} {text rest : Octets}
    (hspells : SpellsExponent exponent text) (hrest : Ends rest) :
    ∀ b ∈ (text ++ rest).head?, isDigit b = false ∧ b ≠ 0x2E := by
  have hmarked {mark : UInt8} (hmark : mark = 0x65 ∨ mark = 0x45) :
      isDigit mark = false ∧ mark ≠ 0x2E := by
    rcases hmark with rfl | rfl <;> decide
  intro b hb
  cases hspells with
  | absent => exact ⟨(hrest b hb).1, (hrest b hb).2.1⟩
  | unsigned hmark | plus hmark | minus hmark =>
    cases hb
    exact hmarked hmark

theorem SpellsFraction.head?_append {fraction : Option (List Nat)} {text rest : Octets}
    (hspells : SpellsFraction fraction text)
    (hrest : ∀ b ∈ rest.head?, isDigit b = false ∧ b ≠ 0x2E) :
    ∀ b ∈ (text ++ rest).head?, isDigit b = false := by
  intro b hb
  cases hspells with
  | absent => exact (hrest b hb).1
  | present =>
    cases hb
    rfl

theorem readNumeral_append {numeral : Numeral} {text rest : Octets}
    (hspells : SpellsNumeral numeral text) (hrest : Ends rest) :
    readNumeral (text ++ rest) = some (numeral, rest) := by
  cases hspells with
  | @mk negative digits behind power fraction exponent hdigits hzero hfraction hexponent =>
    have hpower := hrest.head?_exponent hexponent
    have hwhole := readDigits_append hdigits (hfraction.head?_append hpower)
    have hfit : ((digitValues digits).isEmpty || ((digitValues digits).head? == some 0 &&
        decide (1 < (digitValues digits).length))) = false := by
      have hhead := digitValues_head_eq_zero hdigits
      have hlength : (digitValues digits).length = digits.length := List.length_map ..
      rw [readDigits_ne_nil hdigits, hlength]
      grind
    have hunsigned : (digits ++ (behind ++ (power ++ rest))).head? ≠ some 0x2D := by
      obtain ⟨first, more, rfl⟩ := List.exists_cons_of_ne_nil hdigits.1
      rintro hminus
      cases hminus
      cases hdigits.2 0x2D List.mem_cons_self
    have hnumeral : ∀ input, (if (input.head? == some 0x2D) = true then input.drop 1 else input) =
        digits ++ (behind ++ (power ++ rest)) →
        readNumeral input = some (⟨input.head? == some 0x2D, digitValues digits, fraction,
          exponent⟩, rest) := by
      intro input hinput
      simp only [readNumeral, hinput, hwhole, hfit, readFraction_append hfraction hpower,
        Bool.false_eq_true, if_false, Option.bind_eq_bind, Option.bind_some,
        readExponent_append hexponent hrest]
      rfl
    cases negative with
    | true => exact hnumeral _ (by simp)
    | false =>
      have hbare : ((digits ++ (behind ++ (power ++ rest))).head? == some 0x2D) = false :=
        beq_eq_false_iff_ne.mpr hunsigned
      have hread := hnumeral (digits ++ (behind ++ (power ++ rest))) (by rw [hbare]; rfl)
      rw [hbare] at hread
      simpa using hread

theorem SpellsNumeral.exists_cons {numeral : Numeral} {text : Octets}
    (h : SpellsNumeral numeral text) :
    ∃ b more, text = b :: more ∧ (b = 0x2D ∨ isDigit b = true) := by
  cases h with
  | @mk negative digits _ _ _ _ hdigits =>
    cases negative with
    | true => exact ⟨0x2D, _, rfl, .inl rfl⟩
    | false =>
      obtain ⟨b, more, rfl⟩ := List.exists_cons_of_ne_nil hdigits.1
      exact ⟨b, _, rfl, .inr (hdigits.2 b List.mem_cons_self)⟩

theorem spells_of_readNumeral {numeral : Numeral} {input rest : Octets}
    (hread : readNumeral input = some (numeral, rest)) :
    ∃ text, SpellsNumeral numeral text ∧ input = text ++ rest := by
  unfold readNumeral at hread
  obtain ⟨unsigned, hunsigned, hinput⟩ : ∃ unsigned,
      (if (input.head? == some 0x2D) = true then input.drop 1 else input) = unsigned ∧
        input = (if (input.head? == some 0x2D) = true then [0x2D] else []) ++ unsigned := by
    refine ⟨_, rfl, ?_⟩
    split_ifs with hminus
    · obtain ⟨behind, rfl⟩ := List.head?_eq_some_iff.mp (eq_of_beq hminus)
      rfl
    · rfl
  simp only [hunsigned] at hread
  generalize (input.head? == some 0x2D) = negative at hread hinput
  split_ifs at hread with hunfit
  simp only [Bool.or_eq_true, Bool.and_eq_true, not_or, Bool.not_eq_true] at hunfit
  obtain ⟨digits, behind, hdigits, hwhole, rfl⟩ := exists_readDigits hunfit.1
  simp only [hwhole, beq_iff_eq, digitValues_head_eq_zero hdigits,
    decide_eq_true_eq] at hread hunfit
  obtain ⟨⟨fraction, after⟩, hfraction, hread⟩ := Option.bind_eq_some_iff.mp hread
  obtain ⟨⟨exponent, after'⟩, hexponent, hread⟩ := Option.bind_eq_some_iff.mp hread
  cases hread
  obtain ⟨text, hspells, rfl⟩ := spells_of_readFraction hfraction
  obtain ⟨power, hpower, rfl⟩ := spells_of_readExponent hexponent
  refine ⟨_, .mk hdigits (fun hzero ↦ ?_) hspells hpower, by rw [hinput]; simp⟩
  have hone : 1 ≤ digits.length := List.length_pos_iff.mpr hdigits.1
  have hlength : (digitValues digits).length = digits.length := List.length_map ..
  by_contra hmore
  exact hunfit.2 ⟨hzero, by omega⟩

/-! ### Strings -/

theorem readParts_append {parts : List StringPart} {text : Octets}
    (hspells : SpellsParts parts text) (rest : Octets) :
    readParts (text ++ 0x22 :: rest) = some (parts, rest) := by
  induction hspells with
  | nil =>
    unfold readParts
    simp
  | plain hquote hslash hcontrol _ ih =>
    rw [List.cons_append]
    unfold readParts
    simp [hquote, hslash, hcontrol, ih]
  | @escaped letter b _ _ hletter _ ih =>
    have hunit : letter ≠ 0x75 := by
      rintro rfl
      cases hletter
    simp only [List.cons_append]
    unfold readParts
    simp [hunit, hletter, ih]
  | unit hunit _ ih =>
    simp only [List.cons_append]
    unfold readParts
    simp [hunit, ih]

theorem spells_of_readParts {input rest : Octets} {parts : List StringPart}
    (hread : readParts input = some (parts, rest)) :
    ∃ text, SpellsParts parts text ∧ input = text ++ 0x22 :: rest := by
  fun_induction readParts input generalizing parts with
  | case2 b behind hquote =>
    cases hread
    rw [beq_iff_eq.mp hquote]
    exact ⟨[], .nil, rfl⟩
  | case5 b hquote hcontrol hslash letter hletter h₁ h₂ h₃ h₄ behind u later after hlater hunit
      ih =>
    cases hread
    obtain ⟨text, hspells, rfl⟩ := ih hlater
    rw [beq_iff_eq.mp hslash, beq_iff_eq.mp hletter]
    exact ⟨_, .unit hunit hspells, rfl⟩
  | case8 b hquote hcontrol hslash letter behind hletter e later after hlater hescape ih =>
    cases hread
    obtain ⟨text, hspells, rfl⟩ := ih hlater
    rw [beq_iff_eq.mp hslash]
    exact ⟨_, .escaped hescape hspells, rfl⟩
  | case10 b behind hquote hcontrol hslash later after hlater ih =>
    cases hread
    obtain ⟨text, hspells, rfl⟩ := ih hlater
    exact ⟨_, .plain (mt beq_iff_eq.mpr hquote) (mt beq_iff_eq.mpr hslash) hcontrol hspells, rfl⟩
  | _ => cases hread

end BulkJobs.Json
