import BulkJobs.Proofs.Time.Calendar
import BulkJobs.Time.Timestamp
import Mathlib.Data.Nat.Digits.Lemmas

/-!
# Written points in time

A date, a time of day and an offset from UTC are written in three ways: with the offset in four
digits, with a colon in it, and with a `Z` where there is no offset (`Written.Spells`). The point in
time they stand for is counted day by day from 1 January 1970 on (`Written.instant`).

A number that is written in a width is taken by the scanner of that width, and nothing behind it
(`Scanner.takes_number`), so both spellings read the date and the time of day as they were written
and go on at the offset (`Written.loose_opening_append`, `Written.strict_opening_append`). There the
loose one knows the offset with and without a colon, but no `Z`, and the strict one the colon and
the `Z`. Whichever of them reads a text reads the civil time that was written, and this is the point
in time, provided that the date exists (`Written.ofCivil_civil`). Together: `parse?_of_spells`.
-/

set_option autoImplicit false
set_option relaxedAutoImplicit false

namespace BulkJobs

/-! ### Numerals -/

namespace Text

/-- Whether a run of characters is digits of some width that denote a number. -/
structure IsNumeral (run : List Char) (width value : Nat) : Prop where
  digits : ∀ c ∈ run, isAsciiDigit c = true
  length : run.length = width
  value : decimal? run = some value

/-- A run of digits denotes the number that its digits make up in the decimal system. -/
theorem decimal?_eq {run : List Char} (hsome : run ≠ []) (hdigits : ∀ c ∈ run, isAsciiDigit c) :
    decimal? run = some (Nat.ofDigitChars 10 run 0) := by
  have hfold (total : Nat) : run.foldl
      (fun total c ↦ do return (← total) * 10 + (← decimalValue? c)) (some total) =
        some (Nat.ofDigitChars 10 run total) := by
    clear hsome
    induction run generalizing total with
    | nil => rfl
    | cons c run ih =>
      obtain ⟨hc, hrun⟩ := List.forall_mem_cons.mp hdigits
      have hvalue : decimalValue? c = some (c.toNat - 48) := if_pos hc
      rw [List.foldl_cons, hvalue]
      refine (ih hrun _).trans ?_
      rw [Nat.ofDigitChars_cons, Nat.mul_comm]
      rfl
  rw [decimal?, if_neg (by simpa using hsome), hfold]

/-- A number that has room in a width is written in exactly that width. -/
theorem isNumeral_paddedDecimal {width n : Nat} (hwidth : 0 < width) (hn : n < 10 ^ width) :
    IsNumeral (paddedDecimal width n).toList width n := by
  have htext : (paddedDecimal width n).toList =
      List.replicate (width - (Nat.toDigits 10 n).length) '0' ++ Nat.toDigits 10 n :=
    String.toList_ofList
  have hroom : (Nat.toDigits 10 n).length ≤ width :=
    (Nat.length_toDigits_le_iff (by decide) hwidth).mpr hn
  have hlength : (paddedDecimal width n).toList.length = width := by
    rw [htext, List.length_append, List.length_replicate]
    omega
  have hdigits : ∀ c ∈ (paddedDecimal width n).toList, isAsciiDigit c := by
    intro c hc
    rw [htext] at hc
    rcases List.mem_append.mp hc with hzero | hdigit
    · rw [List.eq_of_mem_replicate hzero]
      rfl
    · exact Nat.isDigit_of_mem_toDigits (by decide) (by decide) hdigit
  have hsome : (paddedDecimal width n).toList ≠ [] :=
    List.ne_nil_of_length_pos (by omega)
  refine ⟨hdigits, hlength, ?_⟩
  rw [decimal?_eq hsome hdigits, htext, Nat.ofDigitChars_append, Nat.ofDigitChars_replicate_zero,
    Nat.mul_zero, Nat.ofDigitChars_ten_toDigits]

end Text

namespace Timestamp

/-! ### Scanning what was written -/

namespace Scanner

variable {α β : Type} {run tail : List Char} {width value : Nat}

theorem bind_of_some {scanner : Scanner α} {next : α → Scanner β} {input rest : List Char} {a : α}
    (h : scanner input = some (a, rest)) : (scanner >>= next) input = next a rest := by
  change (scanner input).bind _ = _
  rw [h]
  rfl

theorem bind_of_none {scanner : Scanner α} {next : α → Scanner β} {input : List Char}
    (h : scanner input = none) : (scanner >>= next) input = none := by
  change (scanner input).bind _ = _
  rw [h]
  rfl

theorem get_bind (next : List Char → Scanner β) (input : List Char) :
    (get >>= next : Scanner β) input = next input input :=
  rfl

/-- Whether a scanner takes a text, whatever is behind it and nothing of that, for a value. -/
def Takes (scanner : Scanner α) (text : List Char) (a : α) : Prop :=
  ∀ tail, scanner (text ++ tail) = some (a, tail)

theorem Takes.bind {scanner : Scanner α} {text : List Char} {a : α} (h : Takes scanner text a)
    (next : α → Scanner β) (tail : List Char) : (scanner >>= next) (text ++ tail) = next a tail :=
  bind_of_some (h tail)

theorem takes_char (c : Char) : Takes (char c) [c] () := fun tail ↦ by
  simp [char]

theorem digits_append {low high : Nat} (h : Text.IsNumeral run width value) (hlow : low ≤ width)
    (hhigh : width ≤ high) (hend : width = high ∨ tail.takeWhile Text.isAsciiDigit = []) :
    digits low high (run ++ tail) = some (run, tail) := by
  have hrun : ((run ++ tail).takeWhile Text.isAsciiDigit).take high = run := by
    rw [List.takeWhile_append_of_pos h.digits]
    rcases hend with rfl | hend
    · exact List.take_left' h.length
    · rw [hend, List.append_nil, List.take_of_length_le (by rw [h.length]; exact hhigh)]
  simp only [digits, hrun]
  rw [if_neg (by rw [h.length]; omega), List.drop_left]

/-- A number is read as far as it was written (`h`), if it may be as narrow as that (`hlow`). -/
theorem takes_number {low : Nat} (h : Text.IsNumeral run width value) (hlow : low ≤ width) :
    Takes (number low width) run value := fun tail ↦ by
  refine (bind_of_some (digits_append h hlow le_rfl (.inl rfl))).trans ?_
  rw [h.value]
  rfl

theorem isBlank_eq_false {c : Char} (hc : Text.isAsciiDigit c = true) : Text.isBlank c = false := by
  have hrange : 48 ≤ c.toNat ∧ c.toNat ≤ 57 := by
    simpa [Text.isAsciiDigit, Char.le_def, UInt32.le_iff_toNat_le] using hc
  simp only [Text.isBlank, Bool.or_eq_false_iff, Bool.and_eq_false_iff, beq_eq_false_iff_ne,
    decide_eq_false_iff_not]
  omega

theorem skip_cons {p : Char → Bool} {c : Char} (hc : p c = false) :
    skip p (c :: tail) = some ((), c :: tail) := by
  rw [skip, List.dropWhile_cons_of_neg (by rw [hc]; exact Bool.false_ne_true)]

/-- No blank stands in front of a number. -/
theorem skip_isBlank_append (h : Text.IsNumeral run width value) (hwidth : 0 < width) :
    skip Text.isBlank (run ++ tail) = some ((), run ++ tail) := by
  obtain ⟨c, run, rfl⟩ := List.exists_cons_of_length_pos (h.length.symm ▸ hwidth)
  exact skip_cons (isBlank_eq_false (h.digits c List.mem_cons_self))

theorem takes_looseNumber (h : Text.IsNumeral run width value) (hwidth : 0 < width) :
    Takes (looseNumber width) run value := fun tail ↦
  (bind_of_some (skip_isBlank_append h hwidth)).trans (takes_number h hwidth tail)

/-- A year in four digits has no sign. -/
theorem takes_looseYear (h : Text.IsNumeral run 4 value) :
    Takes looseYear run (value : Int) := fun tail ↦ by
  have hsome : 0 < run.length := h.length ▸ Nat.succ_pos 3
  obtain ⟨c, digits, rfl⟩ := List.exists_cons_of_length_pos hsome
  have hc := h.digits c List.mem_cons_self
  have hminus : c ≠ '-' := by
    rintro rfl
    cases hc
  have hplus : c ≠ '+' := by
    rintro rfl
    cases hc
  refine (bind_of_some (skip_isBlank_append h (by decide))).trans ((get_bind _ _).trans ?_)
  refine (congrFun (?_ : _ = number 1 4 >>= fun year ↦ pure (year : Int)) _).trans
    ((takes_number h (by decide)).bind _ _)
  split
  · next heq => exact absurd (List.cons.inj heq).1 hminus
  · next heq => exact absurd (List.cons.inj heq).1 hplus
  · rfl

/-- A colon that separates hours and minutes is passed over, and no digit. -/
theorem skip_separated_append {separated : List Char} (h : Text.IsNumeral run 2 value)
    (hseparated : separated = [] ∨ separated = [':']) :
    skip (fun c ↦ c == ':' || Text.isBlank c) (separated ++ run) = some ((), run) := by
  obtain ⟨c, run, rfl⟩ := List.exists_cons_of_length_pos (h.length.symm ▸ Nat.two_pos)
  have hc := h.digits c List.mem_cons_self
  have hcolon : (c == ':') = false := by
    refine beq_eq_false_iff_ne.mpr ?_
    rintro rfl
    cases hc
  have hstop : skip (fun c ↦ c == ':' || Text.isBlank c) (c :: run) = some ((), c :: run) :=
    skip_cons (by rw [hcolon, isBlank_eq_false hc]; rfl)
  rcases hseparated with rfl | rfl
  · exact hstop
  · exact hstop

theorem char_eq_none {c : Char} (h : Text.IsNumeral run 2 value)
    (hc : Text.isAsciiDigit c = false) : char c run = none := by
  obtain ⟨digit, run, rfl⟩ := List.exists_cons_of_length_pos (h.length.symm ▸ Nat.two_pos)
  refine if_neg fun heq ↦ ?_
  have hdigit := h.digits digit List.mem_cons_self
  rw [beq_iff_eq.mp heq, hc] at hdigit
  cases hdigit

/-- What is read behind the time of day by either scanner: the offset, and then the end of the
text. -/
def closing (scanner : Scanner Int) (c : Civil) : Scanner Civil := do
  let offset ← scanner
  done
  return { c with offset }

theorem closing_of_some {scanner : Scanner Int} {c : Civil} {input : List Char} {offset : Int}
    (h : scanner input = some (offset, [])) :
    closing scanner c input = some ({ c with offset }, []) :=
  bind_of_some h

theorem closing_of_none {scanner : Scanner Int} {c : Civil} {input : List Char}
    (h : scanner input = none) : closing scanner c input = none :=
  bind_of_none h

end Scanner

/-! ### Points in time as they are written -/

/-- A date, a time of day and an offset from UTC in the numbers they are written with. The date need
not exist. -/
structure Written where
  year : Nat
  month : Nat
  day : Nat
  hour : Nat
  minute : Nat
  second : Nat
  places : Nat
  fraction : Nat
  ahead : Bool
  offsetHours : Nat
  offsetMinutes : Nat
  year_le : year ≤ 9999 := by decide
  month_le : month ≤ 99 := by decide
  day_le : day ≤ 99 := by decide
  hour_le : hour ≤ 23 := by decide
  minute_le : minute ≤ 59 := by decide
  second_le : second ≤ 59 := by decide
  places_le : places ≤ 9 := by decide
  fraction_lt : fraction < 10 ^ places := by decide
  offsetHours_le : offsetHours ≤ 23 := by decide
  offsetMinutes_le : offsetMinutes ≤ 59 := by decide

namespace Written

variable (w : Written)

/-- Seconds that the local time is ahead of UTC. -/
def offset : Int :=
  if w.ahead then w.offsetHours * 3600 + w.offsetMinutes * 60
  else -(w.offsetHours * 3600 + w.offsetMinutes * 60)

/-- The point in time: the days from 1 January 1970 on, counted by `daysBefore`, and the time of
day, less the offset. -/
def instant : Timestamp where
  seconds :=
    ((Calendar.daysBefore w.year w.month w.day : Int) - Calendar.daysBefore 1970 1 1) * 86400 +
      w.hour * 3600 + w.minute * 60 + w.second - w.offset
  nanoseconds := w.fraction * 10 ^ (9 - w.places)

/-- The fraction of a second, behind a point if it has digits. -/
def point : String :=
  if w.places = 0 then "" else "." ++ Text.paddedDecimal w.places w.fraction

def opening : String :=
  Text.paddedDecimal 4 w.year ++ "-" ++ Text.paddedDecimal 2 w.month ++ "-" ++
    Text.paddedDecimal 2 w.day ++ "T" ++ Text.paddedDecimal 2 w.hour ++ ":" ++
    Text.paddedDecimal 2 w.minute ++ ":" ++ Text.paddedDecimal 2 w.second ++ w.point

def sign : String :=
  if w.ahead then "+" else "-"

/-- The texts for a point in time: with the offset in four digits, with a colon in it, and with a
`Z` where there is no offset. -/
inductive Spells : String → Prop
  | plain : Spells (w.opening ++ w.sign ++ Text.paddedDecimal 2 w.offsetHours ++
      Text.paddedDecimal 2 w.offsetMinutes)
  | colon : Spells (w.opening ++ w.sign ++ Text.paddedDecimal 2 w.offsetHours ++ ":" ++
      Text.paddedDecimal 2 w.offsetMinutes)
  | utc (hours : w.offsetHours = 0) (minutes : w.offsetMinutes = 0) : Spells (w.opening ++ "Z")

/-- The date, the time of day and the offset as the scanners keep them. -/
def civil : Civil where
  year := w.year
  month := w.month
  day := w.day
  hour := w.hour
  minute := w.minute
  second := w.second
  nanosecond := w.fraction * 10 ^ (9 - w.places)
  offset := w.offset

/-! ### The point in time -/

theorem natAbs_offset_lt : w.offset.natAbs < 86400 := by
  have := w.offsetHours_le
  have := w.offsetMinutes_le
  unfold offset
  split_ifs <;> omega

/-- The point in time lies within some thousand years. -/
theorem day_instant (hmonth : w.month ≤ 12) (hday : w.day ≤ 31) :
    -1000000 ≤ w.instant.seconds.fdiv 86400 ∧ w.instant.seconds.fdiv 86400 ≤ 10000000 := by
  have hcount : Calendar.daysBefore w.year w.month w.day ≤ 4000000 := by
    have hyear := Calendar.daysBeforeYear_eq w.year
    have hmonths := Calendar.daysThroughMonth_le w.year (w.month - 1)
    have := w.year_le
    unfold Calendar.daysBefore
    omega
  have hepoch := Calendar.daysBefore_epoch
  have := w.natAbs_offset_lt
  have := w.hour_le
  have := w.minute_le
  have := w.second_le
  rw [Int.fdiv_eq_ediv_of_nonneg _ (by decide)]
  simp only [instant]
  omega

/-- A civil date and time within the years that are kept, not in a leap second, is counted in days
and seconds. -/
theorem ofCivil_eq {c : Civil} {seconds : Int}
    (hdate : Calendar.isDate c.year c.month c.day)
    (hyear : yearRange.1 ≤ c.year ∧ c.year ≤ yearRange.2)
    (hhour : c.hour ≤ 23) (hminute : c.minute ≤ 59) (hsecond : c.second ≤ 59)
    (hoffset : c.offset.natAbs < 86400)
    (hseconds : seconds = Calendar.dayNumber c.year c.month c.day * 86400 +
      ↑(c.hour * 3600 + c.minute * 60 + c.second) - c.offset)
    (hrange : yearRange.1 ≤ (Calendar.dateOf (seconds.fdiv 86400)).1 ∧
      (Calendar.dateOf (seconds.fdiv 86400)).1 ≤ yearRange.2) :
    ofCivil c = some ⟨seconds, c.nanosecond⟩ := by
  have hleap : (c.second == 60) = false := beq_eq_false_iff_ne.mpr (by omega)
  have hlast : c.second ≤ 60 := by omega
  simp only [ofCivil, hleap, Bool.false_eq_true, if_false, Nat.add_zero, ← hseconds]
  simp [hdate, hyear, hhour, hminute, hlast, hoffset, hrange]

theorem ofCivil_civil : ofCivil w.civil =
    if Calendar.isDate w.year w.month w.day then some w.instant else none := by
  by_cases hdate : Calendar.isDate w.year w.month w.day = true
  · obtain ⟨hfirst, hmonth, hmin, hmax⟩ :
        1 ≤ w.month ∧ w.month ≤ 12 ∧ 1 ≤ w.day ∧ w.day ≤ 31 := by
      have := Calendar.daysInMonth_le w.year w.month
      simp only [Calendar.isDate, Bool.and_eq_true, decide_eq_true_eq] at hdate
      omega
    have hkept {year : Int} (hyear : -200000 ≤ year ∧ year ≤ 200000) :
        yearRange.1 ≤ year ∧ year ≤ yearRange.2 :=
      ⟨le_trans (by decide) hyear.1, hyear.2.trans (by decide)⟩
    have hyear := w.year_le
    have hday := w.day_instant hmonth hmax
    rw [if_pos hdate]
    refine ofCivil_eq (c := w.civil) hdate (hkept (by simp only [civil]; omega)) w.hour_le
      w.minute_le w.second_le w.natAbs_offset_lt ?_ (hkept (Calendar.dateOf_year hday.1 hday.2))
    simp only [civil, Calendar.dayNumber_eq w.year hfirst hmonth hmin]
    push_cast
    ring
  · rw [if_neg hdate]
    refine if_neg ?_
    simp [civil, hdate]

/-! ### The scanners -/

section Scanning

variable {c : Char} {tail separated : List Char} {separator : Scanner Unit}

/-- What may stand behind the time of day: a sign or a `Z`. -/
def Closes (c : Char) : Prop :=
  c ∈ ['+', '-', 'Z']

theorem Closes.ne_point (hc : Closes c) : c ≠ '.' := by
  rintro rfl
  simp [Closes] at hc

theorem Closes.isBlank_eq_false (hc : Closes c) : Text.isBlank c = false := by
  revert c
  simp only [Closes]
  decide

theorem Closes.isAsciiDigit_eq_false (hc : Closes c) : Text.isAsciiDigit c = false := by
  revert c
  simp only [Closes]
  decide

theorem isNumeral_year : Text.IsNumeral (Text.paddedDecimal 4 w.year).toList 4 w.year :=
  Text.isNumeral_paddedDecimal (by decide) (Nat.lt_succ_of_le w.year_le)

theorem isNumeral_two {n : Nat} (hn : n ≤ 99) :
    Text.IsNumeral (Text.paddedDecimal 2 n).toList 2 n :=
  Text.isNumeral_paddedDecimal (by decide) (Nat.lt_succ_of_le hn)

theorem fraction_point_append (hc : Closes c) :
    Scanner.fraction (w.point.toList ++ c :: tail) =
      some (w.fraction * 10 ^ (9 - w.places), c :: tail) := by
  unfold point
  split_ifs with hplaces
  · have hfraction : w.fraction = 0 := by
      have := w.fraction_lt
      rw [hplaces] at this
      omega
    have hc := hc.ne_point
    rw [hfraction, Nat.zero_mul]
    refine (Scanner.get_bind _ _).trans ?_
    refine (congrFun (?_ : _ = (pure 0 : Scanner Nat)) _).trans rfl
    split
    · next heq => exact absurd (List.cons.inj heq).1 hc
    · rfl
  · have hnumeral := Text.isNumeral_paddedDecimal (Nat.pos_of_ne_zero hplaces) w.fraction_lt
    have hend : (c :: tail).takeWhile Text.isAsciiDigit = [] := by
      rw [List.takeWhile_cons, hc.isAsciiDigit_eq_false]
      rfl
    rw [String.toList_append, List.append_assoc]
    refine (Scanner.get_bind _ _).trans ?_
    refine (Scanner.bind_of_some rfl).trans ?_
    refine (Scanner.bind_of_some (Scanner.digits_append hnumeral (Nat.pos_of_ne_zero hplaces)
      w.places_le (.inr hend))).trans ?_
    refine (Scanner.bind_of_some (Scanner.skip_cons hc.isAsciiDigit_eq_false)).trans ?_
    rw [hnumeral.value, hnumeral.length]
    rfl

theorem opening_append (tail : List Char) : w.opening.toList ++ tail =
    (Text.paddedDecimal 4 w.year).toList ++ (['-'] ++
      ((Text.paddedDecimal 2 w.month).toList ++ (['-'] ++
      ((Text.paddedDecimal 2 w.day).toList ++ (['T'] ++
      ((Text.paddedDecimal 2 w.hour).toList ++ ([':'] ++
      ((Text.paddedDecimal 2 w.minute).toList ++ ([':'] ++
      ((Text.paddedDecimal 2 w.second).toList ++ (w.point.toList ++ tail))))))))))) := by
  simp [opening]

/-- The loose spelling reads the date and the time of day as they were written. -/
theorem loose_opening_append (hc : Closes c) : Scanner.loose (w.opening.toList ++ c :: tail) =
    Scanner.closing (Scanner.offset (Scanner.skip fun c ↦ c == ':' || Text.isBlank c)) w.civil
      (c :: tail) := by
  have htwo {n : Nat} (hn : n ≤ 99) :
      Scanner.Takes (Scanner.looseNumber 2) (Text.paddedDecimal 2 n).toList n :=
    Scanner.takes_looseNumber (isNumeral_two hn) Nat.two_pos
  have := w.hour_le
  have := w.minute_le
  have := w.second_le
  rw [opening_append, Scanner.loose, (Scanner.takes_looseYear w.isNumeral_year).bind,
    (Scanner.takes_char _).bind, (htwo w.month_le).bind, (Scanner.takes_char _).bind,
    (htwo w.day_le).bind, (Scanner.takes_char _).bind, (htwo (by omega)).bind,
    (Scanner.takes_char _).bind, (htwo (by omega)).bind, (Scanner.takes_char _).bind,
    (htwo (by omega)).bind, Scanner.bind_of_some (w.fraction_point_append hc),
    Scanner.bind_of_some (Scanner.skip_cons hc.isBlank_eq_false)]
  rfl

/-- The strict spelling reads them just so. -/
theorem strict_opening_append (hc : Closes c) : Scanner.strict (w.opening.toList ++ c :: tail) =
    Scanner.closing Scanner.strictOffset w.civil (c :: tail) := by
  have htwo {n : Nat} (hn : n ≤ 99) :
      Scanner.Takes (Scanner.number 2 2) (Text.paddedDecimal 2 n).toList n :=
    Scanner.takes_number (isNumeral_two hn) le_rfl
  have hT : Scanner.Takes (Scanner.oneOf ['T', 't', ' ']) ['T'] 'T' := fun _ ↦ rfl
  have := w.hour_le
  have := w.minute_le
  have := w.second_le
  rw [opening_append, Scanner.strict, (Scanner.takes_number w.isNumeral_year le_rfl).bind,
    (Scanner.takes_char _).bind, (htwo w.month_le).bind, (Scanner.takes_char _).bind,
    (htwo w.day_le).bind, hT.bind, (htwo (by omega)).bind,
    (Scanner.takes_char _).bind, (htwo (by omega)).bind, (Scanner.takes_char _).bind,
    (htwo (by omega)).bind, Scanner.bind_of_some (w.fraction_point_append hc)]
  rfl

theorem offset_two_digits : w.offsetHours ≤ 99 ∧ w.offsetMinutes ≤ 99 := by
  have := w.offsetHours_le
  have := w.offsetMinutes_le
  omega

theorem takes_sign : Scanner.Takes (Scanner.oneOf ['+', '-', Char.ofNat 0x2212]) w.sign.toList
    (if w.ahead then '+' else '-') := fun tail ↦ by
  unfold sign
  cases w.ahead <;> rfl

/-- The offset is read where its hours and minutes are separated as asked for. -/
theorem offset_sign_append
    (hseparator : separator (separated ++ (Text.paddedDecimal 2 w.offsetMinutes).toList) =
      some ((), (Text.paddedDecimal 2 w.offsetMinutes).toList)) :
    Scanner.offset separator (w.sign.toList ++ ((Text.paddedDecimal 2 w.offsetHours).toList ++
      (separated ++ (Text.paddedDecimal 2 w.offsetMinutes).toList))) = some (w.offset, []) := by
  have htwo {n : Nat} (hn : n ≤ 99) :
      Scanner.Takes (Scanner.number 2 2) (Text.paddedDecimal 2 n).toList n :=
    Scanner.takes_number (isNumeral_two hn) le_rfl
  have hminutes := htwo w.offset_two_digits.2 []
  rw [List.append_nil] at hminutes
  rw [Scanner.offset, w.takes_sign.bind, (htwo w.offset_two_digits.1).bind,
    Scanner.bind_of_some hseparator, Scanner.bind_of_some hminutes, if_pos w.offsetMinutes_le,
    offset]
  cases w.ahead <;> rfl

theorem offset_sign_append_of_none {tail : List Char} (hseparator : separator tail = none) :
    Scanner.offset separator (w.sign.toList ++ ((Text.paddedDecimal 2 w.offsetHours).toList ++
      tail)) = none := by
  have hhours := Scanner.takes_number (isNumeral_two w.offset_two_digits.1) le_rfl
  rw [Scanner.offset, w.takes_sign.bind, hhours.bind, Scanner.bind_of_none hseparator]

theorem exists_sign_eq : ∃ c, Closes c ∧ c ≠ 'Z' ∧ c ≠ 'z' ∧ w.sign.toList = [c] := by
  unfold sign
  cases w.ahead
  · exact ⟨'-', by simp [Closes], by decide, by decide, rfl⟩
  · exact ⟨'+', by simp [Closes], by decide, by decide, rfl⟩

theorem strictOffset_sign_append (tail : List Char) :
    Scanner.strictOffset (w.sign.toList ++ tail) =
      Scanner.offset (Scanner.char ':') (w.sign.toList ++ tail) := by
  obtain ⟨c, -, hupper, hlower, hsign⟩ := w.exists_sign_eq
  rw [hsign]
  refine (Scanner.get_bind _ _).trans ?_
  refine congrFun ?_ _
  split
  · next heq => exact absurd (List.cons.inj heq).1 hupper
  · next heq => exact absurd (List.cons.inj heq).1 hlower
  · rfl

/-- The loose spelling reads an offset with a colon and without one. -/
theorem loose_offset (hseparated : separated = [] ∨ separated = [':']) :
    Scanner.loose (w.opening.toList ++ (w.sign.toList ++
      ((Text.paddedDecimal 2 w.offsetHours).toList ++
      (separated ++ (Text.paddedDecimal 2 w.offsetMinutes).toList)))) = some (w.civil, []) := by
  have hskip := Scanner.skip_separated_append (isNumeral_two w.offset_two_digits.2) hseparated
  have hoffset := w.offset_sign_append hskip
  obtain ⟨c, hc, -, -, hsign⟩ := w.exists_sign_eq
  rw [hsign] at hoffset ⊢
  exact (w.loose_opening_append hc).trans (Scanner.closing_of_some hoffset)

/-- The strict spelling reads an offset with a colon. -/
theorem strict_offset : Scanner.strict (w.opening.toList ++ (w.sign.toList ++
      ((Text.paddedDecimal 2 w.offsetHours).toList ++
      ([':'] ++ (Text.paddedDecimal 2 w.offsetMinutes).toList)))) = some (w.civil, []) := by
  have hoffset := w.strictOffset_sign_append _ ▸ w.offset_sign_append (Scanner.takes_char ':' _)
  obtain ⟨c, hc, -, -, hsign⟩ := w.exists_sign_eq
  rw [hsign] at hoffset ⊢
  exact (w.strict_opening_append hc).trans (Scanner.closing_of_some hoffset)

/-- The strict spelling reads no offset without a colon. -/
theorem strict_offset_eq_none : Scanner.strict (w.opening.toList ++ (w.sign.toList ++
      ((Text.paddedDecimal 2 w.offsetHours).toList ++
      (Text.paddedDecimal 2 w.offsetMinutes).toList))) = none := by
  have hminutes := Scanner.char_eq_none (isNumeral_two w.offset_two_digits.2)
    (by decide : Text.isAsciiDigit ':' = false)
  have hoffset := w.strictOffset_sign_append _ ▸ w.offset_sign_append_of_none hminutes
  obtain ⟨c, hc, -, -, hsign⟩ := w.exists_sign_eq
  rw [hsign] at hoffset ⊢
  exact (w.strict_opening_append hc).trans (Scanner.closing_of_none hoffset)

theorem closes_utc : Closes 'Z' := by
  simp [Closes]

/-- The loose spelling knows no `Z`. -/
theorem loose_utc : Scanner.loose (w.opening.toList ++ ['Z']) = none := by
  have hoffset : Scanner.offset (Scanner.skip fun c ↦ c == ':' || Text.isBlank c) ['Z'] = none :=
    Scanner.bind_of_none rfl
  exact (w.loose_opening_append closes_utc).trans (Scanner.closing_of_none hoffset)

theorem strict_utc (hnone : w.offset = 0) :
    Scanner.strict (w.opening.toList ++ ['Z']) = some (w.civil, []) := by
  have hoffset : Scanner.strictOffset ['Z'] = some (w.offset, []) := by
    rw [hnone]
    rfl
  exact (w.strict_opening_append closes_utc).trans (Scanner.closing_of_some hoffset)

end Scanning

end Written

/-! ### What the texts denote -/

/-- A text that is read loosely, and not otherwise strictly, has the point in time that is read. -/
theorem parse?_of_loose {text : String} {c : Civil}
    (hloose : Scanner.loose text.toList = some (c, []))
    (hstrict : Scanner.strict text.toList = none ∨ Scanner.strict text.toList = some (c, [])) :
    parse? text = ofCivil c := by
  have hparse : parse? text = (ofCivil c <|> (Scanner.strict text.toList).bind (ofCivil ·.1)) := by
    unfold parse?
    simp only [hloose]
    rfl
  rw [hparse]
  rcases hstrict with hstrict | hstrict <;> rw [hstrict] <;> cases hc : ofCivil c <;> simp [hc]

theorem parse?_of_strict {text : String} {c : Civil} (hloose : Scanner.loose text.toList = none)
    (hstrict : Scanner.strict text.toList = some (c, [])) : parse? text = ofCivil c := by
  unfold parse?
  simp only [hloose, hstrict]
  rfl

/-- A date, a time of day and an offset, written in any of the three ways (`h`), stand for their
point in time if the date exists, and for none otherwise. -/
theorem parse?_of_spells (w : Written) {text : String} (h : w.Spells text) :
    parse? text = if Calendar.isDate w.year w.month w.day then some w.instant else none := by
  rw [← w.ofCivil_civil]
  cases h with
  | plain =>
    have hloose := w.loose_offset (.inl (rfl : ([] : List Char) = []))
    refine parse?_of_loose ?_ (.inl ?_) <;> simp only [String.toList_append, List.append_assoc]
    · exact hloose
    · exact w.strict_offset_eq_none
  | colon =>
    have hcolon : ":".toList = [':'] := rfl
    refine parse?_of_loose ?_ (.inr ?_) <;>
      simp only [String.toList_append, List.append_assoc, hcolon]
    · exact w.loose_offset (.inr rfl)
    · exact w.strict_offset
  | utc hours minutes =>
    have hZ : "Z".toList = ['Z'] := rfl
    have hnone : w.offset = 0 := by simp [Written.offset, hours, minutes]
    refine parse?_of_strict ?_ ?_ <;> simp only [String.toList_append, hZ]
    · exact w.loose_utc
    · exact w.strict_utc hnone

/-- The last evening of a year, an hour and a half behind UTC. -/
def Written.yearEnd : Written where
  year := 2023
  month := 12
  day := 31
  hour := 23
  minute := 30
  second := 0
  places := 1
  fraction := 5
  ahead := false
  offsetHours := 1
  offsetMinutes := 30

/-- In UTC it lies in the next year already. -/
theorem parse?_of_spells_sample :
    Written.yearEnd.Spells "2023-12-31T23:30:00.5-0130" ∧
      parse? "2023-12-31T23:30:00.5-0130" = some ⟨1704070800, 500000000⟩ := by
  have hspells : Written.yearEnd.Spells "2023-12-31T23:30:00.5-0130" := .plain
  have hinstant : Written.yearEnd.instant = ⟨1704070800, 500000000⟩ := by decide +kernel
  exact ⟨hspells, (parse?_of_spells Written.yearEnd hspells).trans (congrArg some hinstant)⟩

end Timestamp

end BulkJobs
