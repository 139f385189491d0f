import BulkJobs.Proofs.Text.Coding
import BulkJobs.Url.Path
import Mathlib.Tactic.SplitIfs

/-!
# Segments and dots

The path of a URL of the web always has a segment, so that it starts with a slash
(`pathSegments_ne_nil`, `head?_write_segments`). A path that is written from segments of plain
characters is cut into the same segments again (`pathSegments_write`); only those that are dots are
carried out. An encoded segment has plain characters (`mem_encodeSegment`), and it is a dot, or two
of them, exactly when the text it stands for is (`isSingleDot_encodeSegment`,
`isDoubleDot_encodeSegment`).
-/

set_option autoImplicit false
set_option relaxedAutoImplicit false

namespace BulkJobs.Url

/-! ### Segments of any path -/

theorem splitOn_ne_nil (separator : Char) (text : List Char) :
    Text.splitOn separator text ≠ [] := by
  fun_cases Text.splitOn separator text <;> simp_all

theorem carryOutDots_ne_nil (before : List String) {segments : List String}
    (hsome : segments ≠ []) : carryOutDots before segments ≠ [] := by
  fun_induction carryOutDots before segments with
  | case1 before => exact absurd rfl hsome
  | case2 before last hdouble => simp
  | case3 before last hdouble hsingle => simp
  | case4 before last hdouble hsingle => simp
  | case5 before segment rest hrest hdouble ih => exact ih hrest
  | case6 before segment rest hrest hdouble hsingle ih => exact ih hrest
  | case7 before segment rest hrest hdouble hsingle ih => exact ih hrest

theorem pathSegments_ne_nil (special : Bool) (path : List Char) :
    pathSegments special path ≠ [] := by
  refine carryOutDots_ne_nil [] ?_
  simpa [cutPath] using splitOn_ne_nil '/' _

/-- A path with a segment starts with a slash. -/
theorem head?_write_segments {parts : List String} (hsome : parts ≠ []) :
    (UrlPath.segments parts).write.head? = some '/' := by
  cases parts with
  | nil => exact absurd rfl hsome
  | cons part parts => rfl

/-! ### Plain segments -/

/-- Whether a character is unreserved, or the mark of an encoded byte, as all characters of an
encoded segment are. -/
def isPlain (c : Char) : Bool :=
  Percent.isUnreserved c || c == '%'

/-- Whether a segment has plain characters only. -/
def IsPlainSegment (segment : String) : Prop :=
  ∀ c ∈ segment.toList, isPlain c = true

instance : DecidablePred IsPlainSegment := fun segment ↦
  decidable_of_iff (segment.toList.all isPlain = true) List.all_eq_true

theorem toNat_lt_of_isPlain {c : Char} (hc : isPlain c = true) : c.toNat < 0x80 := by
  have hbound : ∀ d : Char, d.toNat < 0x80 → c ≤ d → c.toNat < 0x80 :=
    fun d hd hle ↦ lt_of_le_of_lt hle hd
  simp only [isPlain, Percent.isUnreserved, Text.isAsciiAlphanumeric, Text.isAsciiLetter,
    Text.isAsciiDigit, Bool.or_eq_true, Bool.and_eq_true, decide_eq_true_eq, beq_iff_eq] at hc
  rcases hc with (((((((hc | hc) | hc) | rfl) | rfl) | rfl) | rfl) | rfl)
  · exact hbound 'z' (by decide) hc.2
  · exact hbound 'Z' (by decide) hc.2
  · exact hbound '9' (by decide) hc.2
  all_goals decide

/-- A plain character is visible, stays as it is in a path, and separates nothing in a URL. -/
theorem facts_of_isPlain {c : Char} (hc : isPlain c = true) :
    0x20 < c.toNat ∧ keptInPath c = true ∧ c ≠ '/' ∧ c ≠ '\\' ∧ c ≠ '?' ∧ c ≠ '#' := by
  have hall : ∀ n < 0x80, isPlain (Char.ofNat n) = true →
      0x20 < n ∧ keptInPath (Char.ofNat n) = true ∧ Char.ofNat n ≠ '/' ∧ Char.ofNat n ≠ '\\' ∧
        Char.ofNat n ≠ '?' ∧ Char.ofNat n ≠ '#' := by
    decide +kernel
  have hself := hall c.toNat (toNat_lt_of_isPlain hc)
  rw [Char.ofNat_toNat] at hself
  exact hself hc

theorem encodeChars_of_kept {keep : Char → Bool} {text : List Char}
    (hkept : ∀ c ∈ text, c.toNat < 0x80 ∧ keep c = true) :
    Percent.encodeChars keep text = text := by
  induction text with
  | nil => rfl
  | cons c text ih =>
    obtain ⟨hascii, hc⟩ := hkept c List.mem_cons_self
    have htext := ih fun d hd ↦ hkept d (List.mem_cons_of_mem _ hd)
    rw [Percent.encodeChars] at htext ⊢
    simp [Percent.encodeChar, hascii, hc, htext]

theorem escape_of_isPlainSegment {segment : String} (hplain : IsPlainSegment segment) :
    escape keptInPath segment.toList = segment := by
  rw [escape, encodeChars_of_kept, String.ofList_toList]
  exact fun c hc ↦ ⟨toNat_lt_of_isPlain (hplain c hc), (facts_of_isPlain (hplain c hc)).2.1⟩

theorem splitOn_of_notMem {separator : Char} {part : List Char} (hpart : separator ∉ part) :
    Text.splitOn separator part = [part] := by
  induction part with
  | nil => rfl
  | cons c part ih =>
    simp only [List.mem_cons, not_or] at hpart
    simp [Text.splitOn, Ne.symm hpart.1, ih hpart.2]

theorem splitOn_append_cons {separator : Char} {part : List Char} (hpart : separator ∉ part)
    (rest : List Char) :
    Text.splitOn separator (part ++ separator :: rest) = part :: Text.splitOn separator rest := by
  induction part with
  | nil => simp [Text.splitOn]
  | cons c part ih =>
    simp only [List.mem_cons, not_or] at hpart
    simp [Text.splitOn, Ne.symm hpart.1, ih hpart.2]

theorem slash_notMem {segment : String} (hplain : IsPlainSegment segment) :
    '/' ∉ segment.toList := by
  intro hmem
  exact (facts_of_isPlain (hplain '/' hmem)).2.2.1 rfl

/-- The path that is written from plain segments (`hplain`) is cut into these segments, as none
holds a slash. -/
theorem splitOn_write_segments {segment : String} {segments : List String}
    (hplain : ∀ part ∈ segment :: segments, IsPlainSegment part) :
    Text.splitOn '/' (segment.toList ++ (UrlPath.segments segments).write) =
      (segment :: segments).map String.toList := by
  have hslash := slash_notMem (hplain segment List.mem_cons_self)
  induction segments generalizing segment with
  | nil => simpa [UrlPath.write] using splitOn_of_notMem hslash
  | cons next segments ih =>
    have hnext : ∀ part ∈ next :: segments, IsPlainSegment part :=
      fun part hpart ↦ hplain part (List.mem_cons_of_mem _ hpart)
    have hwrite : (UrlPath.segments (next :: segments)).write =
        '/' :: (next.toList ++ (UrlPath.segments segments).write) := rfl
    rw [hwrite, splitOn_append_cons hslash, ih hnext (slash_notMem (hnext next List.mem_cons_self))]
    rfl

theorem mem_write_segments {segments : List String}
    (hplain : ∀ part ∈ segments, IsPlainSegment part) {c : Char}
    (hc : c ∈ (UrlPath.segments segments).write) : c = '/' ∨ isPlain c = true := by
  obtain ⟨part, hpart, hmem⟩ := List.mem_flatMap.mp hc
  rcases List.mem_cons.mp hmem with rfl | hmem
  · exact .inl rfl
  · exact .inr (hplain part hpart c hmem)

theorem pathSegments_write {segments : List String} (hsome : segments ≠ [])
    (hplain : ∀ part ∈ segments, IsPlainSegment part) :
    pathSegments true (UrlPath.segments segments).write = carryOutDots [] segments := by
  cases segments with
  | nil => exact absurd rfl hsome
  | cons segment segments =>
    have hwrite : (UrlPath.segments (segment :: segments)).write =
        '/' :: (segment.toList ++ (UrlPath.segments segments).write) := rfl
    have hback : (segment.toList ++ (UrlPath.segments segments).write).map
        (fun c ↦ if true && c == '\\' then '/' else c) =
          segment.toList ++ (UrlPath.segments segments).write := by
      refine (List.map_congr_left fun c hc ↦ ?_).trans (List.map_id _)
      have hne : c ≠ '\\' := by
        rcases mem_write_segments hplain (List.mem_cons_of_mem '/' hc) with rfl | hc
        · decide
        · exact (facts_of_isPlain hc).2.2.2.1
      simp [hne]
    have hescape : ((segment :: segments).map String.toList).map (escape keptInPath) =
        segment :: segments := by
      rw [List.map_map]
      refine (List.map_congr_left fun part hpart ↦ ?_).trans (List.map_id _)
      exact escape_of_isPlainSegment (hplain part hpart)
    rw [pathSegments, hwrite, dropSlash, cutPath, hback, splitOn_write_segments hplain, hescape]

/-! ### Dots -/

theorem carryOutDots_append (before : List String) {segments rest : List String}
    (hkept : ∀ segment ∈ segments, isDoubleDot segment = false ∧ isSingleDot segment = false)
    (hrest : rest ≠ []) :
    carryOutDots before (segments ++ rest) = carryOutDots (segments.reverse ++ before) rest := by
  induction segments generalizing before with
  | nil => rfl
  | cons segment segments ih =>
    obtain ⟨hdouble, hsingle⟩ := hkept segment List.mem_cons_self
    have htail : segments ++ rest ≠ [] := List.append_ne_nil_of_right_ne_nil segments hrest
    have hstep := carryOutDots.eq_3 before segment (segments ++ rest) htail
    rw [List.cons_append, hstep, hdouble, hsingle]
    simp only [Bool.false_eq_true, if_false]
    rw [ih _ fun part hpart ↦ hkept part (List.mem_cons_of_mem _ hpart)]
    simp

/-- A segment that starts (`hhead`) with neither a dot nor an encoded byte means neither this folder
nor the one above. -/
theorem kept_of_head {segment : String} {c : Char} (hhead : segment.toList.head? = some c)
    (hdot : c ≠ '.') (hmark : c ≠ '%') :
    isDoubleDot segment = false ∧ isSingleDot segment = false := by
  have hdouble : ∀ dots ∈ ["..", "%2e%2e", "%2e%2E", "%2E%2e", "%2E%2E", "%2e.", "%2E.", ".%2e",
      ".%2E"], dots.toList.head? = some '.' ∨ dots.toList.head? = some '%' := by
    decide +kernel
  have hsingle : ∀ dot ∈ [".", "%2e", "%2E"],
      dot.toList.head? = some '.' ∨ dot.toList.head? = some '%' := by
    decide +kernel
  have hneither : ¬(segment.toList.head? = some '.' ∨ segment.toList.head? = some '%') := by
    rw [hhead]
    simp [hdot, hmark]
  rw [← Bool.not_eq_true, ← Bool.not_eq_true]
  constructor
  · exact fun h ↦ hneither (hdouble segment (List.contains_iff_mem.mp h))
  · exact fun h ↦ hneither (hsingle segment (List.contains_iff_mem.mp h))

theorem carryOutDots_of_kept {segments : List String}
    (hkept : ∀ segment ∈ segments, isDoubleDot segment = false ∧ isSingleDot segment = false) :
    carryOutDots [] segments = segments := by
  rcases segments.eq_nil_or_concat with rfl | ⟨front, last, rfl⟩
  · rfl
  · obtain ⟨hdouble, hsingle⟩ := hkept last (by simp)
    rw [List.concat_eq_append, carryOutDots_append []
      (fun segment hsegment ↦ hkept segment (by simp [hsegment])) (List.cons_ne_nil last [])]
    simp [carryOutDots, hdouble, hsingle]

/-! ### Encoded segments -/

theorem isPlain_upperHexDigit {n : Nat} (hn : n < 16) :
    isPlain (Text.upperHexDigit n) = true := by
  revert n
  decide

/-- An encoded segment has plain characters only. -/
theorem isPlainSegment_encodeSegment (value : String) :
    IsPlainSegment (Percent.encodeSegment value) := by
  intro c hc
  rw [Percent.encodeSegment, String.toList_ofList] at hc
  obtain ⟨d, -, hd⟩ := List.mem_flatMap.mp hc
  unfold Percent.encodeChar at hd
  split_ifs at hd with hkept
  · rw [Bool.and_eq_true] at hkept
    rw [List.mem_singleton.mp hd, isPlain, hkept.2]
    rfl
  · obtain ⟨b, -, hb⟩ := List.mem_flatMap.mp hd
    have hbyte : b.toNat < 256 := b.toNat_lt
    simp only [Percent.triple, List.mem_cons, List.not_mem_nil, or_false] at hb
    rcases hb with rfl | rfl | rfl
    · rfl
    · exact isPlain_upperHexDigit (by omega)
    · exact isPlain_upperHexDigit (by omega)

/-- An encoded segment means the folder above exactly when it stands for two dots. -/
theorem isDoubleDot_encodeSegment (value : String) :
    isDoubleDot (Percent.encodeSegment value) = true ↔ value = ".." := by
  constructor
  · intro h
    have hall : ∀ segment ∈ ["..", "%2e%2e", "%2e%2E", "%2E%2e", "%2E%2E", "%2e.", "%2E.", ".%2e",
        ".%2E"], Percent.decode (Utf8.encode segment) = Utf8.encode ".." := by
      decide +kernel
    apply Utf8.encode_injective
    rw [← Percent.decode_encodeSegment]
    exact hall _ (List.contains_iff_mem.mp h)
  · rintro rfl
    decide +kernel

/-- An encoded segment means this folder exactly when it stands for a dot. -/
theorem isSingleDot_encodeSegment (value : String) :
    isSingleDot (Percent.encodeSegment value) = true ↔ value = "." := by
  constructor
  · intro h
    have hall : ∀ segment ∈ [".", "%2e", "%2E"],
        Percent.decode (Utf8.encode segment) = Utf8.encode "." := by
      decide +kernel
    apply Utf8.encode_injective
    rw [← Percent.decode_encodeSegment]
    exact hall _ (List.contains_iff_mem.mp h)
  · rintro rfl
    decide +kernel

end BulkJobs.Url
