import BulkJobs.Proofs.Url.Path
import BulkJobs.Text.Form

/-!
# Reading form encoded queries

A query is cut at `&` into pairs, empty ones left out, and each pair at its first `=` into a name
and a value; in both `+` is a blank and percent encoding is undone (`pairs`). What is encoded comes
back whatever its characters are (`decodeText_encodeText`), as encoding leaves no separator in it
(`notMem_encodeText`). So pairs that are appended to a query are read behind those that were there
(`pairs_append`).
-/

set_option autoImplicit false
set_option relaxedAutoImplicit false

namespace BulkJobs.Utf8

theorem decodeLossy_encode (text : String) : decodeLossy (encode text) = text := by
  have hpieces : pieces (encode text) = text.toList.map .scalar := by
    simpa [pieces, encode, scan] using scan_encode text.toList []
  rw [decodeLossy, hpieces, List.map_map]
  exact (congrArg String.ofList (List.map_id _)).trans String.ofList_toList

end BulkJobs.Utf8

namespace BulkJobs.Form

/-- The text that a form encoded name or value stands for: a plus sign is a blank, and the rest is
percent encoded. -/
def decodeText (encoded : List Char) : String :=
  let blanked := encoded.map fun c ↦ if c = '+' then ' ' else c
  Utf8.decodeLossy (Percent.decode (Utf8.encode (.ofList blanked)))

/-- The name before the first equals sign and the value behind it, decoded. -/
def decodePair (encoded : List Char) : String × String :=
  (decodeText (encoded.takeWhile (· != '=')), decodeText ((encoded.dropWhile (· != '=')).drop 1))

/-- The pairs of names and values that a query stands for, in their order; what is empty between two
separators stands for none. -/
def pairs (query : List Char) : List (String × String) :=
  ((Text.splitOn '&' query).filter (!·.isEmpty)).map decodePair

/-! ### Names and values -/

/-- What encodes a character other than a blank is plain, up to the marks that are kept. -/
theorem isPlain_encodeChar {c d : Char} (hd : d ∈ Percent.encodeChar isKept c) :
    Url.isPlain d = true ∨ d = '*' := by
  unfold Percent.encodeChar at hd
  split_ifs at hd with hkept
  · obtain rfl := List.mem_singleton.mp hd
    have hd' : isKept d = true := (Bool.and_eq_true_iff.mp hkept).2
    simp only [isKept, Bool.or_eq_true, beq_iff_eq] at hd'
    simp only [Url.isPlain, Percent.isUnreserved, Bool.or_eq_true, beq_iff_eq]
    tauto
  · obtain ⟨b, -, hb⟩ := List.mem_flatMap.mp hd
    have hbound : b.toNat < 256 := b.toNat_lt
    simp only [Percent.triple, List.mem_cons, List.not_mem_nil, or_false] at hb
    rcases hb with rfl | rfl | rfl
    · exact .inl rfl
    · exact .inl (Url.isPlain_upperHexDigit (by omega))
    · exact .inl (Url.isPlain_upperHexDigit (by omega))

/-- No separator of pairs, names and values is left in what `encodeText` writes. -/
theorem notMem_encodeText (text : String) : '&' ∉ encodeText text ∧ '=' ∉ encodeText text := by
  have hmarks : ∀ mark ∈ ['&', '='], mark ∉ encodeText text := by
    intro mark hmark hmem
    obtain ⟨c, -, hc⟩ := List.mem_flatMap.mp hmem
    have hplain : mark ∈ ['+'] ∨ Url.isPlain mark = true ∨ mark = '*' := by
      split_ifs at hc
      · exact .inl hc
      · exact .inr (isPlain_encodeChar hc)
    simp only [List.mem_cons, List.not_mem_nil, or_false] at hmark
    rcases hmark with rfl | rfl <;> revert hplain <;> decide
  exact ⟨hmarks '&' (by simp), hmarks '=' (by simp)⟩

/-- Whether a character is one that form encoding keeps, or a blank. -/
def isKeptOrBlank (c : Char) : Bool :=
  isKept c || c == ' '

/-- With blanks for its plus signs, form encoding is percent encoding that keeps blanks. -/
theorem blanked_encodeText (text : String) :
    (encodeText text).map (fun c ↦ if c = '+' then ' ' else c) =
      Percent.encodeChars isKeptOrBlank text.toList := by
  rw [encodeText, Percent.encodeChars, List.map_flatMap]
  refine congrArg (fun f ↦ text.toList.flatMap f) (funext fun c ↦ ?_)
  by_cases hblank : c = ' '
  · subst hblank
    decide
  · have hsame : Percent.encodeChar isKeptOrBlank c = Percent.encodeChar isKept c := by
      simp [Percent.encodeChar, isKeptOrBlank, hblank]
    have hplus : ∀ d ∈ Percent.encodeChar isKept c, (if d = '+' then ' ' else d) = d := by
      intro d hd
      refine if_neg ?_
      rintro rfl
      exact absurd (isPlain_encodeChar hd) (by decide)
    rw [hsame, if_neg (by simpa using hblank)]
    exact (List.map_congr_left hplus).trans (List.map_id _)

/-- Decoding undoes `encodeText`: whatever is encoded comes back. -/
theorem decodeText_encodeText (text : String) : decodeText (encodeText text) = text := by
  have hpercent : isKeptOrBlank '%' = false := by decide
  have hread := Percent.decode_encodeChars hpercent text.toList
  rw [decodeText, blanked_encodeText, Utf8.encode, String.toList_ofList, hread]
  exact Utf8.decodeLossy_encode text

/-! ### Pairs -/

theorem decodePair_encodePair (pair : String × String) : decodePair (encodePair pair) = pair := by
  obtain ⟨name, value⟩ := pair
  have hname : ∀ c ∈ encodeText name, (c != '=') = true := fun c hc ↦
    bne_iff_ne.mpr (ne_of_mem_of_not_mem hc (notMem_encodeText name).2)
  have htake : (encodePair (name, value)).takeWhile (· != '=') = encodeText name := by
    rw [encodePair, List.takeWhile_append_of_pos hname]
    simp
  have hdrop : (encodePair (name, value)).dropWhile (· != '=') = '=' :: encodeText value := by
    rw [encodePair, List.dropWhile_append_of_pos hname]
    simp
  rw [decodePair, htake, hdrop, List.drop_one, List.tail_cons, decodeText_encodeText,
    decodeText_encodeText]

theorem splitOn_append (separator : Char) (before after : List Char) :
    Text.splitOn separator (before ++ separator :: after) =
      Text.splitOn separator before ++ Text.splitOn separator after := by
  induction before with
  | nil => simp [Text.splitOn]
  | cons c before ih =>
    rw [List.cons_append, Text.splitOn, ih, Text.splitOn]
    split_ifs
    · rfl
    · cases hparts : Text.splitOn separator before with
      | nil => exact absurd hparts (Url.splitOn_ne_nil separator before)
      | cons part parts => rfl

theorem pairs_append_cons (before after : List Char) :
    pairs (before ++ '&' :: after) = pairs before ++ pairs after := by
  rw [pairs, splitOn_append, List.filter_append, List.map_append]
  rfl

theorem pairs_encodePair (pair : String × String) : pairs (encodePair pair) = [pair] := by
  have hsome : encodePair pair ≠ [] := by simp [encodePair]
  have hseparator : '&' ∉ encodePair pair := by
    simp [encodePair, (notMem_encodeText _).1]
  rw [pairs, Url.splitOn_of_notMem hseparator, List.filter_cons_of_pos (by simpa using hsome)]
  exact congrArg (· :: []) (decodePair_encodePair pair)

/-- Pairs that are appended to a query are read behind those that were there. -/
theorem pairs_append (query : List Char) (more : List (String × String)) :
    pairs (append query more) = pairs query ++ more := by
  induction more generalizing query with
  | nil => simp [append]
  | cons pair more ih =>
    rw [append, List.foldl_cons, ← append, ih]
    split_ifs with hempty
    · obtain rfl := List.isEmpty_iff.mp hempty
      rw [pairs_encodePair]
      rfl
    · rw [pairs_append_cons, pairs_encodePair, List.append_assoc]
      rfl

example : pairs "a=1&&b+c=%26%3d&d".toList = [("a", "1"), ("b c", "&="), ("d", "")] := by
  decide +kernel

end BulkJobs.Form
