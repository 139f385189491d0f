import BulkJobs.Text.Percent
import Mathlib.Tactic.IntervalCases

/-!
# Encodings are undone by their decoders

Reading the UTF-8 bytes of a text gives the text (`decode?_encode`). The scan is followed through
the bytes of one character: the first byte says how many are owed and bounds the next one
(`start_ofNat`), and every owed byte brings six bits (`scan_owed_last`, `scan_owed_more`). An ASCII
byte at the end of a byte string is always read as its character, whatever is owed before it
(`scan_concat`).

Percent decoding undoes percent encoding, if `%` itself is not kept (`decode_encodeChars`), so a
path segment names the text it was made from, and only that one (`decode_encodeSegment`). A byte
that is no hexadecimal digit is not drawn into a triple that is cut off before it
(`decode_concat`).
-/

set_option autoImplicit false
set_option relaxedAutoImplicit false

namespace BulkJobs.Utf8

/-! ### One character -/

theorem start_ofNat {n : Nat} (hn : n < 256) : start (UInt8.ofNat n) =
    if n < 0x80 then .scalar (Char.ofNat n)
    else if n < 0xC2 then .garbage
    else if n < 0xE0 then .owed ⟨n - 0xC0, 1, 0x80, 0xBF⟩
    else if n = 0xE0 then .owed ⟨0, 2, 0xA0, 0xBF⟩
    else if n = 0xED then .owed ⟨0xD, 2, 0x80, 0x9F⟩
    else if n < 0xF0 then .owed ⟨n - 0xE0, 2, 0x80, 0xBF⟩
    else if n = 0xF0 then .owed ⟨0, 3, 0x90, 0xBF⟩
    else if n < 0xF4 then .owed ⟨n - 0xF0, 3, 0x80, 0xBF⟩
    else if n = 0xF4 then .owed ⟨4, 3, 0x80, 0x8F⟩
    else .garbage := by
  have hb : (UInt8.ofNat n).toNat = n := by simp [Nat.mod_eq_of_lt hn]
  simp only [start, UInt8.lt_iff_toNat_lt, beq_iff_eq, ← UInt8.toNat_inj, hb]
  rfl

theorem continue?_ofNat {o : Owed} {n : Nat} (hlow : o.low.toNat ≤ n) (hhigh : n ≤ o.high.toNat) :
    continue? o (UInt8.ofNat n) =
      if o.rest ≤ 1 then some (.scalar (Char.ofNat (o.bits * 64 + (n - 0x80))))
      else some (.owed ⟨o.bits * 64 + (n - 0x80), o.rest - 1, 0x80, 0xBF⟩) := by
  have hn : n < 256 := Nat.lt_of_le_of_lt hhigh o.high.toNat_lt
  have hb : (UInt8.ofNat n).toNat = n := by simp [Nat.mod_eq_of_lt hn]
  have hin : (decide (UInt8.ofNat n < o.low) || decide (o.high < UInt8.ofNat n)) = false := by
    simp [UInt8.lt_iff_toNat_lt, hb, hlow, hhigh]
  simp [continue?, hin, hb]

/-- The last owed byte of a value (`hlow`, `hhigh`: it is between the bounds) brings its last six
bits. -/
theorem scan_owed_last (v : Nat) {low high : UInt8} (rest : Octets)
    (hlow : low.toNat ≤ v % 64 + 0x80) (hhigh : v % 64 + 0x80 ≤ high.toNat) :
    scan (some ⟨v / 64, 1, low, high⟩) (UInt8.ofNat (v % 64 + 0x80) :: rest) =
      .scalar (Char.ofNat v) :: scan none rest := by
  have hstep : continue? ⟨v / 64, 1, low, high⟩ (UInt8.ofNat (v % 64 + 0x80)) =
      some (.scalar (Char.ofNat v)) := by
    rw [continue?_ofNat hlow hhigh, if_pos (by simp)]
    rw [show v / 64 * 64 + (v % 64 + 0x80 - 0x80) = v by omega]
  simp only [scan, hstep]

/-- An owed byte of a value that more bytes follow (`hlow`, `hhigh`: it is between the bounds)
brings the six bits before theirs. -/
theorem scan_owed_more (v more : Nat) {low high : UInt8} (rest : Octets)
    (hlow : low.toNat ≤ v % 64 + 0x80) (hhigh : v % 64 + 0x80 ≤ high.toNat) :
    scan (some ⟨v / 64, more + 2, low, high⟩) (UInt8.ofNat (v % 64 + 0x80) :: rest) =
      scan (some ⟨v, more + 1, 0x80, 0xBF⟩) rest := by
  have hstep : continue? ⟨v / 64, more + 2, low, high⟩ (UInt8.ofNat (v % 64 + 0x80)) =
      some (.owed ⟨v, more + 1, 0x80, 0xBF⟩) := by
    rw [continue?_ofNat hlow hhigh, if_neg (by simp)]
    rw [show v / 64 * 64 + (v % 64 + 0x80 - 0x80) = v by omega]
    rfl
  simp only [scan, hstep]

theorem scan_start {n : Nat} {o : Owed} (h : start (UInt8.ofNat n) = .owed o) (bytes : Octets) :
    scan none (UInt8.ofNat n :: bytes) = scan (some o) bytes := by
  simp only [scan, h]

/-- Scalar values leave out the surrogates. -/
theorem toNat_valid (c : Char) : c.toNat < 0xD800 ∨ (0xDFFF < c.toNat ∧ c.toNat < 0x110000) :=
  c.valid

/-- The first of three bytes, with bounds that the second one keeps. -/
theorem start_three {v : Nat} (hleast : 0x7FF < v) (hmost : v ≤ 0xFFFF)
    (hvalid : v < 0xD800 ∨ 0xDFFF < v) : ∃ low high : UInt8,
      start (UInt8.ofNat (v / 4096 % 16 + 0xE0)) = .owed ⟨v / 64 / 64, 2, low, high⟩ ∧
      low.toNat ≤ v / 64 % 64 + 0x80 ∧ v / 64 % 64 + 0x80 ≤ high.toNat := by
  rw [start_ofNat (by omega), if_neg (by omega), if_neg (by omega), if_neg (by omega)]
  by_cases hoverlong : v / 4096 = 0
  · refine ⟨0xA0, 0xBF, by rw [if_pos (by omega), show v / 64 / 64 = 0 by omega], ?_, ?_⟩
    all_goals
      simp
      omega
  · rw [if_neg (by omega)]
    by_cases hsurrogate : v / 4096 = 0xD
    · refine ⟨0x80, 0x9F, by rw [if_pos (by omega), show v / 64 / 64 = 0xD by omega], ?_, ?_⟩
      · simp
      · simp
        omega
    · refine ⟨0x80, 0xBF, ?_, ?_, ?_⟩
      · rw [if_neg (by omega), if_pos (by omega),
          show v / 4096 % 16 + 0xE0 - 0xE0 = v / 64 / 64 by omega]
      · simp
      · simp
        omega

/-- The first of four bytes, with bounds that the second one keeps. -/
theorem start_four {v : Nat} (hleast : 0xFFFF < v) (hmost : v < 0x110000) : ∃ low high : UInt8,
      start (UInt8.ofNat (v / 262144 % 8 + 0xF0)) = .owed ⟨v / 64 / 64 / 64, 3, low, high⟩ ∧
      low.toNat ≤ v / 64 / 64 % 64 + 0x80 ∧ v / 64 / 64 % 64 + 0x80 ≤ high.toNat := by
  rw [start_ofNat (by omega), if_neg (by omega), if_neg (by omega), if_neg (by omega),
    if_neg (by omega), if_neg (by omega), if_neg (by omega)]
  by_cases hoverlong : v / 262144 = 0
  · refine ⟨0x90, 0xBF, by rw [if_pos (by omega), show v / 64 / 64 / 64 = 0 by omega], ?_, ?_⟩
    all_goals
      simp
      omega
  · rw [if_neg (by omega)]
    by_cases hmost : v / 262144 = 4
    · refine ⟨0x80, 0x8F, ?_, ?_, ?_⟩
      · rw [if_neg (by omega), if_pos (by omega), show v / 64 / 64 / 64 = 4 by omega]
      · simp
      · simp
        omega
    · refine ⟨0x80, 0xBF, ?_, ?_, ?_⟩
      · rw [if_pos (by omega), show v / 262144 % 8 + 0xF0 - 0xF0 = v / 64 / 64 / 64 by omega]
      · simp
      · simp
        omega

/-- The bytes of a character are read as that character, whatever follows them. -/
theorem scan_encodeChar (c : Char) (rest : Octets) :
    scan none (String.utf8EncodeChar c ++ rest) = .scalar c :: scan none rest := by
  have hvalid := toNat_valid c
  have hval : c.val.toNat = c.toNat := rfl
  have hdigit (v : Nat) : v % 64 + 0x80 ≤ (0xBF : UInt8).toNat := by
    simp
    omega
  fun_cases String.utf8EncodeChar c with
  | case1 v hone =>
    have hstart : start (UInt8.ofNat c.toNat) = .scalar c := by
      rw [start_ofNat (by omega), if_pos (by omega), Char.ofNat_toNat]
    simp only [v, hval, List.cons_append, List.nil_append, scan, hstart]
  | case2 v hone htwo =>
    have hstart : start (UInt8.ofNat (c.toNat / 64 % 32 + 0xC0)) =
        .owed ⟨c.toNat / 64, 1, 0x80, 0xBF⟩ := by
      rw [start_ofNat (by omega), if_neg (by omega), if_neg (by omega), if_pos (by omega)]
      rw [show c.toNat / 64 % 32 + 0xC0 - 0xC0 = c.toNat / 64 by omega]
    simp only [v, hval, List.cons_append, List.nil_append]
    rw [scan_start hstart, scan_owed_last _ _ (by simp) (hdigit _), Char.ofNat_toNat]
  | case3 v hone htwo hthree =>
    obtain ⟨low, high, hstart, hlow, hhigh⟩ :=
      start_three (v := c.toNat) (by omega) (by omega) (by omega)
    simp only [v, hval, List.cons_append, List.nil_append]
    rw [scan_start hstart, scan_owed_more _ 0 _ hlow hhigh,
      scan_owed_last _ _ (by simp) (hdigit _), Char.ofNat_toNat]
  | case4 v hone htwo hthree =>
    obtain ⟨low, high, hstart, hlow, hhigh⟩ := start_four (v := c.toNat) (by omega) (by omega)
    simp only [v, hval, List.cons_append, List.nil_append]
    rw [show c.toNat / 4096 = c.toNat / 64 / 64 by omega, scan_start hstart,
      scan_owed_more _ 1 _ hlow hhigh, scan_owed_more _ 0 _ (by simp) (hdigit _),
      scan_owed_last _ _ (by simp) (hdigit _), Char.ofNat_toNat]

/-! ### Texts -/

theorem scan_encode (text : List Char) (rest : Octets) :
    scan none (text.flatMap String.utf8EncodeChar ++ rest) =
      text.map .scalar ++ scan none rest := by
  induction text with
  | nil => simp
  | cons c text ih => simp [scan_encodeChar, ih]

theorem leadingScalars_map (text : List Char) : leadingScalars (text.map .scalar) = text := by
  induction text with
  | nil => rfl
  | cons c text ih => simp [leadingScalars, ih]

/-- Reading the bytes of a text gives the text: nothing in them is garbage. -/
theorem decode?_encode (text : String) : decode? (encode text) = some text := by
  have hpieces : pieces (encode text) = text.toList.map .scalar := by
    simpa [pieces, encode, scan] using scan_encode text.toList []
  have hsound : (text.toList.map Piece.scalar).contains .garbage = false := by
    simp
  simp [decode?, hpieces, leadingScalars_map]

theorem encode_injective : Function.Injective encode := by
  intro first second h
  have hread := decode?_encode first
  rw [h, decode?_encode] at hread
  exact (Option.some.inj hread).symm

/-- The bytes of a text begin those of another one exactly when its characters do. -/
theorem encode_prefix_iff {first second : String} :
    encode first <+: encode second ↔ first.toList <+: second.toList := by
  constructor
  · rintro ⟨rest, hrest⟩
    have hwhole : scan none (encode second) = second.toList.map .scalar := by
      simpa [encode, scan] using scan_encode second.toList []
    have hsplit := scan_encode first.toList rest
    rw [← encode, hrest, hwhole] at hsplit
    obtain ⟨before, behind, hsecond, hbefore, -⟩ := List.map_eq_append_iff.mp hsplit
    rw [hsecond, (List.map_inj_right fun _ _ h ↦ Piece.scalar.inj h).mp hbefore]
    exact List.prefix_append first.toList behind
  · rintro ⟨rest, hrest⟩
    rw [encode, encode, ← hrest, List.flatMap_append]
    exact List.prefix_append _ _

/-- Whether no byte below `0x80` continues what a scan has begun and not finished. -/
def OwesBeyondAscii (owed? : Option Owed) : Prop :=
  ∀ o, owed? = some o → 0x80 ≤ o.low

theorem owesBeyondAscii_start {b : UInt8} {o : Owed} (h : start b = .owed o) :
    OwesBeyondAscii (some o) := by
  rintro _ ⟨⟩
  unfold start at h
  split_ifs at h
  all_goals
    first
    | exact Step.noConfusion h
    | rw [← Step.owed.inj h]
      dsimp only
      decide

theorem owesBeyondAscii_continue? {o o' : Owed} {b : UInt8} (h : continue? o b = some (.owed o')) :
    OwesBeyondAscii (some o') := by
  rintro _ ⟨⟩
  unfold continue? at h
  split_ifs at h with hout hlast
  · exact Step.noConfusion (Option.some.inj h)
  · rw [← Step.owed.inj (Option.some.inj h)]
    dsimp only
    decide

theorem start_of_lt {b : UInt8} (hb : b < 0x80) : start b = .scalar (Char.ofNat b.toNat) := by
  simp [start, hb]

theorem continue?_of_lt {o : Owed} {b : UInt8} (ho : OwesBeyondAscii (some o)) (hb : b < 0x80) :
    continue? o b = none := by
  have hlow : b < o.low := UInt8.lt_of_lt_of_le hb (ho o rfl)
  simp [continue?, hlow]

/-- An ASCII byte at the end (`hb`) is read as its character, whatever is owed before it, as it
continues nothing (`ho`). -/
theorem scan_concat {owed? : Option Owed} (ho : OwesBeyondAscii owed?) (bytes : Octets) {b : UInt8}
    (hb : b < 0x80) : .scalar (Char.ofNat b.toNat) ∈ scan owed? (bytes ++ [b]) := by
  have hnone : OwesBeyondAscii none := by
    rintro _ ⟨⟩
  induction bytes generalizing owed? with
  | nil =>
    cases owed? with
    | none => simp [scan, start_of_lt hb]
    | some o => simp [scan, start_of_lt hb, continue?_of_lt ho hb]
  | cons b' bytes ih =>
    have hstart (pieces : List Piece) (h : pieces = scan none (b' :: bytes ++ [b])) :
        .scalar (Char.ofNat b.toNat) ∈ pieces := by
      rw [h, List.cons_append, scan]
      cases hb' : start b' with
      | scalar c => exact List.mem_cons_of_mem _ (ih hnone)
      | owed o => exact ih (owesBeyondAscii_start hb')
      | garbage => exact List.mem_cons_of_mem _ (ih hnone)
    cases owed? with
    | none => exact hstart _ rfl
    | some o =>
      rw [List.cons_append, scan]
      cases hb' : continue? o b' with
      | none => exact List.mem_cons_of_mem _ (hstart _ (by rw [List.cons_append, scan]))
      | some step =>
        cases step with
        | scalar c => exact List.mem_cons_of_mem _ (ih hnone)
        | owed next => exact ih (owesBeyondAscii_continue? hb')
        | garbage => exact List.mem_cons_of_mem _ (ih hnone)

theorem mem_leadingScalars {pieces : List Piece} {c : Char} (hsound : .garbage ∉ pieces)
    (hc : .scalar c ∈ pieces) : c ∈ leadingScalars pieces := by
  induction pieces with
  | nil => simp at hc
  | cons piece pieces ih =>
    cases piece with
    | scalar d =>
      simp only [List.mem_cons, Piece.scalar.injEq] at hc
      rcases hc with rfl | hc
      · simp [leadingScalars]
      · exact List.mem_cons_of_mem _ (ih (by simpa using hsound) hc)
    | garbage => simp at hsound

/-- A byte string that ends in an ASCII byte (`hb`) and is read as a text (`h`) has the character of
that byte in the text. -/
theorem mem_of_decode?_concat {bytes : Octets} {b : UInt8} {text : String} (hb : b < 0x80)
    (h : decode? (bytes ++ [b]) = some text) : Char.ofNat b.toNat ∈ text.toList := by
  unfold decode? at h
  simp only at h
  split_ifs at h with hgarbage
  rw [← Option.some.inj h, String.toList_ofList]
  refine mem_leadingScalars (by simpa using hgarbage) (scan_concat ?_ bytes hb)
  rintro _ ⟨⟩

end BulkJobs.Utf8

namespace BulkJobs.Percent

/-! ### Percent encoding -/

theorem decode_cons_of_ne {b : UInt8} (h : b ≠ 0x25) (rest : Octets) :
    decode (b :: rest) = b :: decode rest := by
  rw [decode]
  rintro _ _ _ rfl
  exact absurd rfl h

theorem hexValue?_upperHexDigit {n : Nat} (hn : n < 16) :
    Text.hexValue? (Text.upperHexDigit n) = some n := by
  interval_cases n <;> rfl

theorem toNat_upperHexDigit_lt {n : Nat} (hn : n < 16) : (Text.upperHexDigit n).toNat < 0x80 := by
  interval_cases n <;> decide

theorem encodeChar_of_ascii {c : Char} (hc : c.toNat < 0x80) :
    String.utf8EncodeChar c = [UInt8.ofNat c.toNat] := by
  have hval : c.val.toNat = c.toNat := rfl
  simp only [String.utf8EncodeChar, hval]
  rw [if_pos (by omega)]

theorem ofNat_toNat_ofNat {c : Char} (hc : c.toNat < 0x80) :
    Char.ofNat (UInt8.ofNat c.toNat).toNat = c := by
  rw [UInt8.toNat_ofNat', Nat.mod_eq_of_lt (by omega), Char.ofNat_toNat]

/-- An ASCII byte (`hascii`) among the bytes of a character is all there is of the character. -/
theorem eq_ofNat_of_mem_utf8EncodeChar {c : Char} {b : UInt8} (hb : b ∈ String.utf8EncodeChar c)
    (hascii : b < 0x80) : c = Char.ofNat b.toNat := by
  have hval : c.val.toNat = c.toNat := rfl
  have hlow : b.toNat < 0x80 := UInt8.lt_iff_toNat_lt.mp hascii
  have hnot : ∀ n, 0x80 ≤ n → n < 256 → b ≠ UInt8.ofNat n := by
    rintro n hle hlt rfl
    rw [UInt8.toNat_ofNat', Nat.mod_eq_of_lt hlt] at hlow
    omega
  have hmore : ∀ v, b ≠ UInt8.ofNat (v % 64 + 0x80) := fun v ↦ hnot _ (by omega) (by omega)
  revert hb
  fun_cases String.utf8EncodeChar c with
  | case1 v hone =>
    intro hb
    obtain rfl := List.mem_singleton.mp hb
    exact (ofNat_toNat_ofNat (by omega)).symm
  | case2 v hone htwo =>
    have hfirst : b ≠ UInt8.ofNat (v / 64 % 32 + 0xC0) := hnot _ (by omega) (by omega)
    simp only [List.mem_cons, hfirst, hmore, List.not_mem_nil, or_self, false_implies]
  | case3 v hone htwo hthree =>
    have hfirst : b ≠ UInt8.ofNat (v / 4096 % 16 + 0xE0) := hnot _ (by omega) (by omega)
    simp only [List.mem_cons, hfirst, hmore, List.not_mem_nil, or_self, false_implies]
  | case4 v hone htwo hthree =>
    have hfirst : b ≠ UInt8.ofNat (v / 262144 % 8 + 0xF0) := hnot _ (by omega) (by omega)
    simp only [List.mem_cons, hfirst, hmore, List.not_mem_nil, or_self, false_implies]

/-- Percent decoding takes a triple for the byte that it encodes. -/
theorem decode_triple (b : UInt8) (rest : Octets) :
    decode ((triple b).flatMap String.utf8EncodeChar ++ rest) = b :: decode rest := by
  have hb : b.toNat < 256 := b.toNat_lt
  have hhigh : b.toNat / 16 < 16 := by omega
  have hlow : b.toNat % 16 < 16 := by omega
  have hmark : String.utf8EncodeChar '%' = [0x25] := rfl
  have hbyte : byte? (UInt8.ofNat (Text.upperHexDigit (b.toNat / 16)).toNat)
      (UInt8.ofNat (Text.upperHexDigit (b.toNat % 16)).toNat) = some b := by
    simp only [byte?, ofNat_toNat_ofNat (toNat_upperHexDigit_lt hhigh),
      ofNat_toNat_ofNat (toNat_upperHexDigit_lt hlow), hexValue?_upperHexDigit hhigh,
      hexValue?_upperHexDigit hlow]
    have hbits : b.toNat / 16 * 16 + b.toNat % 16 = b.toNat := by omega
    change some (UInt8.ofNat (b.toNat / 16 * 16 + b.toNat % 16)) = some b
    rw [hbits, UInt8.ofNat_toNat]
  simp only [triple, List.flatMap_cons, List.flatMap_nil, hmark,
    encodeChar_of_ascii (toNat_upperHexDigit_lt hhigh),
    encodeChar_of_ascii (toNat_upperHexDigit_lt hlow), List.cons_append, List.nil_append]
  rw [decode, hbyte]

theorem decode_triples (bytes rest : Octets) :
    decode ((bytes.flatMap triple).flatMap String.utf8EncodeChar ++ rest) =
      bytes ++ decode rest := by
  induction bytes with
  | nil => simp
  | cons b bytes ih =>
    rw [List.flatMap_cons, List.flatMap_append, List.append_assoc, decode_triple, ih,
      List.cons_append]

/-- Percent decoding takes the code of a character for the bytes of the character, if the mark of
triples is not kept (`hkeep`). -/
theorem decode_encodeChar {keep : Char → Bool} (hkeep : keep '%' = false) (c : Char)
    (rest : Octets) :
    decode ((encodeChar keep c).flatMap String.utf8EncodeChar ++ rest) =
      String.utf8EncodeChar c ++ decode rest := by
  unfold encodeChar
  split_ifs with hkept
  · obtain ⟨hascii, hc⟩ : c.toNat < 0x80 ∧ keep c = true := by simpa using hkept
    have hne : UInt8.ofNat c.toNat ≠ 0x25 := by
      intro heq
      have hpercent : c = '%' := by
        rw [← ofNat_toNat_ofNat hascii, heq]
        rfl
      rw [hpercent, hkeep] at hc
      cases hc
    rw [List.flatMap_singleton, encodeChar_of_ascii hascii]
    exact decode_cons_of_ne hne rest
  · exact decode_triples _ rest

/-- Percent decoding undoes percent encoding when `%` is not kept (`hkeep`). The induction is on the
text. -/
theorem decode_encodeChars {keep : Char → Bool} (hkeep : keep '%' = false) (text : List Char) :
    decode ((encodeChars keep text).flatMap String.utf8EncodeChar) =
      text.flatMap String.utf8EncodeChar := by
  induction text with
  | nil => rfl
  | cons c text ih =>
    rw [encodeChars, List.flatMap_cons, List.flatMap_append, decode_encodeChar hkeep,
      List.flatMap_cons]
    rw [encodeChars] at ih
    rw [ih]

/-- A path segment denotes the text it was made from. -/
theorem decode_encodeSegment (value : String) :
    decode (Utf8.encode (encodeSegment value)) = Utf8.encode value := by
  have hpercent : isUnreserved '%' = false := by decide
  simpa [Utf8.encode, encodeSegment] using decode_encodeChars hpercent value.toList

theorem encodeSegment_injective : Function.Injective encodeSegment := by
  intro first second h
  apply Utf8.encode_injective
  rw [← decode_encodeSegment first, h, decode_encodeSegment]

/-- A byte that is no hexadecimal digit (`hb`) is not drawn into what stands before it. -/
theorem decode_concat (bytes : Octets) {b : UInt8}
    (hb : Text.hexValue? (Char.ofNat b.toNat) = none) :
    decode (bytes ++ [b]) = decode bytes ++ [b] := by
  have hbyte (high : UInt8) : byte? high b = none := by
    cases hhigh : Text.hexValue? (Char.ofNat high.toNat) <;> simp [byte?, hhigh, hb]
  induction bytes using decode.induct with
  | case1 => simp [decode]
  | case2 high low rest b' hb' ih =>
    simp only [List.cons_append, decode, hb']
    rw [ih]
  | case3 high low rest hb' ih =>
    simp only [List.cons_append, decode, hb']
    rw [← List.cons_append, ← List.cons_append, ih]
  | case4 b' rest hshape ih =>
    rw [decode.eq_3 b' rest hshape]
    by_cases hmark : b' = 0x25
    · match rest with
      | [] => simp [decode]
      | [x] => simp only [hmark, List.cons_append, List.nil_append, decode, hbyte]
      | high :: low :: rest => exact (hshape high low rest hmark rfl).elim
    · rw [List.cons_append, decode_cons_of_ne hmark, ih, List.cons_append]

end BulkJobs.Percent
