import BulkJobs.Proofs.Text.Coding
import BulkJobs.Proofs.Text.Form

/-!
# What reading UTF-8 keeps

A byte string that is read without garbage is made of the bytes of the text that was read
(`encode_of_decode?`), so a byte string is the UTF-8 of a text exactly when strict decoding takes it
(`decode?_eq_some_iff`). What is unfinished in the scan stands for the bytes before it: they begin
every character that continues as is owed (`Opens`). The first byte of a character opens it
(`opens_start`), a byte that leaves some owed keeps it open (`Opens.continue?`), and the last one
completes it (`Opens.close`). Lossy decoding never fails, so what it makes of other byte strings is
always the text of different bytes (`encode_decodeLossy_eq_iff`).
-/

set_option autoImplicit false
set_option relaxedAutoImplicit false

namespace BulkJobs.Utf8

/-! ### The bytes of one character -/

/-- The last bytes of a scalar value, as many as are asked for, with six bits of it in each. -/
def continuation : Nat → Nat → Octets
  | 0, _ => []
  | more + 1, v => UInt8.ofNat (v / 64 ^ more % 64 + 0x80) :: continuation more v

theorem toNat_val_ofNat {v : Nat} (hvalid : v < 0xD800 ∨ (0xDFFF < v ∧ v < 0x110000)) :
    (Char.ofNat v).val.toNat = v := by
  have hv : v.isValidChar := hvalid
  rw [Char.ofNat, dif_pos hv]
  rfl

theorem encodeChar_two {v : Nat} (hleast : 0x80 ≤ v) (hmost : v < 0x800) :
    String.utf8EncodeChar (Char.ofNat v) = UInt8.ofNat (v / 64 + 0xC0) :: continuation 1 v := by
  have hval := toNat_val_ofNat (v := v) (by omega)
  simp only [String.utf8EncodeChar, hval]
  rw [if_neg (by omega), if_pos (by omega), Nat.mod_eq_of_lt (by omega : v / 64 < 32)]
  simp [continuation]

theorem encodeChar_three {v : Nat} (hleast : 0x800 ≤ v) (hmost : v < 0x10000)
    (hvalid : v < 0xD800 ∨ 0xDFFF < v) :
    String.utf8EncodeChar (Char.ofNat v) = UInt8.ofNat (v / 4096 + 0xE0) :: continuation 2 v := by
  have hval := toNat_val_ofNat (v := v) (by omega)
  simp only [String.utf8EncodeChar, hval]
  rw [if_neg (by omega), if_neg (by omega), if_pos (by omega),
    Nat.mod_eq_of_lt (by omega : v / 4096 < 16)]
  simp [continuation]

theorem encodeChar_four {v : Nat} (hleast : 0x10000 ≤ v) (hmost : v < 0x110000) :
    String.utf8EncodeChar (Char.ofNat v) = UInt8.ofNat (v / 262144 + 0xF0) :: continuation 3 v := by
  have hval := toNat_val_ofNat (v := v) (by omega)
  simp only [String.utf8EncodeChar, hval]
  rw [if_neg (by omega), if_neg (by omega), if_neg (by omega),
    Nat.mod_eq_of_lt (by omega : v / 262144 < 8)]
  simp [continuation]

theorem encodeChar_of_start {b : UInt8} {c : Char} (h : start b = .scalar c) :
    String.utf8EncodeChar c = [b] := by
  fun_cases start b with
  | case1 hone =>
    have hone' : b.toNat < 128 := UInt8.lt_iff_toNat_lt.mp hone
    have hval := toNat_val_ofNat (v := b.toNat) (by omega)
    rw [start, if_pos hone] at h
    rw [← Step.scalar.inj h]
    simp only [String.utf8EncodeChar, hval]
    rw [if_pos (by omega), UInt8.ofNat_toNat]
  | _ => simp_all [start]

/-! ### Unfinished characters -/

/-- Whether bytes begin every character that continues as is owed: with bytes between the bounds,
and as many as are missing. -/
structure Opens (before : Octets) (o : Owed) : Prop where
  owes : 1 ≤ o.rest
  least : 0x80 ≤ o.low.toNat
  most : o.high.toNat ≤ 0xBF
  begins : ∀ v, v / 64 ^ o.rest = o.bits → o.low.toNat ≤ v / 64 ^ (o.rest - 1) % 64 + 0x80 →
    v / 64 ^ (o.rest - 1) % 64 + 0x80 ≤ o.high.toNat →
      String.utf8EncodeChar (Char.ofNat v) = before ++ continuation o.rest v

theorem opens_two {bits : Nat} (hleast : 2 ≤ bits) (hmost : bits < 0x20) :
    Opens [UInt8.ofNat (bits + 0xC0)] ⟨bits, 1, 0x80, 0xBF⟩ where
  owes := Nat.le_refl 1
  least := by simp
  most := by simp
  begins v hbits hlow hhigh := by
    simp only [Nat.pow_one] at hbits
    rw [encodeChar_two (by omega) (by omega), hbits]
    rfl

/-- The bounds leave out the characters that need fewer bytes, and the surrogates. -/
theorem opens_three {bits : Nat} {low high : UInt8} (hbound : bits < 0x10)
    (hlow : (if bits = 0 then 0xA0 else 0x80) ≤ low.toNat)
    (hhigh : high.toNat ≤ if bits = 0xD then 0x9F else 0xBF) :
    Opens [UInt8.ofNat (bits + 0xE0)] ⟨bits, 2, low, high⟩ where
  owes := by simp
  least := by split_ifs at hlow <;> simp only <;> omega
  most := by split_ifs at hhigh <;> simp only <;> omega
  begins v hbits hleast hmost := by
    norm_num at hbits hleast hmost
    have hvalid : 0x800 ≤ v ∧ v < 0x10000 ∧ (v < 0xD800 ∨ 0xDFFF < v) := by
      split_ifs at hlow hhigh <;> omega
    rw [encodeChar_three hvalid.1 hvalid.2.1 hvalid.2.2, hbits]
    rfl

/-- The bounds leave out the characters that need fewer bytes, and what is behind the last one. -/
theorem opens_four {bits : Nat} {low high : UInt8} (hbound : bits < 5)
    (hlow : (if bits = 0 then 0x90 else 0x80) ≤ low.toNat)
    (hhigh : high.toNat ≤ if bits = 4 then 0x8F else 0xBF) :
    Opens [UInt8.ofNat (bits + 0xF0)] ⟨bits, 3, low, high⟩ where
  owes := by simp
  least := by split_ifs at hlow <;> simp only <;> omega
  most := by split_ifs at hhigh <;> simp only <;> omega
  begins v hbits hleast hmost := by
    norm_num at hbits hleast hmost
    have hvalid : 0x10000 ≤ v ∧ v < 0x110000 := by
      split_ifs at hlow hhigh <;> omega
    rw [encodeChar_four hvalid.1 hvalid.2, hbits]
    rfl

theorem opens_start {b : UInt8} {o : Owed} (h : start b = .owed o) : Opens [b] o := by
  have hn : b.toNat < 256 := b.toNat_lt
  have hb : b = UInt8.ofNat b.toNat := UInt8.ofNat_toNat.symm
  generalize b.toNat = n at hn hb
  subst hb
  rw [start_ofNat hn] at h
  have hbehind {base : Nat} (hbase : base ≤ n) : n = n - base + base := by omega
  split at h
  · cases h
  split at h
  · cases h
  split at h
  · rw [← Step.owed.inj h, hbehind (show 0xC0 ≤ n by omega), Nat.add_sub_cancel]
    exact opens_two (by omega) (by omega)
  split at h
  · rename_i hE0
    rw [← Step.owed.inj h, hE0]
    exact opens_three (by decide) (by decide) (by decide)
  split at h
  · rename_i hED
    rw [← Step.owed.inj h, hED]
    exact opens_three (by decide) (by decide) (by decide)
  split at h
  · rw [← Step.owed.inj h, hbehind (show 0xE0 ≤ n by omega), Nat.add_sub_cancel]
    exact opens_three (by omega) (by rw [if_neg (by omega)]; decide)
      (by rw [if_neg (by omega)]; decide)
  split at h
  · rename_i hF0
    rw [← Step.owed.inj h, hF0]
    exact opens_four (by decide) (by decide) (by decide)
  split at h
  · rw [← Step.owed.inj h, hbehind (show 0xF0 ≤ n by omega), Nat.add_sub_cancel]
    exact opens_four (by omega) (by rw [if_neg (by omega)]; decide)
      (by rw [if_neg (by omega)]; decide)
  split at h
  · rename_i hF4
    rw [← Step.owed.inj h, hF4]
    exact opens_four (by decide) (by decide) (by decide)
  · cases h

namespace Opens

variable {before : Octets} {o : Owed} {b : UInt8}

/-- A byte that continues (`h`) stands between the bounds and brings six bits, the last ones if no
more bytes are owed. -/
theorem of_continue? {step : Step} (h : continue? o b = some step) :
    (o.low.toNat ≤ b.toNat ∧ b.toNat ≤ o.high.toNat) ∧
      step = if o.rest ≤ 1 then .scalar (Char.ofNat (o.bits * 64 + (b.toNat - 0x80)))
        else .owed ⟨o.bits * 64 + (b.toNat - 0x80), o.rest - 1, 0x80, 0xBF⟩ := by
  unfold continue? at h
  split_ifs at h with hout hlast
  · simp only [UInt8.lt_iff_toNat_lt, Bool.or_eq_true, decide_eq_true_eq, not_or, not_lt] at hout
    rw [if_pos hlast]
    exact ⟨hout, (Option.some.inj h).symm⟩
  · simp only [UInt8.lt_iff_toNat_lt, Bool.or_eq_true, decide_eq_true_eq, not_or, not_lt] at hout
    rw [if_neg hlast]
    exact ⟨hout, (Option.some.inj h).symm⟩

theorem continue? {o' : Owed} (h : Opens before o) (hstep : Utf8.continue? o b = some (.owed o')) :
    Opens (before ++ [b]) o' := by
  obtain ⟨⟨hlow, hhigh⟩, ho'⟩ := of_continue? hstep
  split_ifs at ho' with hlast
  rw [Step.owed.inj ho']
  have hleast := h.least
  have hmost := h.most
  obtain ⟨more, hmore⟩ : ∃ more, o.rest = more + 1 := ⟨o.rest - 1, by omega⟩
  refine ⟨by dsimp only; omega, by simp, by simp, fun v hbits _ _ ↦ ?_⟩
  have hbegins := h.begins v
  simp only [hmore, Nat.add_sub_cancel] at hbits hbegins ⊢
  have hdigit : v / 64 ^ more % 64 + 0x80 = b.toNat := by omega
  have hbefore : v / 64 ^ (more + 1) = o.bits := by
    rw [Nat.pow_succ, ← Nat.div_div_eq_div_mul, hbits]
    omega
  rw [hdigit] at hbegins
  rw [hbegins hbefore hlow hhigh, continuation, hdigit, UInt8.ofNat_toNat, List.append_assoc]
  rfl

theorem close {c : Char} (h : Opens before o) (hstep : Utf8.continue? o b = some (.scalar c)) :
    String.utf8EncodeChar c = before ++ [b] := by
  obtain ⟨⟨hlow, hhigh⟩, hc⟩ := of_continue? hstep
  split_ifs at hc with hlast
  rw [Step.scalar.inj hc]
  have howes := h.owes
  have hleast := h.least
  have hmost := h.most
  have hbegins := h.begins (o.bits * 64 + (b.toNat - 0x80))
  rw [show o.rest = 1 by omega] at hbegins
  rw [hbegins (by omega) (by simp; omega) (by simp; omega)]
  have hbyte : (o.bits * 64 + (b.toNat - 0x80)) % 64 + 0x80 = b.toNat := by omega
  simp only [continuation, Nat.pow_zero, Nat.div_one, hbyte, UInt8.ofNat_toNat]

end Opens

/-! ### Byte strings -/

/-- Whether bytes are what the state of a scan stands for: none at a boundary, the first ones of a
character otherwise. -/
def Begun (before : Octets) : Option Owed → Prop
  | none => before = []
  | some o => Opens before o

/-- A scan without garbage (`hsound`) reads the characters whose bytes it was given, those before
its start included (`hbegun`). -/
theorem encode_scan {before bytes : Octets} {owed? : Option Owed} (hbegun : Begun before owed?)
    (hsound : .garbage ∉ scan owed? bytes) :
    (leadingScalars (scan owed? bytes)).flatMap String.utf8EncodeChar = before ++ bytes := by
  have hnone : Begun [] none := rfl
  induction bytes generalizing before owed? with
  | nil =>
    cases owed? with
    | none =>
      rw [show before = [] from hbegun]
      rfl
    | some o => simp [scan] at hsound
  | cons b bytes ih =>
    cases owed? with
    | none =>
      rw [show before = [] from hbegun]
      rw [scan] at hsound ⊢
      cases hstart : start b with
      | scalar c =>
        simp only [hstart, List.mem_cons, reduceCtorEq, false_or] at hsound
        rw [leadingScalars, List.flatMap_cons, encodeChar_of_start hstart,
          ih hnone hsound]
        rfl
      | owed o =>
        rw [hstart] at hsound
        exact ih (show Begun [b] (some o) from opens_start hstart) hsound
      | garbage => simp [hstart] at hsound
    | some o =>
      rw [scan] at hsound ⊢
      cases hstep : continue? o b with
      | none => simp [hstep] at hsound
      | some step =>
        cases step with
        | scalar c =>
          simp only [hstep, List.mem_cons, reduceCtorEq, false_or] at hsound
          rw [leadingScalars, List.flatMap_cons, Opens.close hbegun hstep,
            ih hnone hsound, List.append_assoc]
          rfl
        | owed next =>
          rw [hstep] at hsound
          rw [List.append_cons]
          exact ih (show Begun (before ++ [b]) (some next) from hbegun.continue? hstep) hsound
        | garbage => simp [hstep] at hsound

/-- A byte string that is read as a text (`h`) is the UTF-8 of that text. -/
theorem encode_of_decode? {bytes : Octets} {text : String} (h : decode? bytes = some text) :
    encode text = bytes := by
  unfold decode? at h
  simp only at h
  split_ifs at h with hgarbage
  rw [← Option.some.inj h, encode, String.toList_ofList]
  exact encode_scan (show Begun [] none from rfl) (by simpa [pieces] using hgarbage)

/-- Strict decoding takes the UTF-8 of texts, and nothing else. -/
theorem decode?_eq_some_iff {bytes : Octets} {text : String} :
    decode? bytes = some text ↔ encode text = bytes := by
  refine ⟨encode_of_decode?, ?_⟩
  rintro rfl
  exact decode?_encode text

/-- Lossy decoding keeps exactly the UTF-8 of texts: where anything else was decoded, encoding does
not give it back. -/
theorem encode_decodeLossy_eq_iff {bytes : Octets} :
    encode (decodeLossy bytes) = bytes ↔ ∃ text, encode text = bytes := by
  refine ⟨fun h ↦ ⟨_, h⟩, ?_⟩
  rintro ⟨text, rfl⟩
  rw [decodeLossy_encode]

end BulkJobs.Utf8
