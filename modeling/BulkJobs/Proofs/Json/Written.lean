import BulkJobs.Json.Writer
import BulkJobs.Proofs.Json.Spelling
import BulkJobs.Proofs.Json.Value
import BulkJobs.Proofs.Text.Coding

/-!
# Written JSON is read back

A text is written character by character: those that would end or break a string are escaped, and
whatever is written for a character spells the bytes of that character (`spellsParts_escapeChar`).
So a written text spells the text, whatever characters it holds, and an object whose members are in
the order of their keys is read back if the values of its members are (`ReadsBack.object`).
-/

set_option autoImplicit false
set_option relaxedAutoImplicit false

namespace BulkJobs.Json

/-! ### Texts -/

section Parts

variable {parts : List StringPart} {text bytes : Octets}

/-- Bytes that are no quotes, no backslashes and no control characters (`hbytes`) spell themselves
in a string. -/
theorem spellsParts_bytes (hbytes : ∀ b ∈ bytes, b ≠ 0x22 ∧ b ≠ 0x5C ∧ ¬b < 0x20)
    (h : SpellsParts parts text) :
    SpellsParts (bytes.map .byte ++ parts) (bytes ++ text) := by
  induction bytes with
  | nil => exact h
  | cons b bytes ih =>
    obtain ⟨⟨hquote, hbackslash, hcontrol⟩, hrest⟩ := List.forall_mem_cons.mp hbytes
    exact .plain hquote hbackslash hcontrol (ih hrest)

theorem partBytes?_bytes (bytes : Octets) (parts : List StringPart) :
    partBytes? (bytes.map .byte ++ parts) = (partBytes? parts).map (bytes ++ ·) := by
  induction bytes with
  | nil => simp
  | cons b bytes ih =>
    rw [List.map_cons, List.cons_append, partBytes?, ih, Option.map_map]
    rfl

/-- A letter behind a backslash spells the character whose byte it stands for (`hletter`), with the
mark and the letter as they are written (`hmark`). -/
theorem spellsParts_letter (b : UInt8) {c mark letter : Char} (hc : String.utf8EncodeChar c = [b])
    (hmark : [mark, letter].flatMap String.utf8EncodeChar = [0x5C, UInt8.ofNat letter.toNat])
    (hletter : escapedByte? (UInt8.ofNat letter.toNat) = some b) (h : SpellsParts parts text) :
    ∃ parts', SpellsParts parts' ([mark, letter].flatMap String.utf8EncodeChar ++ text) ∧
      partBytes? parts' = (partBytes? parts).map (String.utf8EncodeChar c ++ ·) := by
  rw [hmark, hc]
  exact ⟨.byte b :: parts, .escaped hletter h, rfl⟩

/-- A control character (`hc`) is spelled by its code unit, in four hexadecimal digits. -/
theorem spellsParts_unit {c : Char} (hc : c.toNat < 0x20) (h : SpellsParts parts text) :
    ∃ parts', SpellsParts parts' (['\\', 'u', '0', '0', Text.lowerHexDigit (c.toNat / 16),
        Text.lowerHexDigit (c.toNat % 16)].flatMap String.utf8EncodeChar ++ text) ∧
      partBytes? parts' = (partBytes? parts).map (String.utf8EncodeChar c ++ ·) := by
  have hdigits : ∀ n < 0x20, ['\\', 'u', '0', '0', Text.lowerHexDigit (n / 16),
      Text.lowerHexDigit (n % 16)].flatMap String.utf8EncodeChar =
        [0x5C, 0x75, 0x30, 0x30, UInt8.ofNat (Text.lowerHexDigit (n / 16)).toNat,
          UInt8.ofNat (Text.lowerHexDigit (n % 16)).toNat] ∧
      codeUnit? 0x30 0x30 (UInt8.ofNat (Text.lowerHexDigit (n / 16)).toNat)
        (UInt8.ofNat (Text.lowerHexDigit (n % 16)).toNat) = some n := by
    decide +kernel
  obtain ⟨hbytes, hunit⟩ := hdigits c.toNat hc
  have hlow : (0xD800 ≤ c.toNat && c.toNat < 0xDC00) = false := by simpa using by omega
  have hhigh : (0xDC00 ≤ c.toNat && c.toNat < 0xE000) = false := by simpa using by omega
  rw [hbytes]
  refine ⟨.unit c.toNat :: parts, .unit hunit h, ?_⟩
  rw [partBytes?.eq_def]
  simp only [hlow, hhigh, Bool.false_eq_true, if_false, Char.ofNat_toNat]

/-- What `escapeChar` writes for a character spells the bytes of the character. -/
theorem spellsParts_escapeChar (c : Char) (h : SpellsParts parts text) :
    ∃ parts', SpellsParts parts' ((escapeChar c).flatMap String.utf8EncodeChar ++ text) ∧
      partBytes? parts' = (partBytes? parts).map (String.utf8EncodeChar c ++ ·) := by
  unfold escapeChar
  split_ifs with hquote hbackslash hfeed hreturn htab hbackspace hform hcontrol
  · obtain rfl := beq_iff_eq.mp hquote
    exact spellsParts_letter 0x22 (by decide) (by decide) (by decide) h
  · obtain rfl := beq_iff_eq.mp hbackslash
    exact spellsParts_letter 0x5C (by decide) (by decide) (by decide) h
  · obtain rfl := beq_iff_eq.mp hfeed
    exact spellsParts_letter 0x0A (by decide) (by decide) (by decide) h
  · obtain rfl := beq_iff_eq.mp hreturn
    exact spellsParts_letter 0x0D (by decide) (by decide) (by decide) h
  · obtain rfl := beq_iff_eq.mp htab
    exact spellsParts_letter 0x09 (by decide) (by decide) (by decide) h
  · obtain rfl : c = '\x08' := Char.toNat_inj.mp (beq_iff_eq.mp hbackspace)
    exact spellsParts_letter 0x08 (by decide) (by decide) (by decide) h
  · obtain rfl : c = '\x0C' := Char.toNat_inj.mp (beq_iff_eq.mp hform)
    exact spellsParts_letter 0x0C (by decide) (by decide) (by decide) h
  · exact spellsParts_unit hcontrol h
  · have hplain : ∀ b ∈ String.utf8EncodeChar c, b ≠ 0x22 ∧ b ≠ 0x5C ∧ ¬b < 0x20 := by
      intro b hb
      have hchar (hascii : b < 0x80) : c = Char.ofNat b.toNat :=
        Percent.eq_ofNat_of_mem_utf8EncodeChar hb hascii
      refine ⟨?_, ?_, fun hlow ↦ ?_⟩
      · rintro rfl
        exact hquote (beq_iff_eq.mpr (hchar (by decide)))
      · rintro rfl
        exact hbackslash (beq_iff_eq.mpr (hchar (by decide)))
      · have hsmall : ∀ n < 0x20, (Char.ofNat n).toNat < 0x20 := by decide
        rw [hchar (UInt8.lt_trans hlow (by decide))] at hcontrol
        exact hcontrol (hsmall b.toNat (UInt8.lt_iff_toNat_lt.mp hlow))
    rw [List.flatMap_singleton, ← partBytes?_bytes]
    exact ⟨_, spellsParts_bytes hplain h, rfl⟩

/-- What is written for a text, character by character, spells the text. The induction is on the
text. -/
theorem exists_spellsParts (text : List Char) : ∃ parts,
    SpellsParts parts ((text.flatMap escapeChar).flatMap String.utf8EncodeChar) ∧
      partBytes? parts = some (text.flatMap String.utf8EncodeChar) := by
  induction text with
  | nil => exact ⟨[], .nil, rfl⟩
  | cons c text ih =>
    obtain ⟨parts, hspells, hbytes⟩ := ih
    obtain ⟨parts', hspells', hbytes'⟩ := spellsParts_escapeChar c hspells
    refine ⟨parts', ?_, ?_⟩
    · rw [List.flatMap_cons, List.flatMap_append]
      exact hspells'
    · rw [hbytes', hbytes]
      rfl

end Parts

theorem spells_writeText (text : String) :
    Spells (.value (.text (some text))) ((writeText text).flatMap String.utf8EncodeChar) := by
  obtain ⟨parts, hspells, hbytes⟩ := exists_spellsParts text.toList
  have hvalue : (partBytes? parts).bind Utf8.decode? = some text := by
    rw [hbytes]
    exact Utf8.decode?_encode text
  have hquote : String.utf8EncodeChar '"' = [0x22] := by decide
  have hspelled := Spells.text hspells
  rw [hvalue] at hspelled
  simpa [writeText, hquote] using hspelled

/-! ### Objects -/

/-- Whether the compact text of a value spells a tree that denotes the value again. -/
structure ReadsBack (value : Json) : Prop where
  spelled : Spells (.value value.tree) (value.write.flatMap String.utf8EncodeChar)
  denoted : value.tree.value? = some value

theorem ReadsBack.text (text : String) : ReadsBack (.text text) where
  spelled := spells_writeText text
  denoted := rfl

theorem Spells.bare {tree : Tree} {text : Octets} (h : Spells (.value tree) text) :
    Spells (.spaced tree) text := by
  have hnone : IsSpacing [] := fun _ hb ↦ absurd hb List.not_mem_nil
  simpa using Spells.spaced hnone hnone h

/-- Members whose values read back (`hvalues`, `hvalue`), written one after another, are spelled up
to the closing brace. -/
theorem exists_spells_members {members : List (String × Json)}
    (hvalues : ∀ member ∈ members, ReadsBack member.2) (key : String) {value : Json}
    (hvalue : ReadsBack value) : ∃ text,
      Spells (.members (treeMembers ((key, value) :: members))) text ∧
      (writeText key ++ ':' :: value.write ++ writeMembers members).flatMap
        String.utf8EncodeChar = text ++ [0x7D] := by
  have hcolon : String.utf8EncodeChar ':' = [0x3A] := by decide
  induction members generalizing key value with
  | nil =>
    have hbrace : String.utf8EncodeChar '\x7d' = [0x7D] := by decide
    refine ⟨_, .member (spells_writeText key).bare hvalue.spelled.bare, ?_⟩
    simp [writeMembers, hcolon, hbrace]
  | cons member members ih =>
    obtain ⟨next, held⟩ := member
    obtain ⟨hfirst, hrest⟩ := List.forall_mem_cons.mp hvalues
    obtain ⟨text, hspells, htext⟩ := ih hrest next hfirst
    have hcomma : String.utf8EncodeChar ',' = [0x2C] := by decide
    refine ⟨_, .moreMembers (spells_writeText key).bare hvalue.spelled.bare hspells, ?_⟩
    have hsplit : (writeText key ++ ':' :: value.write ++
        writeMembers ((next, held) :: members)) = writeText key ++ ':' :: value.write ++
          ',' :: (writeText next ++ ':' :: held.write ++ writeMembers members) := by
      simp [writeMembers]
    rw [hsplit, List.flatMap_append, List.flatMap_cons, htext]
    simp [hcolon, hcomma]

theorem valueMembers?_treeMembers {members : List (String × Json)}
    (hvalues : ∀ member ∈ members, ReadsBack member.2) :
    Tree.valueMembers? (treeMembers members) = some members := by
  induction members with
  | nil => rfl
  | cons member members ih =>
    obtain ⟨hfirst, hrest⟩ := List.forall_mem_cons.mp hvalues
    obtain ⟨key, value⟩ := member
    simp only [treeMembers, Tree.valueMembers?, hfirst.denoted, ih hrest]

theorem insertMember_of_forall_lt {members : List (String × Json)} {key : String} (value : Json)
    (hlast : ∀ member ∈ members, member.1 < key) :
    insertMember key value members = members ++ [(key, value)] := by
  induction members with
  | nil => rfl
  | cons member members ih =>
    obtain ⟨hfirst, hrest⟩ := List.forall_mem_cons.mp hlast
    obtain ⟨other, held⟩ := member
    rw [insertMember, if_neg (by simpa using hfirst.ne'), if_neg (not_lt_of_gt hfirst), ih hrest]
    rfl

/-- Members that are in the order of their keys (`hmembers`) stay as they are when they are put into
that order. -/
theorem inKeyOrder_of_pairwise {members : List (String × Json)}
    (hmembers : members.Pairwise (·.1 < ·.1)) : inKeyOrder members = members := by
  induction members using List.reverseRecOn with
  | nil => rfl
  | append_singleton members member ih =>
    obtain ⟨hearlier, -, hlast⟩ := List.pairwise_append.mp hmembers
    rw [inKeyOrder_concat, ih hearlier]
    exact insertMember_of_forall_lt _ fun other hother ↦
      hlast other hother member List.mem_cons_self

/-- An object reads back if the values of its members do (`hvalues`) and the members are in the
order of their keys (`hmembers`). -/
theorem ReadsBack.object {members : List (String × Json)}
    (hvalues : ∀ member ∈ members, ReadsBack member.2)
    (hmembers : members.Pairwise (·.1 < ·.1)) : ReadsBack (.object members) where
  spelled := by
    have hopen : String.utf8EncodeChar '\x7b' = [0x7B] := by decide
    have hclose : String.utf8EncodeChar '\x7d' = [0x7D] := by decide
    cases members with
    | nil =>
      have hnone : IsSpacing [] := fun _ hb ↦ absurd hb List.not_mem_nil
      simpa [write, hopen, hclose, tree, treeMembers] using Spells.emptyObject hnone
    | cons member members =>
      obtain ⟨hfirst, hrest⟩ := List.forall_mem_cons.mp hvalues
      obtain ⟨text, hspells, htext⟩ := exists_spells_members hrest member.1 hfirst
      have hwritten : (write (.object (member :: members))).flatMap String.utf8EncodeChar =
          0x7B :: (text ++ [0x7D]) := by
        rw [← htext, write, List.cons_append, List.cons_append, List.flatMap_cons, hopen]
        rfl
      rw [hwritten]
      exact .object hspells
  denoted := by
    rw [tree, Tree.value?, valueMembers?_treeMembers hvalues]
    exact congrArg (fun members ↦ some (Json.object members)) (inKeyOrder_of_pairwise hmembers)

/-- The compact text of a value that reads back is JSON for that value. -/
theorem ReadsBack.parse? {value : Json} (h : ReadsBack value) :
    parse? (Utf8.encode value.compact) = some value := by
  have htext : Utf8.encode value.compact = value.write.flatMap String.utf8EncodeChar := by
    rw [Utf8.encode, compact, String.toList_ofList]
  obtain ⟨hread, -⟩ := read_eq_iff.mpr h.spelled.bare
  rw [htext, Json.parse?, hread]
  exact h.denoted

end BulkJobs.Json
