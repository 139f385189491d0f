import BulkJobs.Json.Reader
import BulkJobs.Proofs.Json.Token

/-!
# How JSON is spelled

The grammar of JSON texts, and that the reader follows it. A tree is spelled by the bytes of its
tokens in order, with any white space between them (`Spells`); only sound trees are. What the reader
takes for a sound tree was spelled so (`takesSpelled`), and it reads whatever is spelled
(`Spells.isRead`): it has steps enough, since every step is paid for by a byte, and a value ends
where its text does, since nothing that stands behind a value goes on with a number. So a text reads
as a sound tree to its end exactly when it spells the tree (`read_eq_iff`).
-/

set_option autoImplicit false
set_option relaxedAutoImplicit false

namespace BulkJobs.Json

/-! ### The grammar -/

/-- Whether a text is white space only, which may stand around any value and means nothing there. -/
def IsSpacing (text : Octets) : Prop :=
  ∀ b ∈ text, isSpace b = true

/-- What a part of a JSON text spells: a value, a value with white space around it, the items of a
list, or the members of an object. -/
inductive Piece where
  | value (tree : Tree)
  | spaced (tree : Tree)
  | items (items : List Tree)
  | members (members : List (Tree × Tree))

/-- How a `Piece` is spelled: the grammar of JSON over bytes, which says nothing of how a text is
read. -/
inductive Spells : Piece → Octets → Prop where
  | null : Spells (.value .null) [0x6E, 0x75, 0x6C, 0x6C]
  | yes : Spells (.value (.bool true)) [0x74, 0x72, 0x75, 0x65]
  | no : Spells (.value (.bool false)) [0x66, 0x61, 0x6C, 0x73, 0x65]
  | number {numeral : Numeral} {text : Octets} : SpellsNumeral numeral text →
      Spells (.value (.number numeral.number?)) text
  | text {parts : List StringPart} {text : Octets} : SpellsParts parts text →
      Spells (.value (.text ((partBytes? parts).bind Utf8.decode?))) (0x22 :: (text ++ [0x22]))
  | emptyList {text : Octets} : IsSpacing text →
      Spells (.value (.list [] true)) (0x5B :: (text ++ [0x5D]))
  | list {items : List Tree} {text : Octets} : Spells (.items items) text →
      Spells (.value (.list items true)) (0x5B :: (text ++ [0x5D]))
  | emptyObject {text : Octets} : IsSpacing text →
      Spells (.value (.object [] true)) (0x7B :: (text ++ [0x7D]))
  | object {members : List (Tree × Tree)} {text : Octets} : Spells (.members members) text →
      Spells (.value (.object members true)) (0x7B :: (text ++ [0x7D]))
  | spaced {tree : Tree} {front text back : Octets} : IsSpacing front → IsSpacing back →
      Spells (.value tree) text → Spells (.spaced tree) (front ++ (text ++ back))
  | item {tree : Tree} {text : Octets} : Spells (.spaced tree) text → Spells (.items [tree]) text
  | moreItems {tree : Tree} {items : List Tree} {text rest : Octets} : Spells (.spaced tree) text →
      Spells (.items items) rest → Spells (.items (tree :: items)) (text ++ 0x2C :: rest)
  | member {name : Option String} {value : Tree} {key text : Octets} :
      Spells (.spaced (.text name)) key → Spells (.spaced value) text →
      Spells (.members [(.text name, value)]) (key ++ 0x3A :: text)
  | moreMembers {name : Option String} {value : Tree} {members : List (Tree × Tree)}
      {key text rest : Octets} :
      Spells (.spaced (.text name)) key → Spells (.spaced value) text →
      Spells (.members members) rest →
      Spells (.members ((.text name, value) :: members)) (key ++ 0x3A :: (text ++ 0x2C :: rest))

/-! ### White space -/

theorem exists_skipSpace (input : Octets) : ∃ front, IsSpacing front ∧
    input = front ++ skipSpace input :=
  ⟨input.takeWhile isSpace, fun _ hb ↦ List.mem_takeWhile_imp hb,
    List.takeWhile_append_dropWhile.symm⟩

theorem isSpace_iff {b : UInt8} : isSpace b = true ↔ b = 0x20 ∨ b = 0x0A ∨ b = 0x0D ∨ b = 0x09 := by
  simp [isSpace, or_assoc]

theorem isSpace_of_isDigit {b : UInt8} (hb : isDigit b = true) : isSpace b = false := by
  by_contra hspace
  rcases isSpace_iff.mp (Bool.not_eq_false _ ▸ hspace) with rfl | rfl | rfl | rfl <;> cases hb

theorem skipSpace_append {front : Octets} (hfront : IsSpacing front) (rest : Octets) :
    skipSpace (front ++ rest) = skipSpace rest :=
  List.dropWhile_append_of_pos hfront

theorem skipSpace_cons {b : UInt8} (hb : isSpace b = false) (rest : Octets) :
    skipSpace (b :: rest) = b :: rest :=
  List.dropWhile_cons_of_neg (by rw [hb]; decide)

@[simp] theorem skipSpace_skipSpace (input : Octets) :
    skipSpace (skipSpace input) = skipSpace input := by
  refine List.dropWhile_eq_self_iff.mpr fun hlength ↦ ?_
  exact List.dropWhile_get_zero_not isSpace input hlength

theorem readValue_skipSpace (steps : Nat) (input : Octets) :
    readValue steps (skipSpace input) = readValue steps input := by
  cases steps with
  | zero => rfl
  | succ steps => rw [readValue, readValue, skipSpace_skipSpace]

theorem readItems_skipSpace (steps : Nat) (input : Octets) :
    readItems steps (skipSpace input) = readItems steps input := by
  cases steps with
  | zero => rfl
  | succ steps => rw [readItems, readItems, readValue_skipSpace]

theorem readMembers_skipSpace (steps : Nat) (input : Octets) :
    readMembers steps (skipSpace input) = readMembers steps input := by
  cases steps with
  | zero => rfl
  | succ steps => rw [readMembers, readMembers, readValue_skipSpace]

/-! ### What the reader takes -/

theorem eq_append_of_afterWord? {word input rest : Octets} (h : afterWord? word input = some rest) :
    input = word ++ rest := by
  rw [afterWord?] at h
  split_ifs at h with hprefix
  cases h
  exact (List.prefix_iff_eq_append.mp (List.isPrefixOf_iff_prefix.mp hprefix)).symm

/-- What `readScalar` reads as a sound scalar (`hread`, `hsound`) is spelled by what it took from
the input. -/
theorem spells_of_readScalar {input rest : Octets} {tree : Tree}
    (hread : readScalar input = (tree, rest)) (hsound : tree.isSound = true) :
    ∃ text, Spells (.value tree) text ∧ input = text ++ rest := by
  have hcut : ¬(Tree.cut, ([] : Octets)) = (tree, rest) := by
    rintro hcut
    cases hcut
    cases hsound
  unfold readScalar at hread
  split at hread
  · exact absurd hread hcut
  next b behind =>
  split_ifs at hread with hquote hnumber
  · cases hstring : readString behind with
    | none =>
      rw [hstring] at hread
      exact absurd hread hcut
    | some result =>
      rw [hstring] at hread
      cases hread
      obtain ⟨⟨parts, after⟩, hparts, hresult⟩ := Option.bind_eq_some_iff.mp hstring
      cases hresult
      obtain ⟨text, hspells, rfl⟩ := spells_of_readParts hparts
      rw [beq_iff_eq.mp hquote]
      exact ⟨_, .text hspells, by simp⟩
  · cases hread' : readNumber (b :: behind) with
    | none =>
      rw [hread'] at hread
      exact absurd hread hcut
    | some result =>
      rw [hread'] at hread
      cases hread
      obtain ⟨⟨numeral, after⟩, hnumeral, hresult⟩ := Option.bind_eq_some_iff.mp hread'
      cases hresult
      obtain ⟨text, hspells, hinput⟩ := spells_of_readNumeral hnumeral
      exact ⟨_, .number hspells, hinput⟩
  · split at hread
    · next hword =>
      cases hread
      exact ⟨_, .null, eq_append_of_afterWord? hword⟩
    split at hread
    · next hword =>
      cases hread
      exact ⟨_, .yes, eq_append_of_afterWord? hword⟩
    split at hread
    · next hword =>
      cases hread
      exact ⟨_, .no, eq_append_of_afterWord? hword⟩
    · exact absurd hread hcut

/-- Whether the reader takes only what is spelled, in a given number of steps: one part for each of
its functions. -/
structure TakesSpelled (steps : Nat) : Prop where
  value : ∀ {input rest : Octets} {tree : Tree}, readValue steps input = (tree, rest) →
    tree.isSound = true → ∃ front text, IsSpacing front ∧ Spells (.value tree) text ∧
      input = front ++ (text ++ rest)
  items : ∀ {input rest : Octets} {items : List Tree}, readItems steps input = (items, true, rest) →
    ∃ text, Spells (.items items) text ∧ input = text ++ 0x5D :: rest
  members : ∀ {input rest : Octets} {members : List (Tree × Tree)},
    readMembers steps input = (members, true, rest) →
      ∃ text, Spells (.members members) text ∧ input = text ++ 0x7D :: rest

namespace TakesSpelled

variable {steps : Nat} {input rest : Octets}

theorem zero : TakesSpelled 0 where
  value hread hsound := by
    cases hread
    cases hsound
  items hread := by cases hread
  members hread := by cases hread

/-- White space behind a value that was read (`hread`) belongs to it, as a value with white space
around it. -/
theorem spaced (h : TakesSpelled steps) {tree : Tree} {behind : Octets} {b : UInt8}
    (hread : readValue steps input = (tree, behind)) (hsound : tree.isSound = true)
    (hnext : skipSpace behind = b :: rest) :
    ∃ text, Spells (.spaced tree) text ∧ input = text ++ b :: rest := by
  obtain ⟨front, text, hfront, hspells, rfl⟩ := h.value hread hsound
  obtain ⟨back, hback, hbehind⟩ := exists_skipSpace behind
  rw [hbehind, hnext]
  exact ⟨_, .spaced hfront hback hspells, by simp⟩

theorem value_succ (h : TakesSpelled steps) {tree : Tree}
    (hread : readValue (steps + 1) input = (tree, rest)) (hsound : tree.isSound = true) :
    ∃ front text, IsSpacing front ∧ Spells (.value tree) text ∧
      input = front ++ (text ++ rest) := by
  obtain ⟨front, hfront, hinput⟩ := exists_skipSpace input
  rw [hinput]
  suffices htext : ∃ text, Spells (.value tree) text ∧ skipSpace input = text ++ rest by
    obtain ⟨text, hspells, hskip⟩ := htext
    exact ⟨front, text, hfront, hspells, by rw [hskip]⟩
  rw [readValue] at hread
  split at hread
  · next behind hlist =>
    rw [hlist]
    obtain ⟨inner, hinner, hbehind⟩ := exists_skipSpace behind
    split at hread
    · next after hclosed =>
      cases hread
      rw [hbehind, hclosed]
      exact ⟨_, .emptyList hinner, by simp⟩
    · rw [readItems_skipSpace] at hread
      cases hitems : readItems steps behind with
      | mk items result =>
        obtain ⟨complete, after⟩ := result
        rw [hitems] at hread
        cases hread
        obtain rfl : complete = true := hsound
        obtain ⟨text, hspells, rfl⟩ := h.items hitems
        exact ⟨_, .list hspells, by simp⟩
  · next behind hobject =>
    rw [hobject]
    obtain ⟨inner, hinner, hbehind⟩ := exists_skipSpace behind
    split at hread
    · next after hclosed =>
      cases hread
      rw [hbehind, hclosed]
      exact ⟨_, .emptyObject hinner, by simp⟩
    · rw [readMembers_skipSpace] at hread
      cases hmembers : readMembers steps behind with
      | mk members result =>
        obtain ⟨complete, after⟩ := result
        rw [hmembers] at hread
        cases hread
        obtain rfl : complete = true := hsound
        obtain ⟨text, hspells, rfl⟩ := h.members hmembers
        exact ⟨_, .object hspells, by simp⟩
  · exact spells_of_readScalar hread hsound

theorem items_succ (h : TakesSpelled steps) {items : List Tree}
    (hread : readItems (steps + 1) input = (items, true, rest)) :
    ∃ text, Spells (.items items) text ∧ input = text ++ 0x5D :: rest := by
  rw [readItems] at hread
  cases hvalue : readValue steps input with
  | mk item behind =>
    simp only [hvalue] at hread
    split_ifs at hread with hsound
    · cases hread
    have hsound : item.isSound = true := by simpa using hsound
    split at hread
    · next after hnext =>
      obtain ⟨text, hspells, rfl⟩ := h.spaced hvalue hsound hnext
      cases hmore : readItems steps after with
      | mk more result =>
        obtain ⟨complete, behind⟩ := result
        rw [hmore] at hread
        cases hread
        obtain ⟨rest, hrest, rfl⟩ := h.items hmore
        exact ⟨_, .moreItems hspells hrest, by simp⟩
    · next after hnext =>
      cases hread
      obtain ⟨text, hspells, rfl⟩ := h.spaced hvalue hsound hnext
      exact ⟨_, .item hspells, rfl⟩
    · cases hread

theorem members_succ (h : TakesSpelled steps) {members : List (Tree × Tree)}
    (hread : readMembers (steps + 1) input = (members, true, rest)) :
    ∃ text, Spells (.members members) text ∧ input = text ++ 0x7D :: rest := by
  rw [readMembers] at hread
  cases hkey : readValue steps input with
  | mk key behind =>
    simp only [hkey] at hread
    split at hread
    · next name after hcolon =>
      obtain ⟨keyText, hkeySpells, rfl⟩ := h.spaced hkey rfl hcolon
      cases hvalue : readValue steps after with
      | mk value behind =>
        simp only [hvalue] at hread
        split_ifs at hread with hsound
        · cases hread
        have hsound : value.isSound = true := by simpa using hsound
        split at hread
        · next after hnext =>
          obtain ⟨text, hspells, rfl⟩ := h.spaced hvalue hsound hnext
          cases hmore : readMembers steps after with
          | mk more result =>
            obtain ⟨complete, behind⟩ := result
            rw [hmore] at hread
            cases hread
            obtain ⟨rest, hrest, rfl⟩ := h.members hmore
            exact ⟨_, .moreMembers hkeySpells hspells hrest, by simp⟩
        · next after hnext =>
          cases hread
          obtain ⟨text, hspells, rfl⟩ := h.spaced hvalue hsound hnext
          exact ⟨_, .member hkeySpells hspells, by simp⟩
        · cases hread
    · cases hread

end TakesSpelled

/-- The reader takes only what is spelled, however many steps it has. The induction is on the
steps. -/
theorem takesSpelled (steps : Nat) : TakesSpelled steps := by
  induction steps with
  | zero => exact .zero
  | succ steps ih => exact ⟨ih.value_succ, ih.items_succ, ih.members_succ⟩

/-! ### What the reader reads -/

theorem Ends.cons {b : UInt8} {rest : Octets} (hb : isDigit b = false ∧ b ≠ 0x2E ∧ b ≠ 0x65 ∧
    b ≠ 0x45) : Ends (b :: rest) := by
  rintro _ ⟨⟩
  exact hb

/-- White space ends a value (`hback`), and where there is none, what is behind it does (`hrest`).
-/
theorem Ends.append {back rest : Octets} (hback : IsSpacing back) (hrest : Ends rest) :
    Ends (back ++ rest) := by
  cases back with
  | nil => exact hrest
  | cons b back =>
    refine Ends.cons ?_
    rcases isSpace_iff.mp (hback b List.mem_cons_self) with rfl | rfl | rfl | rfl <;> decide

namespace Spells

variable {tree : Tree} {text : Octets}

theorem isSound (h : Spells (.value tree) text) : tree.isSound = true := by
  cases h <;> rfl

/-- A value does not begin with white space, nor with a closing bracket. -/
theorem exists_cons (h : Spells (.value tree) text) : ∃ b more, text = b :: more ∧
    isSpace b = false ∧ b ≠ 0x5D ∧ b ≠ 0x7D := by
  cases h with
  | number hnumeral =>
    cases hnumeral with
    | @mk negative digits _ _ _ _ hdigits =>
      cases negative with
      | true => exact ⟨0x2D, _, rfl, by decide⟩
      | false =>
        obtain ⟨b, more, rfl⟩ := List.exists_cons_of_ne_nil hdigits.1
        have hb : isDigit b = true := hdigits.2 b List.mem_cons_self
        refine ⟨b, _, rfl, isSpace_of_isDigit hb, ?_, ?_⟩
        · rintro rfl
          cases hb
        · rintro rfl
          cases hb
  | _ => exact ⟨_, _, rfl, by decide⟩

/-- Whatever follows a value with white space around it, the first byte behind the white space is
one of its own, and no bracket that would end a list or an object. -/
theorem skipSpace_append (h : Spells (.spaced tree) text) (rest : Octets) : ∃ b more,
    skipSpace (text ++ rest) = b :: more ∧ b ≠ 0x5D ∧ b ≠ 0x7D := by
  cases h with
  | @spaced _ front _ back hfront _ hvalue =>
    obtain ⟨b, more, rfl, hspace, hother⟩ := hvalue.exists_cons
    refine ⟨b, more ++ back ++ rest, ?_, hother⟩
    rw [List.append_assoc, Json.skipSpace_append hfront, List.cons_append, List.cons_append,
      skipSpace_cons hspace]

theorem length_pos (h : Spells (.spaced tree) text) : 1 ≤ text.length := by
  cases h with
  | spaced _ _ hvalue =>
    obtain ⟨b, more, rfl, -⟩ := hvalue.exists_cons
    simp only [List.length_append, List.length_cons]
    omega

theorem isSound_spaced (h : Spells (.spaced tree) text) : tree.isSound = true := by
  cases h with
  | spaced _ _ hvalue => exact hvalue.isSound

theorem skipSpace_items {items : List Tree} (h : Spells (.items items) text) (rest : Octets) :
    ∃ b more, skipSpace (text ++ rest) = b :: more ∧ b ≠ 0x5D ∧ b ≠ 0x7D := by
  cases h with
  | item hvalue => exact hvalue.skipSpace_append rest
  | moreItems hvalue _ =>
    rw [List.append_assoc]
    exact hvalue.skipSpace_append _

theorem skipSpace_members {members : List (Tree × Tree)} (h : Spells (.members members) text)
    (rest : Octets) : ∃ b more, skipSpace (text ++ rest) = b :: more ∧ b ≠ 0x5D ∧ b ≠ 0x7D := by
  cases h with
  | member hkey _ =>
    rw [List.append_assoc]
    exact hkey.skipSpace_append _
  | moreMembers hkey _ _ =>
    rw [List.append_assoc]
    exact hkey.skipSpace_append _

end Spells

/-- Whether the reader reads a piece from its text, whatever ends the text (`Ends`). Each byte pays
for two steps: one for the value, item or member that begins with it, and one for the value in an
item or a member. -/
def Piece.IsRead (text : Octets) : Piece → Prop
  | .value tree => ∀ steps rest, 2 * text.length ≤ steps + 1 → Ends rest →
      readValue steps (text ++ rest) = (tree, rest)
  | .spaced tree => ∀ steps rest, 2 * text.length ≤ steps + 1 → Ends rest →
      ∃ behind, readValue steps (text ++ rest) = (tree, behind) ∧ skipSpace behind = skipSpace rest
  | .items trees => ∀ steps rest, 2 * text.length ≤ steps →
      readItems steps (text ++ 0x5D :: rest) = (trees, true, rest)
  | .members pairs => ∀ steps rest, 2 * text.length ≤ steps →
      readMembers steps (text ++ 0x7D :: rest) = (pairs, true, rest)

theorem readValue_scalar {b : UInt8} {more : Octets} {steps : Nat} (hspace : isSpace b = false)
    (hlist : b ≠ 0x5B) (hobject : b ≠ 0x7B) :
    readValue (steps + 1) (b :: more) = readScalar (b :: more) := by
  rw [readValue, skipSpace_cons hspace]
  split
  · next heq => exact absurd (List.cons.inj heq).1 hlist
  · next heq => exact absurd (List.cons.inj heq).1 hobject
  · rfl

theorem readScalar_number {numeral : Numeral} {text rest : Octets}
    (hspells : SpellsNumeral numeral text) (hrest : Ends rest) :
    readScalar (text ++ rest) = (.number numeral.number?, rest) := by
  have hread : readNumber (text ++ rest) = some (numeral.number?, rest) := by
    rw [readNumber, readNumeral_append hspells hrest]
    rfl
  obtain ⟨b, more, rfl, hb⟩ := hspells.exists_cons
  have hquote : b ≠ 0x22 := by
    rintro rfl
    rcases hb with hb | hb <;> cases hb
  rw [List.cons_append] at hread ⊢
  simp [readScalar, hquote, hb, hread]

theorem readScalar_text {parts : List StringPart} {text : Octets}
    (hspells : SpellsParts parts text) (rest : Octets) :
    readScalar (0x22 :: (text ++ [0x22]) ++ rest) =
      (.text ((partBytes? parts).bind Utf8.decode?), rest) := by
  have hread : readString (text ++ 0x22 :: rest) =
      some ((partBytes? parts).bind Utf8.decode?, rest) := by
    rw [readString, readParts_append hspells rest]
    rfl
  have hsplit : 0x22 :: (text ++ [0x22]) ++ rest = 0x22 :: (text ++ 0x22 :: rest) := by simp
  simp [hsplit, readScalar, hread]

/-! ### Steps of the reader -/

section Steps

variable {steps : Nat} {input behind rest : Octets}

theorem readValue_list {b : UInt8} {more : Octets} (hnext : skipSpace rest = b :: more)
    (hb : b ≠ 0x5D) : readValue (steps + 1) (0x5B :: rest) =
      (.list (readItems steps rest).1 (readItems steps rest).2.1,
        (readItems steps rest).2.2) := by
  rw [readValue, skipSpace_cons (by decide), ← readItems_skipSpace]
  simp only
  split
  · next heq => exact absurd (List.cons.inj (hnext.symm.trans heq)).1 hb
  · rfl

theorem readValue_object {b : UInt8} {more : Octets} (hnext : skipSpace rest = b :: more)
    (hb : b ≠ 0x7D) : readValue (steps + 1) (0x7B :: rest) =
      (.object (readMembers steps rest).1 (readMembers steps rest).2.1,
        (readMembers steps rest).2.2) := by
  rw [readValue, skipSpace_cons (by decide), ← readMembers_skipSpace]
  simp only
  split
  · next heq => exact absurd (List.cons.inj (hnext.symm.trans heq)).1 hb
  · rfl

theorem readItems_last {tree : Tree} (hread : readValue steps input = (tree, behind))
    (hsound : tree.isSound = true) (hnext : skipSpace behind = 0x5D :: rest) :
    readItems (steps + 1) input = ([tree], true, rest) := by
  simp [readItems, hread, hsound, hnext]

theorem readItems_more {tree : Tree} (hread : readValue steps input = (tree, behind))
    (hsound : tree.isSound = true) (hnext : skipSpace behind = 0x2C :: rest) :
    readItems (steps + 1) input = (tree :: (readItems steps rest).1, (readItems steps rest).2) := by
  simp [readItems, hread, hsound, hnext]

theorem readMembers_last {name : Option String} {value : Tree} {after : Octets}
    (hkey : readValue steps input = (.text name, behind))
    (hcolon : skipSpace behind = 0x3A :: after)
    {behind' : Octets} (hread : readValue steps after = (value, behind'))
    (hsound : value.isSound = true) (hnext : skipSpace behind' = 0x7D :: rest) :
    readMembers (steps + 1) input = ([(.text name, value)], true, rest) := by
  simp [readMembers, hkey, hcolon, hread, hsound, hnext]

theorem readMembers_more {name : Option String} {value : Tree} {after : Octets}
    (hkey : readValue steps input = (.text name, behind))
    (hcolon : skipSpace behind = 0x3A :: after)
    {behind' : Octets} (hread : readValue steps after = (value, behind'))
    (hsound : value.isSound = true) (hnext : skipSpace behind' = 0x2C :: rest) :
    readMembers (steps + 1) input =
      ((.text name, value) :: (readMembers steps rest).1, (readMembers steps rest).2) := by
  simp [readMembers, hkey, hcolon, hread, hsound, hnext]

end Steps

/-! ### What is spelled is read -/

namespace Piece

variable {tree content : Tree} {trees : List Tree} {pairs : List (Tree × Tree)}
  {name : Option String} {text key rest : Octets}

/-- A value with a text (`hsome`) is read if it is read whenever one more step is left than it needs
(`hread`). -/
theorem isRead_value (hsome : text ≠ []) (hread : ∀ steps rest, 2 * text.length ≤ steps + 2 →
    Ends rest → readValue (steps + 1) (text ++ rest) = (tree, rest)) :
    (value tree).IsRead text := by
  intro steps rest hsteps hrest
  have hlength : 1 ≤ text.length := List.length_pos_iff.mpr hsome
  obtain ⟨steps, rfl⟩ : ∃ before, steps = before + 1 := ⟨steps - 1, by omega⟩
  exact hread steps rest (by omega) hrest

theorem isRead_number {numeral : Numeral} (h : SpellsNumeral numeral text) :
    (value (.number numeral.number?)).IsRead text := by
  obtain ⟨b, more, rfl, hb⟩ := h.exists_cons
  refine isRead_value (List.cons_ne_nil b more) fun steps rest _ hrest ↦ ?_
  rw [← readScalar_number h hrest]
  rcases hb with rfl | hb
  · exact readValue_scalar (by decide) (by decide) (by decide)
  · refine readValue_scalar (isSpace_of_isDigit hb) ?_ ?_
    · rintro rfl
      cases hb
    · rintro rfl
      cases hb

theorem isRead_text {parts : List StringPart} (h : SpellsParts parts text) :
    (value (.text ((partBytes? parts).bind Utf8.decode?))).IsRead (0x22 :: (text ++ [0x22])) := by
  refine isRead_value (List.cons_ne_nil _ _) fun steps rest _ _ ↦ ?_
  rw [← readScalar_text h]
  exact readValue_scalar (by decide) (by decide) (by decide)

theorem isRead_emptyList (h : IsSpacing text) :
    (value (.list [] true)).IsRead (0x5B :: (text ++ [0x5D])) := by
  refine isRead_value (List.cons_ne_nil _ _) fun steps rest _ _ ↦ ?_
  have hclosed : skipSpace (text ++ [0x5D] ++ rest) = 0x5D :: rest := by
    rw [List.append_assoc, skipSpace_append h]
    exact skipSpace_cons (by decide) rest
  rw [List.cons_append, readValue, skipSpace_cons (by decide)]
  simp only [hclosed]

theorem isRead_emptyObject (h : IsSpacing text) :
    (value (.object [] true)).IsRead (0x7B :: (text ++ [0x7D])) := by
  refine isRead_value (List.cons_ne_nil _ _) fun steps rest _ _ ↦ ?_
  have hclosed : skipSpace (text ++ [0x7D] ++ rest) = 0x7D :: rest := by
    rw [List.append_assoc, skipSpace_append h]
    exact skipSpace_cons (by decide) rest
  rw [List.cons_append, readValue, skipSpace_cons (by decide)]
  simp only [hclosed]

theorem isRead_list (hspells : Spells (items trees) text) (h : (items trees).IsRead text) :
    (value (.list trees true)).IsRead (0x5B :: (text ++ [0x5D])) := by
  refine isRead_value (List.cons_ne_nil _ _) fun steps rest hsteps _ ↦ ?_
  obtain ⟨b, more, hnext, hb, -⟩ := hspells.skipSpace_items (0x5D :: rest)
  have hsplit : text ++ [0x5D] ++ rest = text ++ 0x5D :: rest := by simp
  have hlength : 2 * text.length ≤ steps := by
    simp only [List.length_cons, List.length_append, List.length_nil] at hsteps
    omega
  rw [List.cons_append, hsplit, readValue_list hnext hb, h steps rest hlength]

theorem isRead_object (hspells : Spells (members pairs) text) (h : (members pairs).IsRead text) :
    (value (.object pairs true)).IsRead (0x7B :: (text ++ [0x7D])) := by
  refine isRead_value (List.cons_ne_nil _ _) fun steps rest hsteps _ ↦ ?_
  obtain ⟨b, more, hnext, -, hb⟩ := hspells.skipSpace_members (0x7D :: rest)
  have hsplit : text ++ [0x7D] ++ rest = text ++ 0x7D :: rest := by simp
  have hlength : 2 * text.length ≤ steps := by
    simp only [List.length_cons, List.length_append, List.length_nil] at hsteps
    omega
  rw [List.cons_append, hsplit, readValue_object hnext hb, h steps rest hlength]

theorem isRead_spaced {front back : Octets} (hfront : IsSpacing front) (hback : IsSpacing back)
    (h : (value tree).IsRead text) : (spaced tree).IsRead (front ++ (text ++ back)) := by
  intro steps rest hsteps hrest
  simp only [List.length_append] at hsteps
  refine ⟨back ++ rest, ?_, skipSpace_append hback rest⟩
  have hread := h steps (back ++ rest) (by omega) (hrest.append hback)
  rw [← readValue_skipSpace, List.append_assoc, List.append_assoc, skipSpace_append hfront,
    readValue_skipSpace, hread]

/-- A value with white space around it is read up to the comma, colon or bracket behind it (`hb`),
which ends it. -/
theorem IsRead.next (h : (spaced tree).IsRead text) (b : UInt8)
    (hb : b = 0x2C ∨ b = 0x3A ∨ b = 0x5D ∨ b = 0x7D) (steps : Nat)
    (hsteps : 2 * text.length ≤ steps + 1) (rest : Octets) :
    ∃ behind, readValue steps (text ++ b :: rest) = (tree, behind) ∧
      skipSpace behind = b :: rest := by
  have hends : Ends (b :: rest) := by
    refine Ends.cons ?_
    rcases hb with rfl | rfl | rfl | rfl <;> decide
  have hbyte : isSpace b = false := by
    rcases hb with rfl | rfl | rfl | rfl <;> rfl
  obtain ⟨behind, hread, hnext⟩ := h steps (b :: rest) hsteps hends
  exact ⟨behind, hread, hnext.trans (skipSpace_cons hbyte rest)⟩

theorem isRead_item (hspells : Spells (spaced tree) text) (h : (spaced tree).IsRead text) :
    (items [tree]).IsRead text := by
  intro steps rest hsteps
  have hsome : 1 ≤ text.length := hspells.length_pos
  obtain ⟨steps, rfl⟩ : ∃ before, steps = before + 1 := ⟨steps - 1, by omega⟩
  obtain ⟨behind, hread, hnext⟩ := h.next 0x5D (by simp) steps hsteps rest
  exact readItems_last hread hspells.isSound_spaced hnext

theorem isRead_moreItems (hspells : Spells (spaced tree) text) (h : (spaced tree).IsRead text)
    (hrest : (items trees).IsRead rest) :
    (items (tree :: trees)).IsRead (text ++ 0x2C :: rest) := by
  intro steps after hsteps
  simp only [List.length_append, List.length_cons] at hsteps
  obtain ⟨steps, rfl⟩ : ∃ before, steps = before + 1 := ⟨steps - 1, by omega⟩
  obtain ⟨behind, hread, hnext⟩ := h.next 0x2C (by simp) steps (by omega)
    (rest ++ 0x5D :: after)
  rw [List.append_assoc, List.cons_append, readItems_more hread hspells.isSound_spaced hnext,
    hrest steps after (by omega)]

theorem isRead_member (hkey : (spaced (.text name)).IsRead key)
    (hspells : Spells (spaced content) text) (h : (spaced content).IsRead text) :
    (members [(.text name, content)]).IsRead (key ++ 0x3A :: text) := by
  intro steps after hsteps
  simp only [List.length_append, List.length_cons] at hsteps
  obtain ⟨steps, rfl⟩ : ∃ before, steps = before + 1 := ⟨steps - 1, by omega⟩
  obtain ⟨behind, hread, hcolon⟩ := hkey.next 0x3A (by simp) steps (by omega)
    (text ++ 0x7D :: after)
  obtain ⟨behind', hread', hnext⟩ := h.next 0x7D (by simp) steps (by omega) after
  rw [List.append_assoc, List.cons_append]
  exact readMembers_last hread hcolon hread' hspells.isSound_spaced hnext

theorem isRead_moreMembers (hkey : (spaced (.text name)).IsRead key)
    (hspells : Spells (spaced content) text) (h : (spaced content).IsRead text)
    (hrest : (members pairs).IsRead rest) :
    (members ((.text name, content) :: pairs)).IsRead (key ++ 0x3A :: (text ++ 0x2C :: rest)) := by
  intro steps after hsteps
  simp only [List.length_append, List.length_cons] at hsteps
  obtain ⟨steps, rfl⟩ : ∃ before, steps = before + 1 := ⟨steps - 1, by omega⟩
  obtain ⟨behind, hread, hcolon⟩ := hkey.next 0x3A (by simp) steps (by omega)
    (text ++ 0x2C :: (rest ++ 0x7D :: after))
  obtain ⟨behind', hread', hnext⟩ := h.next 0x2C (by simp) steps (by omega)
    (rest ++ 0x7D :: after)
  have hsplit : key ++ 0x3A :: (text ++ 0x2C :: rest) ++ 0x7D :: after =
      key ++ 0x3A :: (text ++ 0x2C :: (rest ++ 0x7D :: after)) := by simp
  rw [hsplit, readMembers_more hread hcolon hread' hspells.isSound_spaced hnext,
    hrest steps after (by omega)]

end Piece

/-- What is spelled is read as what it spells. The induction is on the grammar `Spells`. -/
theorem Spells.isRead {piece : Piece} {text : Octets} (h : Spells piece text) :
    piece.IsRead text := by
  induction h with
  | null | yes | no => exact Piece.isRead_value (List.cons_ne_nil _ _) fun _ _ _ _ ↦ rfl
  | number hnumeral => exact Piece.isRead_number hnumeral
  | text hparts => exact Piece.isRead_text hparts
  | emptyList htext => exact Piece.isRead_emptyList htext
  | emptyObject htext => exact Piece.isRead_emptyObject htext
  | list hitems ih => exact Piece.isRead_list hitems ih
  | object hmembers ih => exact Piece.isRead_object hmembers ih
  | spaced hfront hback _ ih => exact Piece.isRead_spaced hfront hback ih
  | item hvalue ih => exact Piece.isRead_item hvalue ih
  | moreItems hvalue _ ih ihrest => exact Piece.isRead_moreItems hvalue ih ihrest
  | member _ hvalue ihkey ih => exact Piece.isRead_member ihkey hvalue ih
  | moreMembers _ hvalue _ ihkey ih ihrest => exact Piece.isRead_moreMembers ihkey hvalue ih ihrest

/-! ### Texts -/

/-- A text is read to its end as a sound tree exactly when it spells that tree: the reader and the
grammar agree. -/
theorem read_eq_iff {text : Octets} {tree : Tree} :
    read text = ⟨tree, true⟩ ∧ tree.isSound = true ↔ Spells (.spaced tree) text := by
  constructor
  · rintro ⟨hread, hsound⟩
    rw [read] at hread
    cases hvalue : readValue (2 * text.length + 2) text with
    | mk root rest =>
      simp only [hvalue, Document.mk.injEq, List.isEmpty_iff] at hread
      obtain ⟨rfl, hended⟩ := hread
      obtain ⟨front, body, hfront, hspells, rfl⟩ :=
        (takesSpelled _).value hvalue hsound
      obtain ⟨back, hback, hrest⟩ := exists_skipSpace rest
      rw [hended, List.append_nil] at hrest
      rw [hrest]
      exact .spaced hfront hback hspells
  · intro h
    refine ⟨?_, h.isSound_spaced⟩
    obtain ⟨behind, hread, hended⟩ := h.isRead (2 * text.length + 2) [] (by omega) (by rintro _ ⟨⟩)
    rw [List.append_nil] at hread
    have hnone : skipSpace behind = [] := hended
    rw [read, hread]
    simp only [hnone, List.isEmpty_nil]

end BulkJobs.Json
