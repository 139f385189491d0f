import BulkJobs.Json.Record
import Mathlib.Data.List.Pairwise
import Mathlib.Data.Option.Basic
import Mathlib.Tactic.SplitIfs

/-!
# What decoding a record depends on

Decoding a record has two parts. First its text is divided into the slots of the fields (`divide`),
which succeeds or not whatever the fields are decoded to; then the slots are read
(`Layout.decoder_eq_ok_iff`). An object is divided when it is complete, its keys are texts, no two
of its members belong to one field, and what belongs to none is sound (`Fits`), and then the slot of
a field holds what the one member with its name holds (`Fits.content_eq_some_iff`). So neither the
order of the members counts nor what belongs to no field.

A relation of trees that the decoders of all fields keep is kept by the layout (`Layout.Keeps`): it
reads the same from parts whose slots are related.
-/

set_option autoImplicit false
set_option relaxedAutoImplicit false

namespace BulkJobs.Json

/-- A text decodes exactly when it ends behind a tree that does, so what stands behind the tree
spoils it. -/
theorem decodeText_eq_ok_iff {α : Type} {decode : Decoder α} {text : Octets} {a : α} :
    decodeText decode text = .ok a ↔
      (read text).ended = true ∧ decode 0 (read text).root = .ok a := by
  rw [decodeText]
  cases decode 0 (read text).root with
  | error problem => exact ⟨nofun, fun h ↦ nomatch h.2⟩
  | ok value =>
    cases (read text).ended with
    | false => exact ⟨nofun, fun h ↦ nomatch h.1⟩
    | true => exact (and_iff_right rfl).symm

/-! ### Dividing -/

/-- The parts of a record's text, if it can be divided: the slots of the fields, filled from members
or from items. -/
def divide (names : List (List String)) (expected : String) (depth : Nat) : Tree → Option Parts
  | .object members complete =>
    match Layout.fillSlots names complete 0 (names.map fun _ ↦ none) members with
    | (slots, none) =>
      some { form := .object, depth := depth + 1, slots, beyond := members.length + 1, expected }
    | (_, some _) => none
  | .list items complete =>
    match Layout.itemSlots names items complete with
    | (slots, none) =>
      some { form := .array, depth := depth + 1, slots, beyond := items.length + 1, expected }
    | (_, some _) => none
  | _ => none

section Both

variable {α β : Type} {f : Checked (α → β)} {x : Checked α} {b : β}

theorem both_eq_ok_iff : Checked.both f x = .ok b ↔ ∃ g a, f = .ok g ∧ x = .ok a ∧ g a = b := by
  cases f <;> cases x <;> simp [Checked.both]

end Both

namespace Layout

variable {α β : Type}

theorem build_eq_ok_iff {layout : Layout α} {parts : Parts} {problem : Option Located} {a : α} :
    layout.build parts problem = .ok a ↔ problem = none ∧ layout.read parts = .ok a := by
  unfold build
  cases problem with
  | some located => cases layout.read parts <;> simp [Except.map, Checked.both, Except.mapError]
  | none => cases layout.read parts <;> simp [Except.map, Checked.both, Except.mapError]

/-- A record decodes exactly when its text can be divided and the parts can be read as its fields.
-/
theorem decoder_eq_ok_iff {layout : Layout α} {title : String} {depth : Nat} {tree : Tree} {a : α} :
    layout.decoder title depth tree = .ok a ↔ ∃ parts,
      divide layout.names (title ++ " with " ++ toString layout.names.length ++ " elements") depth
          tree = some parts ∧ layout.read parts = .ok a := by
  cases tree with
  | object members complete =>
    simp only [decoder, divide, build_eq_ok_iff]
    rcases fillSlots layout.names complete 0 (layout.names.map fun _ ↦ none) members with
      ⟨slots, _ | located⟩ <;> simp
  | list items complete =>
    simp only [decoder, divide, build_eq_ok_iff]
    rcases itemSlots layout.names items complete with ⟨slots, _ | located⟩ <;> simp
  | _ => simp [decoder, divide]

end Layout

/-! ### The members of an object -/

/-- The field that a key belongs to: the first that has the key for one of its names. -/
def fieldOf (names : List (List String)) : Tree → Option Nat
  | .text (some name) => names.findIdx? (·.contains name)
  | _ => none

def Apart (names : List (List String)) (member other : Tree × Tree) : Prop :=
  ∀ index, fieldOf names member.1 = some index → fieldOf names other.1 ≠ some index

instance (names : List (List String)) : Std.Symm (Apart names) where
  symm _ _ hapart index hother hmember := hapart index hmember hother

/-- Whether members make a record: their keys are texts, no two of them belong to one field, and
what belongs to none is sound. -/
structure Fits (names : List (List String)) (members : List (Tree × Tree)) : Prop where
  keys : ∀ member ∈ members, ∃ name, member.1 = .text (some name)
  once : members.Pairwise (Apart names)
  sound : ∀ member ∈ members, fieldOf names member.1 = none → member.2.isSound = true

/-- What the first member of a field holds, if the object has a member of the field. -/
def content (names : List (List String)) (members : List (Tree × Tree)) (index : Nat) :
    Option Tree :=
  (members.find? (fieldOf names ·.1 == some index)).map Prod.snd

section Members

variable {names : List (List String)} {complete : Bool} {slots : List (Option (Nat × Tree))}
  {members members' : List (Tree × Tree)} {value : Tree} {place index : Nat}

theorem lt_of_fieldOf {key : Tree} (h : fieldOf names key = some index) :
    index < names.length := by
  unfold fieldOf at h
  split at h
  · exact (List.findIdx?_eq_some_iff_getElem.mp h).1
  · cases h

theorem Fits.cons_iff {member : Tree × Tree} : Fits names (member :: members) ↔
    (∃ name, member.1 = .text (some name)) ∧
      (fieldOf names member.1 = none → member.2.isSound = true) ∧
      (∀ index, fieldOf names member.1 = some index →
        ∀ other ∈ members, fieldOf names other.1 ≠ some index) ∧ Fits names members := by
  constructor
  · rintro ⟨hkeys, honce, hsound⟩
    rw [List.pairwise_cons] at honce
    exact ⟨hkeys _ List.mem_cons_self, hsound _ List.mem_cons_self,
      fun index hindex other hother ↦ honce.1 other hother index hindex,
      fun other hother ↦ hkeys other (.tail _ hother), honce.2,
      fun other hother ↦ hsound other (.tail _ hother)⟩
  · rintro ⟨hkey, hsound, honce, hmembers⟩
    exact ⟨List.forall_mem_cons.mpr ⟨hkey, hmembers.keys⟩,
      List.pairwise_cons.mpr ⟨fun other hother index hindex ↦ honce index hindex other hother,
        hmembers.once⟩,
      List.forall_mem_cons.mpr ⟨hsound, hmembers.sound⟩⟩

theorem content_cons (key : Tree) : content names ((key, value) :: members) index =
    if fieldOf names key = some index then some value else content names members index := by
  by_cases h : fieldOf names key = some index <;> simp [content, h]

theorem content_cons_of_none {member : Tree × Tree} (h : fieldOf names member.1 = none) :
    content names (member :: members) = content names members :=
  funext fun index ↦ by rw [content_cons, h, if_neg nofun]

theorem fieldOf_text_eq_none_iff {name : String} :
    fieldOf names (.text (some name)) = none ↔ ∀ field ∈ names, name ∉ field := by
  simp [fieldOf]

/-- Members of one field (`hfield`, `hfield'`) are one member, in the members of a record. -/
theorem Fits.eq_of_fieldOf (h : Fits names members) {member other : Tree × Tree}
    (hmember : member ∈ members) (hother : other ∈ members)
    (hfield : fieldOf names member.1 = some index) (hfield' : fieldOf names other.1 = some index) :
    member = other := by
  by_contra hne
  exact h.once.forall hmember hother hne index hfield hfield'

/-- What a field of a record holds is what its member holds, the only one that it has there. -/
theorem Fits.content_eq_some_iff (h : Fits names members) :
    content names members index = some value ↔
      ∃ key, (key, value) ∈ members ∧ fieldOf names key = some index := by
  constructor
  · intro hcontent
    obtain ⟨⟨key, held⟩, hfind, rfl⟩ := Option.map_eq_some_iff.mp hcontent
    exact ⟨key, List.mem_of_find?_eq_some hfind, by simpa using List.find?_some hfind⟩
  · rintro ⟨key, hmember, hfield⟩
    cases hfind : members.find? (fieldOf names ·.1 == some index) with
    | none => exact absurd (beq_iff_eq.mpr hfield) (List.find?_eq_none.mp hfind _ hmember)
    | some other =>
      have hother : fieldOf names other.1 = some index := by simpa using List.find?_some hfind
      rw [content, hfind,
        h.eq_of_fieldOf (List.mem_of_find?_eq_some hfind) hmember hother hfield]
      rfl

theorem Fits.perm (h : Fits names members) (hperm : members.Perm members') :
    Fits names members' where
  keys member hmember := h.keys member (hperm.mem_iff.mpr hmember)
  once := (hperm.pairwise_iff fun hapart ↦ symm hapart).mp h.once
  sound member hmember := h.sound member (hperm.mem_iff.mpr hmember)

theorem Fits.content_perm (h : Fits names members) (hperm : members.Perm members') :
    content names members = content names members' := by
  refine funext fun index ↦ Option.ext fun value ↦ ?_
  simp only [h.content_eq_some_iff, (h.perm hperm).content_eq_some_iff, hperm.mem_iff]

/-- One step of filling the slots: the key must be a text, its field must be free, and a member of
no field must be sound. -/
theorem fillSlots_cons_iff {key : Tree} {slots' : List (Option (Nat × Tree))} :
    Layout.fillSlots names complete place slots ((key, value) :: members) = (slots', none) ↔
      (∃ name, key = .text (some name)) ∧
        match fieldOf names key with
        | some index => slots.getD index none = none ∧
          Layout.fillSlots names complete (place + 1) (slots.set index (some (place, value)))
            members = (slots', none)
        | none => value.isSound = true ∧
          Layout.fillSlots names complete (place + 1) slots members = (slots', none) := by
  by_cases hkey : ∃ name, key = .text (some name)
  · obtain ⟨name, rfl⟩ := hkey
    rw [Layout.fillSlots, and_iff_right ⟨name, rfl⟩, fieldOf]
    cases names.findIdx? (·.contains name) with
    | some index =>
      dsimp only
      cases slots.getD index none <;> simp
    | none => cases value.isSound <;> simp
  · refine iff_of_false (fun hfill ↦ ?_) fun h ↦ hkey h.1
    rw [Layout.fillSlots] at hfill
    · cases hfill
    · exact fun name hname ↦ hkey ⟨name, hname⟩

theorem getD_set (slots : List (Option (Nat × Tree))) {index : Nat} (hindex : index < slots.length)
    (filled : Option (Nat × Tree)) (other : Nat) :
    (slots.set index filled).getD other none =
      if other = index then filled else slots.getD other none := by
  rw [List.getD_eq_getElem?_getD, List.getElem?_set, List.getD_eq_getElem?_getD]
  by_cases hsame : other = index
  · rw [if_pos hsame.symm, if_pos hindex, if_pos hsame, Option.getD_some]
  · rw [if_neg (Ne.symm hsame), if_neg hsame]

/-- What an object is divided into, and that it is divided only when its members make a record. The
induction is on the members; the slots hold what stood before them. -/
theorem fits_of_fillSlots {slots' : List (Option (Nat × Tree))}
    (hslots : slots.length = names.length)
    (h : Layout.fillSlots names complete place slots members = (slots', none)) :
    complete = true ∧ Fits names members ∧
      (∀ member ∈ members, ∀ index, fieldOf names member.1 = some index →
        slots.getD index none = none) ∧
      ∀ index, (slots'.getD index none).map Prod.snd =
        ((slots.getD index none).map Prod.snd).or (content names members index) := by
  induction members generalizing place slots with
  | nil =>
    rw [Layout.fillSlots] at h
    split_ifs at h with hcomplete
    · cases h
      exact ⟨hcomplete, ⟨by simp, .nil, by simp⟩, by simp, by simp [content]⟩
    · cases h
  | cons member members ih =>
    obtain ⟨key, value⟩ := member
    obtain ⟨hkey, hstep⟩ := fillSlots_cons_iff.mp h
    cases hfield : fieldOf names key with
    | some index =>
      rw [hfield] at hstep
      obtain ⟨hfree, hstep⟩ := hstep
      have hindex : index < slots.length := hslots ▸ lt_of_fieldOf hfield
      obtain ⟨hcomplete, hfits, hothers, hcontent⟩ := ih (by simpa using hslots) hstep
      simp only [getD_set slots hindex] at hothers hcontent
      refine ⟨hcomplete, Fits.cons_iff.mpr ⟨hkey, by simp [hfield], fun index' hindex' ↦ ?_, hfits⟩,
        List.forall_mem_cons.mpr ⟨fun index' hindex' ↦ ?_, fun other hother index' hindex' ↦ ?_⟩,
        fun index' ↦ ?_⟩
      · cases hfield.symm.trans hindex'
        intro other hother hsame
        simpa using hothers other hother index hsame
      · cases hfield.symm.trans hindex'
        exact hfree
      · have hslot := hothers other hother index' hindex'
        split_ifs at hslot with hsame
        exact hslot
      · rw [hcontent, content_cons, hfield]
        by_cases hsame : index' = index
        · rw [if_pos hsame, hsame, hfree, if_pos rfl]
          rfl
        · rw [if_neg hsame, if_neg fun h ↦ hsame (Option.some.inj h).symm]
    | none =>
      rw [hfield] at hstep
      obtain ⟨hcomplete, hfits, hfree, hcontent⟩ := ih hslots hstep.2
      refine ⟨hcomplete, Fits.cons_iff.mpr ⟨hkey, fun _ ↦ hstep.1, by simp [hfield], hfits⟩,
        List.forall_mem_cons.mpr ⟨by simp [hfield], hfree⟩, fun index ↦ ?_⟩
      rw [hcontent, content_cons, hfield, if_neg (by simp)]

/-- The members of a record are divided. The induction is on the members. -/
theorem exists_fillSlots (hslots : slots.length = names.length) (hfits : Fits names members)
    (hfree : ∀ member ∈ members, ∀ index, fieldOf names member.1 = some index →
      slots.getD index none = none) :
    ∃ slots', Layout.fillSlots names true place slots members = (slots', none) := by
  induction members generalizing place slots with
  | nil => exact ⟨slots, rfl⟩
  | cons member members ih =>
    obtain ⟨key, value⟩ := member
    obtain ⟨hkey, hsound, honce, hmembers⟩ := Fits.cons_iff.mp hfits
    obtain ⟨hfreeKey, hfree⟩ := List.forall_mem_cons.mp hfree
    simp only [fillSlots_cons_iff, and_iff_right hkey]
    cases hfield : fieldOf names key with
    | some index =>
      have hindex : index < slots.length := hslots ▸ lt_of_fieldOf hfield
      have hfree' : ∀ other ∈ members, ∀ index', fieldOf names other.1 = some index' →
          (slots.set index (some (place, value))).getD index' none = none := by
        intro other hother index' hindex'
        have hne : index' ≠ index := by
          rintro rfl
          exact honce index' hfield other hother hindex'
        rw [getD_set slots hindex, if_neg hne, hfree other hother index' hindex']
      obtain ⟨slots', hfill⟩ := ih (by simpa using hslots) hmembers hfree'
      exact ⟨slots', hfreeKey index hfield, hfill⟩
    | none =>
      obtain ⟨slots', hfill⟩ := ih hslots hmembers hfree
      exact ⟨slots', hsound hfield, hfill⟩

end Members

/-! ### Parts -/

/-- Whether parts are those of a record in some form, with some content in its slots. -/
structure Parts.Hold (parts : Parts) (form : RecordForm) (depth : Nat)
    (content : Nat → Option Tree) : Prop where
  form_eq : parts.form = form
  depth_eq : parts.depth = depth
  content_eq : ∀ index, (parts.slots.getD index none).map Prod.snd = content index

section Divide

variable {names : List (List String)} {expected : String} {depth : Nat}
  {members : List (Tree × Tree)} {items : List Tree} {complete : Bool} {parts : Parts}

theorem getD_empty (names : List (List String)) (index : Nat) :
    (names.map fun _ ↦ (none : Option (Nat × Tree))).getD index none = none := by
  rw [List.getD_eq_getElem?_getD, List.getElem?_map]
  cases names[index]? <;> rfl

theorem divide_object (h : divide names expected depth (.object members complete) = some parts) :
    complete = true ∧ Fits names members ∧
      parts.Hold .object (depth + 1) (content names members) := by
  rw [divide] at h
  split at h
  · next slots hfill =>
    cases h
    obtain ⟨hcomplete, hfits, -, hcontent⟩ := fits_of_fillSlots (by simp) hfill
    exact ⟨hcomplete, hfits, rfl, rfl, fun index ↦ by rw [hcontent, getD_empty]; rfl⟩
  · cases h

theorem exists_divide_object (expected : String) (depth : Nat) (h : Fits names members) :
    ∃ parts, divide names expected depth (.object members true) = some parts := by
  obtain ⟨slots, hfill⟩ :=
    exists_fillSlots (by simp) h fun _ _ index _ ↦ getD_empty names index
  exact ⟨_, by rw [divide, hfill]⟩

/-- The slots of an array hold its items in order, as far as there are fields (`h`). -/
theorem getD_itemSlots (h : items.length ≤ names.length) (index : Nat) :
    (Layout.itemSlots names items complete).1.getD index none =
      items[index]?.map fun item ↦ (index, item) := by
  rw [Layout.itemSlots, List.take_of_length_le h, List.getD_eq_getElem?_getD]
  by_cases hindex : index < items.length
  · simp [List.getElem?_append, hindex]
  · have hlong : items.length ≤ index := Nat.le_of_not_lt hindex
    rw [List.getElem?_eq_none hlong, List.getElem?_append_right (by simpa using hlong),
      List.getElem?_replicate]
    split_ifs <;> rfl

theorem divide_list (h : divide names expected depth (.list items complete) = some parts) :
    complete = true ∧ items.length ≤ names.length ∧
      parts.Hold .array (depth + 1) (items[·]?) := by
  rw [divide, Layout.itemSlots] at h
  split at h
  · next slots hslots =>
    have hslot (hlength : items.length ≤ names.length) (index : Nat) :
        (Layout.itemSlots names items complete).1.getD index none =
          items[index]?.map fun item ↦ (index, item) := getD_itemSlots hlength index
    rw [Layout.itemSlots] at hslot
    obtain ⟨hslots, hproblem⟩ := Prod.mk.inj hslots
    split_ifs at hproblem with hlong hcomplete
    cases h
    refine ⟨hcomplete, Nat.le_of_not_lt hlong, rfl, rfl, fun index ↦ ?_⟩
    rw [← hslots, hslot (Nat.le_of_not_lt hlong), Option.map_map]
    exact congrFun Option.map_id _
  · cases h

theorem exists_divide_list (expected : String) (depth : Nat) (h : items.length ≤ names.length) :
    ∃ parts, divide names expected depth (.list items true) = some parts :=
  ⟨_, by rw [divide, Layout.itemSlots]; simp only [if_neg (Nat.not_lt_of_le h), if_true]; rfl⟩

end Divide

/-! ### Related records -/

/-- What relates a tree and the number of lists and objects around it to another. -/
abbrev Relation :=
  Nat → Tree → Nat → Tree → Prop

/-- Whether a decoder reads from a related tree what it reads from a tree. -/
def Decoder.Keeps {α : Type} (R : Relation) (decode : Decoder α) : Prop :=
  ∀ ⦃depth tree depth' tree' a⦄, R depth tree depth' tree' →
    decode depth tree = .ok a → decode depth' tree' = .ok a

abbrev Relation.OfOption (R : Relation) (depth depth' : Nat) : Option Tree → Option Tree → Prop :=
  Option.Rel fun tree tree' ↦ R depth tree depth' tree'

/-- Whether the slots of two parts of one form are related, one by one. -/
structure Parts.Related (R : Relation) (parts parts' : Parts) : Prop where
  form_eq : parts.form = parts'.form
  slots : ∀ index, R.OfOption parts.depth parts'.depth
    ((parts.slots.getD index none).map Prod.snd) ((parts'.slots.getD index none).map Prod.snd)

/-- Whether the fields of a record are read from related parts as they are from the parts
themselves. -/
def Layout.Keeps {α : Type} (R : Relation) (layout : Layout α) : Prop :=
  ∀ ⦃parts parts' a⦄, Parts.Related R parts parts' →
    layout.read parts = .ok a → layout.read parts' = .ok a

section Keeps

variable {α β : Type} {R : Relation} {parts parts' : Parts} {form : RecordForm}
  {depth depth' : Nat} {content content' : Nat → Option Tree}

theorem Parts.Hold.related (h : parts.Hold form depth content)
    (h' : parts'.Hold form depth' content')
    (hcontent : ∀ index, R.OfOption depth depth' (content index) (content' index)) :
    Parts.Related R parts parts' where
  form_eq := h.form_eq.trans h'.form_eq.symm
  slots index := by
    rw [h.depth_eq, h'.depth_eq, h.content_eq, h'.content_eq]
    exact hcontent index

theorem Field.read_eq_ok_iff {field : Field α} {index : Nat} {a : α} :
    field.read index parts = .ok a ↔
      match (parts.slots.getD index none).map Prod.snd with
      | some tree => field.decode parts.depth tree = .ok a
      | none =>
        (match parts.form with
          | .object => field.inObject
          | .array => field.inArray) = some a := by
  rw [Field.read]
  cases parts.slots.getD index none with
  | some slot => cases h : field.decode parts.depth slot.2 <;> simp [h, Except.mapError]
  | none =>
    cases parts.form with
    | object => cases field.inObject <;> simp
    | array => cases field.inArray <;> simp

theorem Field.read_of_related {field : Field α} (h : field.decode.Keeps R) {index : Nat} {a : α}
    (hparts : Parts.Related R parts parts') (hread : field.read index parts = .ok a) :
    field.read index parts' = .ok a := by
  rw [Field.read_eq_ok_iff] at hread ⊢
  rw [← hparts.form_eq]
  have hslot := hparts.slots index
  revert hread hslot
  generalize (parts.slots.getD index none).map Prod.snd = slot
  generalize (parts'.slots.getD index none).map Prod.snd = slot'
  rintro hread (htree | _)
  · exact h htree hread
  · exact hread

theorem Layout.keeps_start (build : α) : (Layout.start build).Keeps R :=
  fun _ _ _ _ hread ↦ hread

theorem Layout.Keeps.field {layout : Layout (α → β)} {field : Field α} (h : layout.Keeps R)
    (hfield : field.decode.Keeps R) : (layout.field field).Keeps R := by
  intro parts parts' b hparts hread
  obtain ⟨f, a, hf, ha, rfl⟩ := both_eq_ok_iff.mp hread
  exact both_eq_ok_iff.mpr ⟨f, a, h hparts hf, Field.read_of_related hfield hparts ha, rfl⟩

variable {layout : Layout α} {title : String} {complete : Bool} {a : α}

/-- Objects whose fields hold related trees (`hrecord`) are read as the same record by a layout that
keeps the relation. -/
theorem Layout.Keeps.decoder_object (h : layout.Keeps R) {members members' : List (Tree × Tree)}
    (hread : layout.decoder title depth (.object members complete) = .ok a)
    (hrecord : Fits layout.names members → Fits layout.names members' ∧
      ∀ index, R.OfOption (depth + 1) (depth' + 1) (Json.content layout.names members index)
        (Json.content layout.names members' index)) :
    layout.decoder title depth' (.object members' true) = .ok a := by
  obtain ⟨parts, hdivide, hparts⟩ := decoder_eq_ok_iff.mp hread
  obtain ⟨-, hfits, hhold⟩ := divide_object hdivide
  obtain ⟨hfits', hcontent⟩ := hrecord hfits
  obtain ⟨parts', hdivide'⟩ := exists_divide_object _ depth' hfits'
  exact decoder_eq_ok_iff.mpr ⟨parts', hdivide',
    h (hhold.related (divide_object hdivide').2.2 hcontent) hparts⟩

/-- Arrays of related items, of the same number (`hlength`), are read as the same record by a layout
that keeps the relation. -/
theorem Layout.Keeps.decoder_list (h : layout.Keeps R) {items items' : List Tree}
    (hread : layout.decoder title depth (.list items complete) = .ok a)
    (hlength : items'.length = items.length)
    (hitems : ∀ index : Nat, R.OfOption (depth + 1) (depth' + 1) (items[index]?) (items'[index]?)) :
    layout.decoder title depth' (.list items' true) = .ok a := by
  obtain ⟨parts, hdivide, hparts⟩ := decoder_eq_ok_iff.mp hread
  obtain ⟨-, hshort, hhold⟩ := divide_list hdivide
  obtain ⟨parts', hdivide'⟩ := exists_divide_list _ depth' (hlength ▸ hshort)
  exact decoder_eq_ok_iff.mpr ⟨parts', hdivide',
    h (hhold.related (divide_list hdivide').2.2 hitems) hparts⟩

end Keeps

end BulkJobs.Json
