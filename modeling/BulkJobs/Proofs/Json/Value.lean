import BulkJobs.Proofs.Json.Record
import Mathlib.Data.List.Forall2
import Mathlib.Data.List.Induction
import Mathlib.Data.String.Basic

/-!
# Records that are read by way of a value

A record may be decoded from its text or from the value that the text denotes. The value has its
members in the order of their keys and has each key once (`mem_inKeyOrder_iff`), with what the last
member of that key holds. Of the members of a record only those of no field repeat a key, so a field
holds in the value what it holds in the text (`Fits.of_value`). A layout therefore reads from the
value of a tree what it reads from the tree if the decoders of its fields do
(`Layout.Keeps.revalued`).
-/

set_option autoImplicit false
set_option relaxedAutoImplicit false

namespace BulkJobs.Json

/-! ### Members in the order of their keys -/

/-- Members in the order of their keys; of several with one key the last counts. That is how the
value of an object keeps them. -/
def inKeyOrder (members : List (String × Json)) : List (String × Json) :=
  members.foldl (fun built member ↦ insertMember member.1 member.2 built) []

theorem ofMembers_eq (members : List (String × Json)) :
    ofMembers members = .object (inKeyOrder members) :=
  rfl

section KeyOrder

variable {key : String} {value : Json} {members : List (String × Json)}

theorem inKeyOrder_concat (members : List (String × Json)) (member : String × Json) :
    inKeyOrder (members ++ [member]) = insertMember member.1 member.2 (inKeyOrder members) := by
  rw [inKeyOrder, List.foldl_append]
  rfl

theorem lookup_member (key : String) (value : Json) (members : List (String × Json))
    (other : String) : ((key, value) :: members).lookup other =
      if other = key then some value else members.lookup other := by
  rw [List.lookup_cons]
  by_cases hsame : other = key
  · rw [if_pos hsame, beq_iff_eq.mpr hsame]
  · rw [if_neg hsame, beq_false_of_ne hsame]

theorem lookup_insertMember (key : String) (value : Json) (members : List (String × Json))
    (other : String) : (insertMember key value members).lookup other =
      if other = key then some value else members.lookup other := by
  induction members with
  | nil => exact lookup_member key value [] other
  | cons member members ih =>
    obtain ⟨name, held⟩ := member
    rw [insertMember]
    by_cases hsame : key = name
    · rw [if_pos (beq_iff_eq.mpr hsame), lookup_member, lookup_member, hsame]
      split_ifs <;> rfl
    · rw [if_neg (mt beq_iff_eq.mp hsame)]
      by_cases hbefore : key < name
      · rw [if_pos hbefore]
        exact lookup_member key value _ other
      · rw [if_neg hbefore, lookup_member, ih, lookup_member]
        by_cases hname : other = name
        · rw [if_pos hname, if_pos hname, if_neg fun hkey ↦ hsame (hkey.symm.trans hname)]
        · rw [if_neg hname, if_neg hname]

theorem mem_of_mem_insertMember {member : String × Json}
    (h : member ∈ insertMember key value members) : member = (key, value) ∨ member ∈ members := by
  induction members with
  | nil => exact .inl (List.mem_singleton.mp h)
  | cons other members ih =>
    rw [insertMember] at h
    split_ifs at h
    · exact (List.mem_cons.mp h).imp_right (.tail _)
    · exact List.mem_cons.mp h
    · obtain rfl | h := List.mem_cons.mp h
      · exact .inr List.mem_cons_self
      · exact (ih h).imp_right (.tail _)

/-- Putting a member into members that are in the order of their keys (`h`) keeps them in that
order. -/
theorem pairwise_insertMember (key : String) (value : Json)
    (h : members.Pairwise (·.1 < ·.1)) : (insertMember key value members).Pairwise (·.1 < ·.1) := by
  induction members with
  | nil => exact List.pairwise_singleton _ _
  | cons other members ih =>
    obtain ⟨hfirst, hrest⟩ := List.pairwise_cons.mp h
    rw [insertMember]
    split_ifs with hsame hbefore
    · rw [beq_iff_eq.mp hsame]
      exact List.pairwise_cons.mpr ⟨hfirst, hrest⟩
    · refine List.pairwise_cons.mpr ⟨List.forall_mem_cons.mpr ⟨hbefore, ?_⟩, h⟩
      exact fun later hlater ↦ lt_trans hbefore (hfirst later hlater)
    · refine List.pairwise_cons.mpr ⟨fun later hlater ↦ ?_, ih hrest⟩
      obtain rfl | hlater := mem_of_mem_insertMember hlater
      · exact lt_of_le_of_ne (not_lt.mp hbefore) fun h ↦ hsame (beq_iff_eq.mpr h.symm)
      · exact hfirst later hlater

theorem pairwise_inKeyOrder (members : List (String × Json)) :
    (inKeyOrder members).Pairwise (·.1 < ·.1) := by
  induction members using List.reverseRecOn with
  | nil => exact .nil
  | append_singleton members member ih =>
    rw [inKeyOrder_concat]
    exact pairwise_insertMember member.1 member.2 ih

theorem lookup_inKeyOrder (members : List (String × Json)) (key : String) :
    (inKeyOrder members).lookup key = members.reverse.lookup key := by
  induction members using List.reverseRecOn with
  | nil => rfl
  | append_singleton members member ih =>
    rw [inKeyOrder_concat, lookup_insertMember, ih, List.reverse_concat, lookup_member]

theorem lookup_eq_some_iff_mem (h : members.Pairwise (·.1 < ·.1)) :
    members.lookup key = some value ↔ (key, value) ∈ members := by
  rw [List.lookup_eq_some_iff]
  constructor
  · rintro ⟨before, after, rfl, -⟩
    exact List.mem_append_right before List.mem_cons_self
  · intro hmember
    obtain ⟨before, after, rfl⟩ := List.append_of_mem hmember
    refine ⟨before, after, rfl, fun other hother ↦ bne_iff_ne.mpr ?_⟩
    exact (ne_of_lt ((List.pairwise_append.mp h).2.2 other hother _ List.mem_cons_self)).symm

/-- A key has a value in `inKeyOrder` exactly when its last member has that value. -/
theorem mem_inKeyOrder_iff : (key, value) ∈ inKeyOrder members ↔
    members.reverse.lookup key = some value := by
  rw [← lookup_inKeyOrder, lookup_eq_some_iff_mem (pairwise_inKeyOrder members)]

end KeyOrder

theorem mem_of_mem_inKeyOrder {members : List (String × Json)} {member : String × Json}
    (h : member ∈ inKeyOrder members) : member ∈ members := by
  obtain ⟨before, after, hmembers, -⟩ := List.lookup_eq_some_iff.mp (mem_inKeyOrder_iff.mp h)
  rw [← List.mem_reverse, hmembers]
  exact List.mem_append_right before List.mem_cons_self

theorem exists_mem_inKeyOrder {members : List (String × Json)} {member : String × Json}
    (h : member ∈ members) : ∃ value, (member.1, value) ∈ inKeyOrder members := by
  have hsome : (members.reverse.lookup member.1).isSome := by
    rw [List.lookup_isSome_iff]
    exact ⟨member, List.mem_reverse.mpr h, beq_self_eq_true _⟩
  obtain ⟨value, hvalue⟩ := Option.isSome_iff_exists.mp hsome
  exact ⟨value, mem_inKeyOrder_iff.mpr hvalue⟩

/-! ### Values and their trees -/

theorem treeItems_eq_map (items : List Json) : treeItems items = items.map tree := by
  induction items with
  | nil => rfl
  | cons item items ih => rw [treeItems, ih, List.map_cons]

theorem treeMembers_eq_map (members : List (String × Json)) : treeMembers members =
    members.map fun member ↦ (.text (some member.1), member.2.tree) := by
  induction members with
  | nil => rfl
  | cons member members ih => rw [treeMembers, ih, List.map_cons]

@[simp] theorem isSound_tree (value : Json) : value.tree.isSound = true := by
  cases value <;> rfl

/-- Whether a member of an object has a text for a key and holds what denotes a value. -/
def Denotes (member : Tree × Tree) (value : String × Json) : Prop :=
  member.1 = .text (some value.1) ∧ member.2.value? = some value.2

namespace Tree

/-- Items that have values together (`h`) have them one by one. -/
theorem forall₂_of_valueItems? {items : List Tree} {values : List Json}
    (h : valueItems? items = some values) :
    List.Forall₂ (fun item value ↦ item.value? = some value) items values := by
  induction items generalizing values with
  | nil =>
    cases h
    exact .nil
  | cons item items ih =>
    rw [valueItems?] at h
    split at h
    · next value rest hvalue hrest =>
      cases h
      exact .cons hvalue (ih hrest)
    · cases h

theorem forall₂_of_valueMembers? {members : List (Tree × Tree)} {values : List (String × Json)}
    (h : valueMembers? members = some values) : List.Forall₂ Denotes members values := by
  induction members generalizing values with
  | nil =>
    cases h
    exact .nil
  | cons member members ih =>
    obtain ⟨key, item⟩ := member
    unfold valueMembers? at h
    split at h
    · next name value rest hvalue hrest =>
      cases h
      exact .cons ⟨rfl, hvalue⟩ (ih hrest)
    · cases h

theorem exists_of_value?_list {items : List Tree} {complete : Bool} {value : Json}
    (h : (list items complete).value? = some value) :
    ∃ values, value = .list values ∧
      List.Forall₂ (fun item value ↦ item.value? = some value) items values := by
  rw [value?] at h
  split at h
  · next values hvalues =>
    split_ifs at h
    cases h
    exact ⟨values, rfl, forall₂_of_valueItems? hvalues⟩
  · cases h

theorem exists_of_value?_object {members : List (Tree × Tree)} {complete : Bool} {value : Json}
    (h : (object members complete).value? = some value) :
    ∃ values, value = .object (inKeyOrder values) ∧ List.Forall₂ Denotes members values := by
  rw [value?] at h
  split at h
  · next values hvalues =>
    split_ifs at h
    cases h
    exact ⟨values, ofMembers_eq values, forall₂_of_valueMembers? hvalues⟩
  · cases h

end Tree

/-! ### Lists in step -/

section InStep

variable {α β : Type} {R : α → β → Prop} {items : List α} {others : List β}

theorem exists_mem_of_forall₂ (h : List.Forall₂ R items others) {item : α} (hitem : item ∈ items) :
    ∃ other ∈ others, R item other := by
  induction h with
  | nil => cases hitem
  | cons hfirst _ ih =>
    obtain rfl | hitem := List.mem_cons.mp hitem
    · exact ⟨_, List.mem_cons_self, hfirst⟩
    · obtain ⟨other, hother, hrel⟩ := ih hitem
      exact ⟨other, .tail _ hother, hrel⟩

theorem rel_getElem?_of_forall₂ (h : List.Forall₂ R items others) (index : Nat) :
    Option.Rel R items[index]? others[index]? := by
  induction h generalizing index with
  | nil => exact .none
  | cons hfirst _ ih =>
    cases index with
    | zero => exact .some hfirst
    | succ index => exact ih index

end InStep

/-! ### Reading by way of a value -/

/-- The relation of a tree to the tree of the value that it denotes. At most as many lists and
objects enclose the second one, as it can only be less deep. -/
def Relation.revalued : Relation := fun depth tree depth' tree' ↦
  depth' ≤ depth ∧ ∃ value, tree.value? = some value ∧ tree' = value.tree

namespace Fits

variable {names : List (List String)} {members : List (Tree × Tree)} {values : List (String × Json)}

/-- Members that fit a record (`h`) and belong to one field (`hfield`) denote one member, as there
is only one. -/
theorem eq_of_forall₂ (h : Fits names members) (hvalues : List.Forall₂ Denotes members values)
    {value other : String × Json} (hvalue : value ∈ values) (hother : other ∈ values) {index : Nat}
    (hfield : fieldOf names (.text (some value.1)) = some index)
    (hfield' : fieldOf names (.text (some other.1)) = some index) : value = other := by
  obtain ⟨member, hmember, hkey, hheld⟩ := exists_mem_of_forall₂ hvalues.flip hvalue
  obtain ⟨member', hmember', hkey', hheld'⟩ := exists_mem_of_forall₂ hvalues.flip hother
  have hsame : member = member' :=
    h.eq_of_fieldOf hmember hmember' (hkey ▸ hfield) (hkey' ▸ hfield')
  subst hsame
  refine Prod.ext ?_ (Option.some.inj (hheld.symm.trans hheld'))
  injection hkey.symm.trans hkey' with hname
  exact Option.some.inj hname

/-- Members that fit a record (`h`) still do when they are put into the order of their keys, as the
value that they denote keeps them. -/
theorem treeMembers (h : Fits names members) (hvalues : List.Forall₂ Denotes members values) :
    Fits names (Json.treeMembers (inKeyOrder values)) := by
  rw [treeMembers_eq_map]
  refine ⟨?_, List.pairwise_map.mpr ?_, ?_⟩
  · rintro _ hmember
    obtain ⟨value, -, rfl⟩ := List.mem_map.mp hmember
    exact ⟨value.1, rfl⟩
  · refine (pairwise_inKeyOrder values).imp_of_mem fun hvalue hother hlt index hfield hfield' ↦ ?_
    have hsame := h.eq_of_forall₂ hvalues (mem_of_mem_inKeyOrder hvalue)
      (mem_of_mem_inKeyOrder hother) hfield hfield'
    exact lt_irrefl _ (hsame ▸ hlt)
  · rintro _ hmember -
    obtain ⟨value, -, rfl⟩ := List.mem_map.mp hmember
    exact isSound_tree value.2

/-- What a field holds among the members of the value of a record is related by `Relation.revalued`
to what it holds among the members of the record. -/
theorem content_treeMembers (h : Fits names members)
    (hvalues : List.Forall₂ Denotes members values) {depth depth' : Nat} (hdepth : depth' ≤ depth)
    (index : Nat) : Relation.revalued.OfOption depth depth' (content names members index)
      (content names (Json.treeMembers (inKeyOrder values)) index) := by
  have hfits := h.treeMembers hvalues
  rw [treeMembers_eq_map] at hfits ⊢
  cases hcontent : content names members index with
  | none =>
    cases hcontent' : content names ((inKeyOrder values).map fun value ↦
        (.text (some value.1), value.2.tree)) index with
    | none => exact .none
    | some tree =>
      obtain ⟨key, hkey, hfield⟩ := hfits.content_eq_some_iff.mp hcontent'
      obtain ⟨value, hvalue, hsame⟩ := List.mem_map.mp hkey
      cases hsame
      obtain ⟨member, hmember, hname, -⟩ :=
        exists_mem_of_forall₂ hvalues.flip (mem_of_mem_inKeyOrder hvalue)
      have hsome := h.content_eq_some_iff.mpr ⟨member.1, hmember, hname ▸ hfield⟩
      cases hsome.symm.trans hcontent
  | some tree =>
    obtain ⟨key, hmember, hfield⟩ := h.content_eq_some_iff.mp hcontent
    obtain ⟨value, hvalue, hname, hheld⟩ := exists_mem_of_forall₂ hvalues hmember
    obtain ⟨last, hlast⟩ := exists_mem_inKeyOrder hvalue
    have hfield' : fieldOf names (.text (some value.1)) = some index := hname ▸ hfield
    have hsame : (value.1, last) = value :=
      h.eq_of_forall₂ hvalues (mem_of_mem_inKeyOrder hlast) hvalue hfield' hfield'
    have hcontent' := hfits.content_eq_some_iff.mpr
      ⟨.text (some value.1), List.mem_map.mpr ⟨value, hsame ▸ hlast, rfl⟩, hfield'⟩
    rw [hcontent']
    exact .some ⟨hdepth, value.2, hheld, rfl⟩

end Fits

/-- A record whose layout keeps `Relation.revalued` (`h`) is read from the tree of its value as from
its own tree. -/
theorem Layout.Keeps.revalued {α : Type} {layout : Layout α} (h : layout.Keeps .revalued)
    (title : String) : (layout.decoder title).Keeps .revalued := by
  rintro depth tree depth' _ a ⟨hdepth, value, hvalue, rfl⟩ hread
  obtain ⟨parts, hdivide, -⟩ := decoder_eq_ok_iff.mp hread
  cases tree with
  | object members complete =>
    obtain ⟨values, rfl, hvalues⟩ := Tree.exists_of_value?_object hvalue
    exact h.decoder_object hread fun hfits ↦ ⟨hfits.treeMembers hvalues, fun index ↦
      hfits.content_treeMembers hvalues (Nat.succ_le_succ hdepth) index⟩
  | list items complete =>
    obtain ⟨values, rfl, hvalues⟩ := Tree.exists_of_value?_list hvalue
    have hitems : List.Forall₂ (fun item item' ↦ Relation.revalued (depth + 1) item (depth' + 1)
        item') items (treeItems values) := by
      rw [treeItems_eq_map, List.forall₂_map_right_iff]
      exact hvalues.imp fun _ value hitem ↦ ⟨Nat.succ_le_succ hdepth, value, hitem, rfl⟩
    exact h.decoder_list hread hitems.length_eq.symm fun index ↦
      rel_getElem?_of_forall₂ hitems index
  | _ => cases hdivide

end BulkJobs.Json
