import Mathlib.Data.List.Forall2
import Mathlib.Data.List.Nodup
import Mathlib.Data.List.Perm.Subperm
import Mathlib.Data.String.Basic
import Mathlib.Order.Basic
import Swbt.Serde.SortedMap
/-!
# Values and the visitors generated for them

A JSON text as a tree whose objects keep their members in order, repeated keys
included, and what a generated deserializer reads from it. A struct reads the
members of an object in any order, or the items of an array in the order of
its fields.
-/

set_option autoImplicit false

namespace Serde

inductive Json
  | null
  | bool (value : Bool)
  | integer (value : Int)
  | float (bits : UInt64)
  | string (value : String)
  | array (items : List Json)
  | object (members : List (String × Json))

/-! ## Scalars -/

def readString : Json → Option String
  | .string value => some value
  | _ => none

def readBool : Json → Option Bool
  | .bool value => some value
  | _ => none

/-- An unsigned integer below `bound`. -/
def readUnsigned (bound : Nat) : Json → Option Nat
  | .integer value => if 0 ≤ value ∧ value < bound then some value.toNat else none
  | _ => none

/-- A variant without content: its name, or an object of its name and null. -/
def readUnitVariant {α : Type} (variants : List (String × α)) : Json → Option α
  | .string name => variants.lookup name
  | .object [(name, .null)] => variants.lookup name
  | _ => none

theorem readString_eq_some {json : Json} {value : String} : readString json = some value ↔ json = .string value := by
  cases json <;> simp [readString]

theorem readBool_eq_some {json : Json} {value : Bool} : readBool json = some value ↔ json = .bool value := by
  cases json <;> simp [readBool]

theorem readUnsigned_eq_some {bound value : Nat} {json : Json} :
    readUnsigned bound json = some value ↔ json = .integer value ∧ value < bound := by
  cases json with
  | integer found =>
    have hread : readUnsigned bound (.integer found) = if 0 ≤ found ∧ found < bound then some found.toNat else none := rfl
    rw [hread, Json.integer.injEq]
    split
    · rw [Option.some_inj]
      omega
    · refine iff_of_false (by simp) ?_
      omega
  | _ => simp [readUnsigned]

/-- A variant's name, or an object of the name and null. -/
def IsName (name : String) (json : Json) : Prop := json = .string name ∨ json = .object [(name, .null)]

theorem readUnitVariant_eq_some {α : Type} {variants : List (String × α)} {json : Json} {variant : α} :
    readUnitVariant variants json = some variant ↔ ∃ name, IsName name json ∧ variants.lookup name = some variant := by
  unfold IsName
  constructor
  · intro hread
    unfold readUnitVariant at hread
    split at hread
    · exact ⟨_, .inl rfl, hread⟩
    · exact ⟨_, .inr rfl, hread⟩
    · cases hread
  · rintro ⟨name, rfl | rfl, hname⟩
    · exact hname
    · exact hname

/-! ## Structs -/

/-- The loop over an object's members: unknown and repeated fields are refused. -/
def readFields (names : List String) : List (String × Json) → List (String × Json) → Option (List (String × Json))
  | slots, [] => some slots
  | slots, (key, value) :: rest =>
    if key ∉ names then none
    else if key ∈ slots.map Prod.fst then none
    else readFields names ((key, value) :: slots) rest

/-- The fields of a struct that denies unknown ones, in the order of `names`. -/
def structValues (names : List String) : Json → Option (List Json)
  | .object members => (readFields names [] members).bind fun slots => names.mapM fun name => slots.lookup name
  | .array items => if items.length = names.length then some items else none
  | _ => none

theorem readFields_eq_some {names : List String} {slots members out : List (String × Json)} :
    readFields names slots members = some out ↔
      (∀ key ∈ members.map Prod.fst, key ∈ names ∧ key ∉ slots.map Prod.fst) ∧ (members.map Prod.fst).Nodup ∧
        out = members.reverse ++ slots := by
  induction members generalizing slots with
  | nil => simp [readFields, eq_comm]
  | cons member rest ih =>
    obtain ⟨key, value⟩ := member
    unfold readFields
    split
    · rename_i hunknown
      refine iff_of_false (by simp) ?_
      rintro ⟨hknown, -⟩
      exact hunknown (hknown key (by simp)).1
    · split
      · rename_i hrepeated
        refine iff_of_false (by simp) ?_
        rintro ⟨hnew, -⟩
        exact (hnew key (by simp)).2 hrepeated
      · rename_i hknown hnew
        rw [ih]
        simp only [List.map_cons, List.mem_cons, not_or, List.nodup_cons, List.reverse_cons, List.append_assoc,
          List.singleton_append, forall_eq_or_imp, not_not] at hknown ⊢
        constructor
        · rintro ⟨hrest, hnodup, rfl⟩
          exact ⟨⟨⟨hknown, hnew⟩, fun other hother => ⟨(hrest other hother).1, (hrest other hother).2.2⟩⟩,
            ⟨fun hmem => (hrest key hmem).2.1 rfl, hnodup⟩, rfl⟩
        · rintro ⟨⟨-, hrest⟩, ⟨hfirst, hnodup⟩, rfl⟩
          refine ⟨fun other hother => ⟨(hrest other hother).1, ?_, (hrest other hother).2⟩, hnodup, rfl⟩
          rintro rfl
          exact hfirst hother

theorem lookup_eq_some {slots : List (String × Json)} (hnodup : (slots.map Prod.fst).Nodup) {key : String} {value : Json} :
    slots.lookup key = some value ↔ (key, value) ∈ slots := by
  induction slots with
  | nil => simp
  | cons slot rest ih =>
    obtain ⟨other, found⟩ := slot
    rw [List.map_cons, List.nodup_cons] at hnodup
    rw [List.lookup_cons, List.mem_cons]
    by_cases hkey : key = other
    · subst hkey
      rw [beq_self_eq_true]
      constructor
      · rintro ⟨⟩
        exact .inl rfl
      · rintro (hsame | hmem)
        · cases hsame
          rfl
        · exact absurd (List.mem_map_of_mem hmem) hnodup.1
    · rw [beq_eq_false_iff_ne.2 hkey]
      dsimp only
      rw [ih hnodup.2]
      constructor
      · exact .inr
      · rintro (hsame | hmem)
        · cases hsame
          exact absurd rfl hkey
        · exact hmem

theorem mapM_eq_some {α β : Type} {f : α → Option β} {items : List α} {values : List β} :
    items.mapM f = some values ↔ List.Forall₂ (fun item value => f item = some value) items values := by
  induction items generalizing values with
  | nil =>
    rw [List.mapM_nil, List.forall₂_nil_left_iff]
    exact ⟨fun h => (Option.some.inj h).symm, fun h => h ▸ rfl⟩
  | cons item rest ih =>
    rw [List.mapM_cons, List.forall₂_cons_left_iff]
    simp only [Option.bind_eq_bind, Option.bind_eq_some_iff, Option.pure_def, Option.some.injEq, ih]
    constructor
    · rintro ⟨value, hvalue, tail, htail, rfl⟩
      exact ⟨value, tail, hvalue, htail, rfl⟩
    · rintro ⟨value, tail, hvalue, htail, rfl⟩
      exact ⟨value, hvalue, tail, htail, rfl⟩

/-- An object gives a struct its fields when its members are just these fields. -/
theorem structValues_object {names : List String} (hnames : names.Nodup) {members : List (String × Json)}
    {values : List Json} : structValues names (.object members) = some values ↔
      values.length = names.length ∧ members.Perm (names.zip values) := by
  unfold structValues
  simp only [Option.bind_eq_some_iff, readFields_eq_some, List.map_nil, List.not_mem_nil, not_false_eq_true, and_true,
    List.append_nil, mapM_eq_some, List.forall₂_iff_zip]
  constructor
  · rintro ⟨slots, ⟨hknown, hnodup, rfl⟩, hlength, hvalues⟩
    have hkeys : (members.reverse.map Prod.fst).Nodup := by rwa [List.map_reverse, List.nodup_reverse]
    have hzip : (names.zip values).map Prod.fst = names := List.map_fst_zip hlength.le
    have hsubset : names.zip values ⊆ members.reverse := by
      rintro ⟨name, value⟩ hmem
      exact (lookup_eq_some hkeys).1 (hvalues hmem)
    have hshort : (members.map Prod.fst).length ≤ names.length :=
      (hnodup.subperm fun key hkey => hknown key hkey).length_le
    have hperm : (names.zip values).Perm members.reverse := by
      refine (List.Nodup.subperm (List.Nodup.of_map Prod.fst (by rwa [hzip])) hsubset).perm_of_length_le ?_
      rw [List.length_reverse, List.length_zip, ← hlength, min_self]
      simpa using hshort
    exact ⟨hlength.symm, (hperm.trans members.reverse_perm).symm⟩
  · rintro ⟨hlength, hperm⟩
    have hzip : (names.zip values).map Prod.fst = names := List.map_fst_zip hlength.ge
    have hkeys : (members.map Prod.fst).Perm names := hzip ▸ hperm.map Prod.fst
    have hnodup : (members.map Prod.fst).Nodup := hkeys.nodup_iff.2 hnames
    refine ⟨members.reverse, ⟨fun key hkey => hkeys.mem_iff.1 hkey, hnodup, rfl⟩, hlength.symm, ?_⟩
    intro name value hmem
    refine (lookup_eq_some (by rwa [List.map_reverse, List.nodup_reverse])).2 ?_
    exact List.mem_reverse.2 (hperm.mem_iff.2 hmem)

/-- What a struct is read from. -/
theorem structValues_eq_some {names : List String} (hnames : names.Nodup) {json : Json} {values : List Json} :
    structValues names json = some values ↔ values.length = names.length ∧
      ((∃ members, json = .object members ∧ members.Perm (names.zip values)) ∨ json = .array values) := by
  cases json with
  | object members =>
    rw [structValues_object hnames]
    refine and_congr_right fun _ => ?_
    constructor
    · exact fun hperm => .inl ⟨members, rfl, hperm⟩
    · rintro (⟨_, hsame, hperm⟩ | hsame)
      · cases hsame
        exact hperm
      · cases hsame
  | array items =>
    have hread : structValues names (.array items) = if items.length = names.length then some items else none := rfl
    rw [hread]
    constructor
    · intro hvalues
      split at hvalues
      · rename_i hlength
        cases hvalues
        exact ⟨hlength, .inr rfl⟩
      · cases hvalues
    · rintro ⟨hlength, ⟨_, hsame, _⟩ | hsame⟩
      · cases hsame
      · cases hsame
        exact if_pos hlength
  | null => simp [structValues]
  | bool value => simp [structValues]
  | integer value => simp [structValues]
  | float bits => simp [structValues]
  | string value => simp [structValues]

/-- An object of these members, each once, in any order. -/
def IsObject (fields : List (String × Json)) (json : Json) : Prop := ∃ members, json = .object members ∧ members.Perm fields

/-- A struct: an object of its fields, or an array of their values in order. -/
def IsStruct (fields : List (String × Json)) (json : Json) : Prop :=
  IsObject fields json ∨ json = .array (fields.map Prod.snd)

theorem structValues_iff {fields : List (String × Json)} (hnames : (fields.map Prod.fst).Nodup) {json : Json} :
    structValues (fields.map Prod.fst) json = some (fields.map Prod.snd) ↔ IsStruct fields json := by
  have hzip : (fields.map Prod.fst).zip (fields.map Prod.snd) = fields := by
    rw [List.zip_map', List.map_id'']
    exact fun _ => rfl
  rw [structValues_eq_some hnames, hzip]
  exact and_iff_right (by simp)

theorem length_structValues {names : List String} {json : Json} {values : List Json}
    (hvalues : structValues names json = some values) : values.length = names.length := by
  unfold structValues at hvalues
  split at hvalues
  · obtain ⟨slots, -, hslots⟩ := Option.bind_eq_some_iff.1 hvalues
    exact (mapM_eq_some.1 hslots).length_eq.symm
  · split at hvalues
    · rename_i hlength
      cases hvalues
      exact hlength
    · cases hvalues
  · cases hvalues

/-! ## Internally tagged enums -/

/-- The loop over the members of a tagged object: one member is the tag, the
others are the content. -/
def splitTag (tag : String) : Option String → List (String × Json) → List (String × Json) → Option (String × Json)
  | found, content, [] => found.map fun name => (name, .object content)
  | found, content, (key, value) :: rest =>
    if key = tag then
      match found, value with
      | none, .string name => splitTag tag (some name) content rest
      | _, _ => none
    else splitTag tag found (content ++ [(key, value)]) rest

/-- The tag of a value and its content. An array has its tag in front. -/
def taggedContent (tag : String) : Json → Option (String × Json)
  | .object members => splitTag tag none [] members
  | .array (.string name :: rest) => some (name, .array rest)
  | _ => none

theorem splitTag_some {tag name found : String} {content members : List (String × Json)} {json : Json} :
    splitTag tag (some found) content members = some (name, json) ↔
      tag ∉ members.map Prod.fst ∧ name = found ∧ json = .object (content ++ members) := by
  induction members generalizing content with
  | nil => simp [splitTag, eq_comm]
  | cons member rest ih =>
    obtain ⟨key, value⟩ := member
    unfold splitTag
    split
    · rename_i htag
      refine iff_of_false (by simp) ?_
      rintro ⟨hnew, -⟩
      exact hnew (by simp [htag])
    · rename_i hother
      rw [ih]
      simp [Ne.symm hother]

theorem splitTag_none {tag name : String} {content members : List (String × Json)} {json : Json} :
    splitTag tag none content members = some (name, json) ↔
      ∃ before after, members = before ++ (tag, .string name) :: after ∧ tag ∉ before.map Prod.fst ∧
        tag ∉ after.map Prod.fst ∧ json = .object (content ++ before ++ after) := by
  induction members generalizing content with
  | nil => simp [splitTag]
  | cons member rest ih =>
    obtain ⟨key, value⟩ := member
    unfold splitTag
    split
    · rename_i htag
      subst htag
      constructor
      · intro hsplit
        split at hsplit
        · obtain ⟨hafter, rfl, rfl⟩ := splitTag_some.1 hsplit
          exact ⟨[], rest, rfl, List.not_mem_nil, hafter, by simp⟩
        · cases hsplit
      · rintro ⟨before, after, hmembers, hbefore, hafter, rfl⟩
        cases before with
        | nil =>
          cases hmembers
          exact splitTag_some.2 ⟨hafter, rfl, by simp⟩
        | cons first before =>
          cases hmembers
          exact absurd List.mem_cons_self hbefore
    · rename_i hother
      rw [ih]
      constructor
      · rintro ⟨before, after, rfl, hbefore, hafter, rfl⟩
        exact ⟨(key, value) :: before, after, rfl, by simp [Ne.symm hother, hbefore], hafter, by simp⟩
      · rintro ⟨before, after, hmembers, hbefore, hafter, rfl⟩
        cases before with
        | nil =>
          cases hmembers
          exact absurd rfl hother
        | cons first before =>
          cases hmembers
          exact ⟨before, after, rfl, fun hmem => hbefore (List.mem_cons_of_mem _ hmem), hafter, by simp⟩

/-- A tagged object is its tag and its content, the tag anywhere among the members. -/
theorem taggedContent_object {tag name : String} {members : List (String × Json)} {content : Json} :
    taggedContent tag (.object members) = some (name, content) ↔
      ∃ before after, members = before ++ (tag, .string name) :: after ∧ tag ∉ before.map Prod.fst ∧
        tag ∉ after.map Prod.fst ∧ content = .object (before ++ after) := by
  unfold taggedContent
  rw [splitTag_none]
  rfl

/-- A struct's fields beside the tag. -/
theorem taggedFields_object {tag name : String} {names : List String} (hnames : names.Nodup) (htag : tag ∉ names)
    {members : List (String × Json)} {values : List Json} :
    (∃ content, taggedContent tag (.object members) = some (name, content) ∧ structValues names content = some values) ↔
      values.length = names.length ∧ members.Perm ((tag, .string name) :: names.zip values) := by
  constructor
  · rintro ⟨content, hcontent, hvalues⟩
    obtain ⟨before, after, rfl, hbefore, hafter, rfl⟩ := taggedContent_object.1 hcontent
    obtain ⟨hlength, hperm⟩ := (structValues_object hnames).1 hvalues
    exact ⟨hlength, List.perm_middle.trans (hperm.cons _)⟩
  · rintro ⟨hlength, hperm⟩
    obtain ⟨before, after, rfl⟩ := List.append_of_mem (hperm.mem_iff.2 List.mem_cons_self)
    have hrest : (before ++ after).Perm (names.zip values) := (List.perm_middle.symm.trans hperm).cons_inv
    have hzip : (names.zip values).map Prod.fst = names := List.map_fst_zip hlength.ge
    have hkeys : tag ∉ (before ++ after).map Prod.fst := by
      rw [(hrest.map Prod.fst).mem_iff, hzip]
      exact htag
    rw [List.map_append, List.mem_append, not_or] at hkeys
    exact ⟨_, taggedContent_object.2 ⟨before, after, rfl, hkeys.1, hkeys.2, rfl⟩,
      (structValues_object hnames).2 ⟨hlength, hrest⟩⟩

/-- A tagged struct: the tag is one more field, and comes first in an array. -/
theorem taggedStruct_iff {tag name : String} {fields : List (String × Json)} (hnames : (fields.map Prod.fst).Nodup)
    (htag : tag ∉ fields.map Prod.fst) {json : Json} :
    (∃ content, taggedContent tag json = some (name, content) ∧
      structValues (fields.map Prod.fst) content = some (fields.map Prod.snd)) ↔
        IsStruct ((tag, .string name) :: fields) json := by
  have hzip : (fields.map Prod.fst).zip (fields.map Prod.snd) = fields := by
    rw [List.zip_map', List.map_id'']
    exact fun _ => rfl
  unfold IsStruct IsObject
  cases json with
  | object members =>
    rw [taggedFields_object hnames htag, hzip]
    constructor
    · exact fun h => .inl ⟨members, rfl, h.2⟩
    · rintro (⟨_, hsame, hperm⟩ | hsame)
      · cases hsame
        exact ⟨by simp, hperm⟩
      · cases hsame
  | array items =>
    constructor
    · rintro ⟨content, hcontent, hvalues⟩
      unfold taggedContent at hcontent
      split at hcontent
      · rename_i hsame
        cases hsame
      · rename_i found rest hsame
        cases hsame
        cases hcontent
        obtain ⟨-, ⟨_, hsame, _⟩ | hsame⟩ := (structValues_eq_some hnames).1 hvalues
        · cases hsame
        · cases hsame
          exact .inr rfl
      · cases hcontent
    · rintro (⟨_, hsame, _⟩ | hsame)
      · cases hsame
      · cases hsame
        exact ⟨_, rfl, (structValues_eq_some hnames).2 ⟨by simp, .inr rfl⟩⟩
  | _ => simp [taggedContent]

/-! ## Maps -/

/-- A map from an object: each member is inserted, over an earlier one of the same key. -/
def readMap {κ ν : Type} [LinearOrder κ] (key : String → Option κ) (value : Json → Option ν) :
    Json → Option (SortedMap κ ν)
  | .object members =>
    members.foldlM (fun map member => do return map.insert (← key member.1) (← value member.2)) .empty
  | _ => none

section Maps

variable {κ ν : Type} [LinearOrder κ] {key : String → Option κ} {value : Json → Option ν}

/-- A member is read as an entry. -/
def ReadsEntry (key : String → Option κ) (value : Json → Option ν) (member : String × Json) (entry : κ × ν) : Prop :=
  key member.1 = some entry.1 ∧ value member.2 = some entry.2

theorem foldlM_insert {members : List (String × Json)} {map out : SortedMap κ ν} :
    members.foldlM (fun map member => do return map.insert (← key member.1) (← value member.2)) map = some out ↔
      ∃ entries, List.Forall₂ (ReadsEntry key value) members entries ∧
        out = entries.foldl (fun map entry => map.insert entry.1 entry.2) map := by
  induction members generalizing map with
  | nil => simp [eq_comm]
  | cons member rest ih =>
    rw [List.foldlM_cons]
    simp only [Option.bind_eq_bind, Option.bind_eq_some_iff, Option.pure_def, Option.some.injEq,
      List.forall₂_cons_left_iff]
    constructor
    · rintro ⟨_, ⟨k, hk, v, hv, rfl⟩, hrest⟩
      obtain ⟨entries, hentries, rfl⟩ := ih.1 hrest
      exact ⟨(k, v) :: entries, ⟨(k, v), entries, ⟨hk, hv⟩, hentries, rfl⟩, rfl⟩
    · rintro ⟨_, ⟨⟨k, v⟩, entries, ⟨hk, hv⟩, hentries, rfl⟩, rfl⟩
      exact ⟨_, ⟨k, hk, v, hv, rfl⟩, ih.2 ⟨entries, hentries, rfl⟩⟩

/-- A map holds the last value of each key; every member must be readable. -/
theorem readMap_eq_some {json : Json} {map : SortedMap κ ν} : readMap key value json = some map ↔
    ∃ members entries, json = .object members ∧
      List.Forall₂ (ReadsEntry key value) members entries ∧ map = .ofList entries := by
  constructor
  · intro hread
    cases json with
    | object members =>
      obtain ⟨entries, hentries, hmap⟩ := foldlM_insert.1 hread
      exact ⟨members, entries, rfl, hentries, hmap⟩
    | _ => cases hread
  · rintro ⟨members, entries, rfl, hentries, hmap⟩
    exact foldlM_insert.2 ⟨entries, hentries, hmap⟩

end Maps

/-! ## Writing -/

/-- An object as it is written: its keys sorted. -/
def writeObject (members : List (String × Json)) : Json := .object (SortedMap.ofList members).entries

/-- A struct reads back the fields it was written with. -/
theorem structValues_writeObject {names : List String} (hnames : names.Nodup) {values : List Json}
    (hlength : values.length = names.length) : structValues names (writeObject (names.zip values)) = some values := by
  have hzip : (names.zip values).map Prod.fst = names := List.map_fst_zip hlength.ge
  exact (structValues_object hnames).2 ⟨hlength, SortedMap.perm_ofList (by rwa [hzip])⟩

theorem taggedFields_writeObject {tag name : String} {names : List String} (hnames : names.Nodup) (htag : tag ∉ names)
    {values : List Json} (hlength : values.length = names.length) :
    ∃ content, taggedContent tag (writeObject ((tag, .string name) :: names.zip values)) = some (name, content) ∧
      structValues names content = some values := by
  have hzip : (names.zip values).map Prod.fst = names := List.map_fst_zip hlength.ge
  refine (taggedFields_object hnames htag).2 ⟨hlength, SortedMap.perm_ofList ?_⟩
  rw [List.map_cons, hzip]
  exact List.nodup_cons.2 ⟨htag, hnames⟩

/-- A map reads back what was written from it, when keys are written in their order. -/
theorem readMap_writeObject {κ ν : Type} [LinearOrder κ] {key : String → Option κ} {value : Json → Option ν}
    {text : κ → String} {write : ν → Json} (map : SortedMap κ ν) (hkey : ∀ k, key (text k) = some k)
    (htext : ∀ k k', k < k' → text k < text k') (hvalue : ∀ k v, (k, v) ∈ map.entries → value (write v) = some v) :
    readMap key value (writeObject (map.entries.map fun entry => (text entry.1, write entry.2))) = some map := by
  have hsorted : (map.entries.map fun entry => (text entry.1, write entry.2)).Pairwise fun a b => a.1 < b.1 :=
    List.pairwise_map.2 (map.sorted.imp fun hlt => htext _ _ hlt)
  have hentries := SortedMap.ofList_entries ⟨_, hsorted⟩
  have hwritten : writeObject (map.entries.map fun entry => (text entry.1, write entry.2)) =
      .object (map.entries.map fun entry => (text entry.1, write entry.2)) :=
    congrArg (fun written : SortedMap String Json => Json.object written.entries) hentries
  rw [hwritten]
  refine readMap_eq_some.2 ⟨_, map.entries, rfl, ?_, (SortedMap.ofList_entries map).symm⟩
  rw [List.forall₂_map_left_iff, List.forall₂_same]
  exact fun entry hmem => ⟨hkey entry.1, hvalue entry.1 entry.2 hmem⟩

end Serde
