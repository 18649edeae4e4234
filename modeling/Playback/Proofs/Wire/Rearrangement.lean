import Mathlib.Data.List.Perm.Basic
import Playback.Json.Decoding

/-! Other ways to write a value in JSON. The members of an object may stand in any order, and
members that nobody reads may stand among them, at every level. What is read from the fields of a
record does not depend on either. -/

namespace Playback.Json

/-- What is read of a value: all of it as it is, a list, or the fields of a record. -/
inductive Shape where
  | value
  | list (element : Shape)
  | record (fields : List (String × Shape))

def isScalar : Json → Bool
  | .null | .bool _ | .integer _ | .real _ | .string _ => true
  | .array _ | .object _ | .unreadable => false

/-- Another way to write a value of a shape. -/
inductive Rearranged : Shape → Json → Json → Prop where
  | refl (shape : Shape) (v : Json) : Rearranged shape v v
  | trans {shape : Shape} {u v w : Json} (first : Rearranged shape u v)
      (second : Rearranged shape v w) : Rearranged shape u w
  | element {shape : Shape} {before after : List Json} {v v' : Json} (h : Rearranged shape v v') :
      Rearranged (.list shape) (.array (before ++ v :: after)) (.array (before ++ v' :: after))
  | permute {fields : List (String × Shape)} {members members' : List (String × Json)}
      (h : members.Perm members') : Rearranged (.record fields) (.object members) (.object members')
  /-- A member with a name that is not known. -/
  | insert {fields : List (String × Shape)} {members : List (String × Json)} {name : String}
      {v : Json} (unknown : fields.lookup name = none) (scalar : v.isScalar = true) :
      Rearranged (.record fields) (.object members) (.object ((name, v) :: members))
  | member {fields : List (String × Shape)} {members : List (String × Json)} {name : String}
      {shape : Shape} {v v' : Json} (known : fields.lookup name = some shape)
      (h : Rearranged shape v v') :
      Rearranged (.record fields) (.object ((name, v) :: members)) (.object ((name, v') :: members))

/-- The values of a field in two objects give the same, whether the field is missing, there once or
repeated. -/
inductive Alike (shape : Shape) : List Json → List Json → Prop where
  | none : Alike shape [] []
  | one {v v' : Json} (h : Rearranged shape v v') : Alike shape [v] [v']
  | many {l l' : List Json} (h : 2 ≤ l.length) (h' : 2 ≤ l'.length) : Alike shape l l'

/-- The known fields have the same values in two objects. -/
def Agree (fields : List (String × Shape)) (members members' : List (String × Json)) : Prop :=
  ∀ name shape, fields.lookup name = some shape →
    Alike shape (valuesOf name members) (valuesOf name members')

/-- What is read of a value does not depend on the way in which it is written. -/
def Steady {α : Type} (shape : Shape) (decode : Json → Option α) : Prop :=
  ∀ v v', Rearranged shape v v' → decode v' = decode v

/-- What is read of an object depends on its known fields only. -/
def Respects {α : Type} (fields : List (String × Shape)) (decode : Json → Option α) : Prop :=
  ∀ members members', Agree fields members members' →
    decode (.object members') = decode (.object members)

section Values

variable {name other : String} {v : Json} {members : List (String × Json)}

@[simp] theorem valuesOf_nil (name : String) : valuesOf name [] = [] := rfl

@[simp] theorem valuesOf_cons_self :
    valuesOf name ((name, v) :: members) = v :: valuesOf name members := by
  simp [valuesOf]

@[simp] theorem valuesOf_cons_ne (h : name ≠ other) :
    valuesOf other ((name, v) :: members) = valuesOf other members := by
  simp [valuesOf, h]

theorem valuesOf_filter (tag : String) :
    valuesOf name (members.filter fun m => m.1 ≠ tag) =
      if name = tag then [] else valuesOf name members := by
  induction members with
  | nil => simp
  | cons m rest ih =>
    obtain ⟨other, w⟩ := m
    by_cases ho : other = tag
    · by_cases hn : name = tag
      · simp_all
      · have hne : other ≠ name := fun h => hn (h ▸ ho)
        simp_all
    · by_cases hn : other = name
      · simp_all
      · simp_all

end Values

namespace Alike

variable {shape : Shape} {l l' l'' : List Json}

theorem refl (shape : Shape) (l : List Json) : Alike shape l l := by
  match l with
  | [] => exact .none
  | [v] => exact .one (.refl shape v)
  | u :: v :: rest => exact .many (by simp) (by simp)

theorem trans (h : Alike shape l l') (h' : Alike shape l' l'') : Alike shape l l'' := by
  cases h with
  | none => exact h'
  | one h => cases h' with
    | one h' => exact .one (h.trans h')
    | many hlen => simp at hlen
  | many hlen hlen' => cases h' with
    | none => simp at hlen'
    | one => simp at hlen'
    | many _ hlen'' => exact .many hlen hlen''

theorem of_perm (h : l.Perm l') : Alike shape l l' := by
  match l with
  | [] => rw [h.nil_eq]; exact .refl shape l'
  | [v] => rw [List.perm_singleton.mp h.symm]; exact .refl shape [v]
  | u :: v :: rest => exact .many (by simp) (by rw [← h.length_eq]; simp)

theorem singleton {v : Json} (h : Alike shape [v] l) : ∃ v', l = [v'] ∧ Rearranged shape v v' := by
  cases h with
  | one h => exact ⟨_, rfl, h⟩
  | many hlen => simp at hlen

end Alike

theorem rearranged_value {v v' : Json} (h : Rearranged .value v v') : v' = v := by
  generalize hs : Shape.value = shape at h
  induction h with
  | refl => rfl
  | trans _ _ ih ih' => exact (ih' hs).trans (ih hs)
  | _ => cases hs

theorem steady_value {α : Type} (decode : Json → Option α) : Steady .value decode :=
  fun _ _ h => congrArg decode (rearranged_value h)

namespace Agree

variable {α : Type} {fields : List (String × Shape)} {members members' : List (String × Json)}
  {name : String} {shape : Shape} {decode : Json → Option α}

theorem refl (fields : List (String × Shape)) (members : List (String × Json)) :
    Agree fields members members := fun _ _ _ => .refl _ _

theorem of_perm (h : members.Perm members') : Agree fields members members' :=
  fun _ _ _ => .of_perm (h.filterMap _)

theorem insert {v : Json} (hname : fields.lookup name = none) :
    Agree fields members ((name, v) :: members) := by
  intro other shape hother
  have hne : name ≠ other := by
    rintro rfl
    simp [hname] at hother
  rw [valuesOf_cons_ne hne]
  exact .refl _ _

theorem member {v v' : Json} (hname : fields.lookup name = some shape)
    (h : Rearranged shape v v') :
    Agree fields ((name, v) :: members) ((name, v') :: members) := by
  intro other shape' hother
  by_cases hne : name = other
  · subst hne
    obtain rfl := Option.some.inj (hname.symm.trans hother)
    rw [valuesOf_cons_self, valuesOf_cons_self]
    cases valuesOf name members with
    | nil => exact .one h
    | cons u rest => exact .many (by simp) (by simp)
  · rw [valuesOf_cons_ne hne, valuesOf_cons_ne hne]
    exact .refl _ _

/-- Without the tag the other fields still agree. -/
theorem filter (h : Agree fields members members') (tag : String) :
    Agree fields (members.filter fun m => m.1 ≠ tag) (members'.filter fun m => m.1 ≠ tag) := by
  intro name shape hname
  rw [valuesOf_filter, valuesOf_filter]
  split
  · exact .none
  · exact h name shape hname

theorem required (h : Agree fields members members') (hname : fields.lookup name = some shape)
    (hd : Steady shape decode) :
    Json.required decode name members' = Json.required decode name members := by
  unfold Json.required
  have hvalues := h name shape hname
  generalize valuesOf name members = l at *
  generalize valuesOf name members' = l' at *
  cases hvalues with
  | none => rfl
  | one h => exact hd _ _ h
  | many hl hl' =>
    match l, l' with
    | _ :: _ :: _, _ :: _ :: _ => rfl

theorem optional (h : Agree fields members members') (hname : fields.lookup name = some shape)
    (hd : Steady shape decode) (default : α) :
    Json.optional decode default name members' = Json.optional decode default name members := by
  unfold Json.optional
  have hvalues := h name shape hname
  generalize valuesOf name members = l at *
  generalize valuesOf name members' = l' at *
  cases hvalues with
  | none => rfl
  | one h => exact hd _ _ h
  | many hl hl' =>
    match l, l' with
    | _ :: _ :: _, _ :: _ :: _ => rfl

end Agree

theorem Agree.required_value {α : Type} {fields : List (String × Shape)}
    {members members' : List (String × Json)} (h : Agree fields members members')
    {decode : Json → Option α} {name : String} (hname : fields.lookup name = some .value) :
    Json.required decode name members' = Json.required decode name members :=
  h.required hname (steady_value decode)

theorem Agree.optional_value {α : Type} {fields : List (String × Shape)}
    {members members' : List (String × Json)} (h : Agree fields members members')
    {decode : Json → Option α} {default : α} {name : String}
    (hname : fields.lookup name = some .value) :
    Json.optional decode default name members' = Json.optional decode default name members :=
  h.optional hname (steady_value decode) default

/-- An object with known fields is written as another one that agrees with it. -/
theorem Rearranged.agree {fields : List (String × Shape)} {v v' : Json}
    (h : Rearranged (.record fields) v v') :
    v' = v ∨ ∃ members members', v = .object members ∧ v' = .object members' ∧
      Agree fields members members' := by
  generalize hs : Shape.record fields = shape at h
  induction h with
  | refl => exact .inl rfl
  | trans _ _ ih ih' =>
    rcases ih hs with rfl | ⟨members, members', rfl, rfl, h⟩
    · exact ih' hs
    · rcases ih' hs with rfl | ⟨_, members'', hsame, rfl, h'⟩
      · exact .inr ⟨members, members', rfl, rfl, h⟩
      · cases hsame
        exact .inr ⟨members, members'', rfl, rfl, fun name shape hname =>
          (h name shape hname).trans (h' name shape hname)⟩
  | element => cases hs
  | permute h =>
    exact .inr ⟨_, _, rfl, rfl, .of_perm h⟩
  | insert unknown =>
    cases hs
    exact .inr ⟨_, _, rfl, rfl, .insert unknown⟩
  | member known h =>
    cases hs
    exact .inr ⟨_, _, rfl, rfl, .member known h⟩

theorem Respects.steady {α : Type} {fields : List (String × Shape)} {decode : Json → Option α}
    (h : Respects fields decode) : Steady (.record fields) decode := by
  intro v v' hv
  rcases hv.agree with rfl | ⟨members, members', rfl, rfl, ha⟩
  · rfl
  · exact h members members' ha

theorem Steady.listOf {α : Type} {shape : Shape} {decode : Json → Option α}
    (h : Steady shape decode) : Steady (.list shape) (Json.listOf decode) := by
  intro v v' hv
  generalize hs : Shape.list shape = shape' at hv
  induction hv with
  | refl => rfl
  | trans _ _ ih ih' => exact (ih' hs).trans (ih hs)
  | element hv =>
    cases hs
    simp only [Json.listOf, List.mapM_append, List.mapM_cons, h _ _ hv]
  | _ => cases hs

section Readable

theorem readableElements_eq (elements : List Json) :
    readableElements elements = elements.all readable := by
  induction elements with
  | nil => rfl
  | cons v rest ih => simp [readableElements, ih]

theorem readableMembers_eq (members : List (String × Json)) :
    readableMembers members = members.all fun m => m.2.readable := by
  induction members with
  | nil => rfl
  | cons m rest ih => simp [readableMembers, ih]

theorem readable_of_isScalar {v : Json} (h : v.isScalar = true) : v.readable = true := by
  cases v with
  | array | object | unreadable => cases h
  | _ => rfl

/-- All of a value can be read in each way that it is written. -/
theorem Rearranged.readable {shape : Shape} {v v' : Json} (h : Rearranged shape v v') :
    v'.readable = v.readable := by
  induction h with
  | refl => rfl
  | trans _ _ ih ih' => exact ih'.trans ih
  | element _ ih => simp [Json.readable, readableElements_eq, ih]
  | permute h => simp only [Json.readable, readableMembers_eq, h.all_eq]
  | insert _ scalar => simp [Json.readable, readableMembers_eq, readable_of_isScalar scalar]
  | member _ _ ih => simp [Json.readable, readableMembers_eq, ih]

end Readable

theorem tag_mem {α : Type} {held : Bool} {names : List (String × α)} {v : Json} {a : α}
    (h : tag held names v = some a) : ∃ name, (name, a) ∈ names := by
  unfold tag at h
  split at h
  · obtain ⟨before, after, rfl, -⟩ := List.lookup_eq_some_iff.mp h
    exact ⟨_, List.mem_append_right before List.mem_cons_self⟩
  · split at h
    · obtain ⟨m, hm, rfl⟩ := Option.map_eq_some_iff.mp h
      exact ⟨m.1, List.mem_of_getElem? hm⟩
    · cases h
  · cases h

theorem required_some {α : Type} {decode : Json → Option α} {name : String}
    {members : List (String × Json)} {a : α} (h : required decode name members = some a) :
    ∃ v, decode v = some a := by
  unfold required at h
  split at h
  · exact ⟨_, h⟩
  · cases h

/-- What a tag chooses is read in the same way wherever the tag stands. -/
theorem steady_byTag {α : Type} {fields : List (String × Shape)} {name : String}
    {forms : List (String × (Json → Option α))} (held : Bool)
    (hname : fields.lookup name = some .value) (hforms : ∀ form ∈ forms, Respects fields form.2) :
    Steady (.record fields) (byTag held name forms) := by
  intro v v' hv
  have hreadable := hv.readable
  rcases hv.agree with rfl | ⟨members, members', rfl, rfl, ha⟩
  · rfl
  · have htag := ha.required hname (steady_value (tag held forms))
    simp only [byTag, tagged, hreadable, htag]
    split
    · cases hchosen : required (tag held forms) name members with
      | none => rfl
      | some decode =>
        obtain ⟨t, ht⟩ := required_some hchosen
        obtain ⟨chosen, hmem⟩ := tag_mem ht
        exact hforms _ hmem _ _ (ha.filter name)
    · rfl

end Playback.Json
