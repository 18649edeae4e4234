import Mathlib.Logic.Function.Basic
import Playback.Proofs.Wire.Rearrangement
import Playback.Wire.Event

/-! Events can be told apart in JSON. Two JSON values are the same when nothing but the order of the
members of their objects differs, so they are compared with these sorted. -/

namespace Playback

open Function

namespace Json

/-- Values that differ are encoded differently, whatever the order of the members. -/
def Faithful {α : Type} (encode : α → Json) : Prop := Injective fun a => (encode a).sorted

/-- Two objects have the same values under `name`. -/
def SameAt (name : String) (members members' : List (String × Json)) : Prop :=
  ((valuesOf name members).map sorted).Perm ((valuesOf name members').map sorted)

/-- The names of the members of an object, in order. -/
def names : Json → List String
  | .object members => members.map (·.1)
  | _ => []

theorem sortedElements_eq (elements : List Json) :
    sortedElements elements = elements.map sorted := by
  induction elements with
  | nil => rfl
  | cons v rest ih => rw [sortedElements, ih, List.map_cons]

theorem sortedMembers_eq (members : List (String × Json)) :
    sortedMembers members = members.map fun m => (m.1, m.2.sorted) := by
  induction members with
  | nil => rfl
  | cons m rest ih => rw [sortedMembers, ih, List.map_cons]

theorem valuesOf_sortedMembers (name : String) (members : List (String × Json)) :
    valuesOf name (sortedMembers members) = (valuesOf name members).map sorted := by
  rw [sortedMembers_eq, valuesOf, valuesOf, List.filterMap_map, List.map_filterMap]
  congr
  funext m
  by_cases h : m.1 = name <;> simp [h]

theorem sortMembers_perm (members : List (String × Json)) :
    (sortMembers members).Perm members := List.mergeSort_perm _ _

/-- The same object has the same values under every name. -/
theorem sameAt_of_sorted {members members' : List (String × Json)}
    (h : (Json.object members).sorted = (Json.object members').sorted) (name : String) :
    SameAt name members members' := by
  simp only [sorted, Json.object.injEq] at h
  have hperm : (sortedMembers members).Perm (sortedMembers members') :=
    (sortMembers_perm _).symm.trans (h ▸ sortMembers_perm _)
  have hvalues : (valuesOf name (sortedMembers members)).Perm
      (valuesOf name (sortedMembers members')) := hperm.filterMap _
  rwa [valuesOf_sortedMembers, valuesOf_sortedMembers] at hvalues

theorem valuesOf_eq_nil {name : String} {members : List (String × Json)}
    (h : name ∉ members.map (·.1)) : valuesOf name members = [] := by
  refine List.filterMap_eq_nil_iff.mpr fun m hm => if_neg ?_
  rintro rfl
  exact h (List.mem_map_of_mem hm)

section Flattening

variable {name : String} {front back : List (String × Json)}

theorem valuesOf_front (h : valuesOf name back = []) :
    valuesOf name (front ++ back) = valuesOf name front := by
  rw [valuesOf, List.filterMap_append, ← valuesOf, ← valuesOf, h, List.append_nil]

theorem valuesOf_back (h : name ∉ front.map (·.1)) :
    valuesOf name (front ++ back) = valuesOf name back := by
  rw [valuesOf, List.filterMap_append, ← valuesOf, ← valuesOf, valuesOf_eq_nil h, List.nil_append]

end Flattening

/-- A field can be told from its value in the object. -/
theorem Faithful.eq_of_sameAt {α : Type} {encode : α → Json} (hf : Faithful encode) {name : String}
    {members members' : List (String × Json)} (h : SameAt name members members') {a b : α}
    (ha : valuesOf name members = [encode a]) (hb : valuesOf name members' = [encode b]) :
    a = b := by
  rw [SameAt, ha, hb] at h
  exact hf (List.singleton_perm_singleton.mp h)

theorem faithful_string : Faithful Json.string := fun _ _ h => Json.string.inj h

theorem faithful_int64 : Faithful fun n : Int64 => .integer n.toInt := fun _ _ h =>
  Int64.toInt_inj.mp (Json.integer.inj h)

theorem faithful_nat : Faithful fun n : Nat => .integer n := fun _ _ h =>
  Int.ofNat.inj (Json.integer.inj h)

theorem faithful_uint8 : Faithful fun n : UInt8 => .integer n.toNat := fun _ _ h =>
  UInt8.toNat_inj.mp (faithful_nat h)

theorem faithful_orNull_text : Faithful (orNull .string) := by
  intro a b h
  cases a <;> cases b <;> simp_all [orNull, sorted]

theorem Faithful.list {α : Type} {encode : α → Json} (h : Faithful encode) :
    Faithful (list encode) := by
  intro xs ys heq
  simp only [Json.list, sorted, sortedElements_eq, List.map_map, Json.array.injEq] at heq
  exact List.map_injective_iff.mpr h heq

end Json

open Json

theorem Ad.faithful : Faithful Ad.encode := by
  rintro ⟨id, title, duration, creativeId⟩ ⟨id', title', duration', creativeId'⟩ h
  have hsame := sameAt_of_sorted h
  obtain rfl : id = id' := faithful_string.eq_of_sameAt (hsame "ad_id") rfl rfl
  obtain rfl : title = title' := faithful_orNull_text.eq_of_sameAt (hsame "title") rfl rfl
  obtain rfl : duration = duration' :=
    faithful_int64.eq_of_sameAt (hsame "duration_micros") rfl rfl
  obtain rfl : creativeId = creativeId' :=
    faithful_orNull_text.eq_of_sameAt (hsame "creative_id") rfl rfl
  rfl

theorem Avail.faithful : Faithful Avail.encode := by
  rintro ⟨id, start, duration, ads⟩ ⟨id', start', duration', ads'⟩ h
  have hsame := sameAt_of_sorted h
  obtain rfl : id = id' := faithful_string.eq_of_sameAt (hsame "avail_id") rfl rfl
  obtain rfl : start = start' := faithful_int64.eq_of_sameAt (hsame "start_time_micros") rfl rfl
  obtain rfl : duration = duration' :=
    faithful_int64.eq_of_sameAt (hsame "duration_micros") rfl rfl
  obtain rfl : ads = ads' := Ad.faithful.list.eq_of_sameAt (hsame "ads") rfl rfl
  rfl

/-- Every kind can be found by its name. -/
theorem EventKind.ofName?_name (kind : EventKind) : ofName? kind.name = some kind := by
  cases kind with
  | adStarted place | adCompleted place => cases place <;> decide +kernel
  | watched milestone => cases milestone <;> decide +kernel
  | _ => decide +kernel

theorem EventKind.name_injective : Injective EventKind.name := fun _ _ h =>
  Option.some.inj ((ofName?_name _).symm.trans ((congrArg ofName? h).trans (ofName?_name _)))

/-- The names of the fields that stand beside those of an event in its record. -/
def Event.taken : List String := ["id", "session_id", "timestamp", "sequence"]

/-- The names of the fields that stand beside those of a payload in its event and in its record. -/
def Payload.taken : List String := Event.taken ++ ["video_id", "kind"]

/-- No field of a payload has a name that is taken, and no two have the same one. -/
theorem Payload.names_nodup (p : Payload) : (taken ++ p.members.map (·.1)).Nodup := by
  cases p <;> simp [taken, Event.taken, members]

theorem Payload.valuesOf_taken (p : Payload) {name : String} (h : name ∈ taken) :
    valuesOf name p.members = [] :=
  valuesOf_eq_nil fun hm => (List.nodup_append.mp p.names_nodup).2.2 name h name hm rfl

theorem Payload.members_eq (p : Payload) :
    ∃ tag fields, p.members = ("payload", .string tag) :: fields := by
  cases p <;> exact ⟨_, _, rfl⟩

/-- A payload can be told from the values under the names that are not taken. -/
theorem Payload.eq_of_sameAt {p q : Payload}
    (h : ∀ name ∉ taken, SameAt name p.members q.members) : p = q := by
  have htag : ∀ {s t : String}, valuesOf "payload" p.members = [.string s] →
      valuesOf "payload" q.members = [.string t] → s = t :=
    faithful_string.eq_of_sameAt (h "payload" (by decide))
  -- Payloads with different tags differ already in these; otherwise their fields are compared.
  cases p with
  | none => cases q with
    | none => rfl
    | _ => exact absurd (htag rfl rfl) (by decide)
  | playback position covered => cases q with
    | playback position' covered' =>
      obtain rfl : position = position' :=
        faithful_int64.eq_of_sameAt (h "position_micros" (by decide)) rfl rfl
      obtain rfl : covered = covered' :=
        faithful_uint8.eq_of_sameAt (h "percent" (by decide)) rfl rfl
      rfl
    | _ => exact absurd (htag rfl rfl) (by decide)
  | percent covered => cases q with
    | percent covered' =>
      obtain rfl : covered = covered' :=
        faithful_uint8.eq_of_sameAt (h "percent" (by decide)) rfl rfl
      rfl
    | _ => exact absurd (htag rfl rfl) (by decide)
  | seek origin target => cases q with
    | seek origin' target' =>
      obtain rfl : origin = origin' :=
        faithful_int64.eq_of_sameAt (h "from_micros" (by decide)) rfl rfl
      obtain rfl : target = target' :=
        faithful_int64.eq_of_sameAt (h "to_micros" (by decide)) rfl rfl
      rfl
    | _ => exact absurd (htag rfl rfl) (by decide)
  | ad ad => cases q with
    | ad ad' =>
      obtain rfl : ad = ad' := Ad.faithful.eq_of_sameAt (h "ad" (by decide)) rfl rfl
      rfl
    | _ => exact absurd (htag rfl rfl) (by decide)
  | avails slots position => cases q with
    | avails slots' position' =>
      obtain rfl : slots = slots' :=
        Avail.faithful.list.eq_of_sameAt (h "avails" (by decide)) rfl rfl
      obtain rfl : position = position' :=
        faithful_int64.eq_of_sameAt (h "timeline_position_micros" (by decide)) rfl rfl
      rfl
    | _ => exact absurd (htag rfl rfl) (by decide)
  | info message => cases q with
    | info message' =>
      obtain rfl : message = message' :=
        faithful_string.eq_of_sameAt (h "message" (by decide)) rfl rfl
      rfl
    | _ => exact absurd (htag rfl rfl) (by decide)

namespace Event

/-- The fields of an event that are its own. -/
def own (e : Event) : List (String × Json) :=
  [("video_id", .string e.videoId), ("kind", .string e.kind.name)]

theorem members_eq (e : Event) : e.members = e.own ++ e.payload.members := rfl

theorem valuesOf_own (e : Event) {name : String} (h : name ∈ Payload.taken) :
    valuesOf name e.members = valuesOf name e.own := by
  rw [members_eq, valuesOf_front (e.payload.valuesOf_taken h)]

theorem valuesOf_payload (e : Event) {name : String} (h : name ∉ Payload.taken) :
    valuesOf name e.members = valuesOf name e.payload.members := by
  rw [members_eq, valuesOf_back]
  exact fun hm => h (List.mem_append_right taken hm)

theorem valuesOf_taken (e : Event) {name : String} (h : name ∈ taken) :
    valuesOf name e.members = [] := by
  have hown : ∀ name ∈ taken, name ∉ ["video_id", "kind"] := by decide
  rw [e.valuesOf_own (List.mem_append_left _ h)]
  exact valuesOf_eq_nil (hown name h)

/-- An event can be told from the values under the names that are not taken. -/
theorem eq_of_sameAt {a b : Event} (h : ∀ name ∉ taken, SameAt name a.members b.members) :
    a = b := by
  have hvideo : a.videoId = b.videoId :=
    faithful_string.eq_of_sameAt (h "video_id" (by decide)) (a.valuesOf_own (by decide))
      (b.valuesOf_own (by decide))
  have hkind : a.kind = b.kind := EventKind.name_injective
    (faithful_string.eq_of_sameAt (h "kind" (by decide))
      (a.valuesOf_own (by decide)) (b.valuesOf_own (by decide)))
  have hpayload : a.payload = b.payload := by
    refine Payload.eq_of_sameAt fun name hn => ?_
    have hsame := h name fun hm => hn (List.mem_append_left _ hm)
    rwa [SameAt, a.valuesOf_payload hn, b.valuesOf_payload hn] at hsame
  cases a
  cases b
  simp_all

theorem faithful : Faithful Event.encode := fun _ _ h => eq_of_sameAt fun name _ =>
  sameAt_of_sorted h name

end Event

namespace Record

/-- The fields of a record that are its own. -/
def own (r : Record) : List (String × Json) :=
  [("id", .string r.id), ("session_id", .string r.sessionId), ("timestamp", .string r.timestamp),
    ("sequence", .integer r.sequence)]

theorem names_encode (r : Record) :
    r.encode.names = Payload.taken ++ r.event.payload.members.map (·.1) := rfl

theorem valuesOf_own (r : Record) {name : String} (h : name ∈ Event.taken) :
    valuesOf name (r.own ++ r.event.members) = valuesOf name r.own :=
  valuesOf_front (r.event.valuesOf_taken h)

theorem valuesOf_event (r : Record) {name : String} (h : name ∉ Event.taken) :
    valuesOf name (r.own ++ r.event.members) = valuesOf name r.event.members :=
  valuesOf_back h

theorem faithful : Faithful Record.encode := by
  intro a b h
  have hsame : ∀ name, SameAt name (a.own ++ a.event.members) (b.own ++ b.event.members) :=
    sameAt_of_sorted h
  have hid : a.id = b.id := faithful_string.eq_of_sameAt (hsame "id")
    (a.valuesOf_own (by decide)) (b.valuesOf_own (by decide))
  have hsession : a.sessionId = b.sessionId := faithful_string.eq_of_sameAt (hsame "session_id")
    (a.valuesOf_own (by decide)) (b.valuesOf_own (by decide))
  have htimestamp : a.timestamp = b.timestamp := faithful_string.eq_of_sameAt (hsame "timestamp")
    (a.valuesOf_own (by decide)) (b.valuesOf_own (by decide))
  have hsequence : a.sequence = b.sequence := faithful_nat.eq_of_sameAt (hsame "sequence")
    (a.valuesOf_own (by decide)) (b.valuesOf_own (by decide))
  have hevent : a.event = b.event := by
    refine Event.eq_of_sameAt fun name hn => ?_
    have hname := hsame name
    rwa [SameAt, a.valuesOf_event hn, b.valuesOf_event hn] at hname
  cases a
  cases b
  simp_all

end Record

/-- Events that differ are encoded in JSON values that differ, and so are records. No field of a
payload has the name of another field in its event or in its record. -/
theorem events_told_apart :
    Injective (fun e : Event => e.encode.sorted) ∧ Injective (fun r : Record => r.encode.sorted) ∧
      ∀ r : Record, ∃ tag fields, r.event.payload.members = ("payload", .string tag) :: fields ∧
        r.event.encode.names = ["video_id", "kind", "payload"] ++ fields.map (·.1) ∧
        r.encode.names =
          ["id", "session_id", "timestamp", "sequence"] ++ r.event.encode.names ∧
        r.encode.names.Nodup := by
  refine ⟨Event.faithful, Record.faithful, fun r => ?_⟩
  obtain ⟨tag, fields, hmembers⟩ := r.event.payload.members_eq
  refine ⟨tag, fields, hmembers, ?_, rfl, ?_⟩
  · show _ :: _ :: r.event.payload.members.map _ = _
    rw [hmembers]
    rfl
  · rw [r.names_encode]
    exact r.event.payload.names_nodup

end Playback
