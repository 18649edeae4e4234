import Playback.Proofs.Wire.Rearrangement
import Playback.Wire.Signal
import Playback.Wire.State

/-! What is encoded in JSON can be read back, in every way that it may be written. -/

namespace Playback

open Json

namespace Json

@[simp] theorem text?_string (s : String) : text? (.string s) = some s := rfl

@[simp] theorem bool?_bool (b : Bool) : bool? (.bool b) = some b := rfl

@[simp] theorem int64?_toInt (n : Int64) : int64? (.integer n.toInt) = some n := by
  have hlow : Int64.minValue.toInt ≤ n.toInt := Int64.le_iff_toInt_le.mp n.minValue_le
  have hhigh : n.toInt ≤ Int64.maxValue.toInt := Int64.le_iff_toInt_le.mp n.le_maxValue
  simp only [int64?, integer?, if_pos (And.intro hlow hhigh), Option.map_some, Int64.ofInt_toInt]

@[simp] theorem int32?_toInt (n : Int32) : int32? (.integer n.toInt) = some n := by
  have hlow : Int32.minValue.toInt ≤ n.toInt := Int32.le_iff_toInt_le.mp n.minValue_le
  have hhigh : n.toInt ≤ Int32.maxValue.toInt := Int32.le_iff_toInt_le.mp n.le_maxValue
  simp only [int32?, integer?, if_pos (And.intro hlow hhigh), Option.map_some, Int32.ofInt_toInt]

@[simp] theorem uint64?_toNat (n : UInt64) : uint64? (.integer n.toNat) = some n := by
  have hlt := n.toNat_lt_size
  have hhigh : (n.toNat : Int) ≤ (UInt64.size : Int) - 1 := by omega
  simp only [uint64?, integer?, if_pos (And.intro (Int.natCast_nonneg _) hhigh), Option.map_some,
    Int.toNat_natCast, UInt64.ofNat_toNat]

@[simp] theorem uint8?_toNat (n : UInt8) : uint8? (.integer n.toNat) = some n := by
  have hlt := n.toNat_lt_size
  have hhigh : (n.toNat : Int) ≤ (UInt8.size : Int) - 1 := by omega
  simp only [uint8?, integer?, if_pos (And.intro (Int.natCast_nonneg _) hhigh), Option.map_some,
    Int.toNat_natCast, UInt8.ofNat_toNat]

/-- A value of an optional field can be read back if it is no `null` and can be read back itself. -/
theorem nullable_orNull {α : Type} {encode : α → Json} {decode : Json → Option α}
    (hnull : ∀ a, encode a ≠ .null) {value : Option α}
    (h : ∀ a, value = some a → decode (encode a) = some a) :
    nullable decode (orNull encode value) = some value := by
  cases value with
  | none => rfl
  | some a =>
    have ha := h a rfl
    unfold orNull nullable
    split
    · rename_i hj
      exact absurd hj (hnull a)
    · rw [ha]
      rfl

theorem nullable_text (value : Option String) :
    nullable text? (orNull .string value) = some value :=
  nullable_orNull (by simp) fun s _ => text?_string s

theorem listOf_list {α : Type} {encode : α → Json} {decode : Json → Option α}
    (h : ∀ a, decode (encode a) = some a) (xs : List α) :
    listOf decode (list encode xs) = some xs := by
  unfold listOf list
  induction xs with
  | nil => rfl
  | cons x rest ih => simp [h, ih]

/-- A tag that stands first chooses how the other fields are read. -/
theorem byTag_string {α : Type} {forms : List (String × (Json → Option α))}
    {form : Json → Option α} {name chosen : String} {members : List (String × Json)} (held : Bool)
    (hform : forms.lookup chosen = some form) (hreadable : readableMembers members = true)
    (hnone : valuesOf name members = []) :
    byTag held name forms (.object ((name, .string chosen) :: members)) =
      form (.object members) := by
  have hkept : (members.filter fun m => m.1 ≠ name) = members := by
    refine List.filter_eq_self.mpr fun m hm => ?_
    have hm' := List.filterMap_eq_nil_iff.mp hnone m hm
    simpa using hm'
  simp only [decide_not] at hkept
  simp [byTag, tagged, readable, readableMembers, hreadable, required, hnone, tag, hform, hkept]

end Json

namespace Video

def shapes : List (String × Shape) := fieldNames.map (·, .value)

theorem respects (held : Bool) : Respects shapes (decode held) := by
  intro members members' h
  simp (disch := simp [shapes, fieldNames, List.lookup_cons]) only [decode, Json.fields,
    Option.bind_eq_bind, Option.bind_some, h.required_value, h.optional_value]

theorem decode_encode (held : Bool) (v : Video) : decode held v.encode = some v := by
  have hcaptions : Captions.decode held v.captions.encode = some v.captions := by
    cases v.captions <;> rfl
  simp [decode, encode, Json.fields, required, Json.optional, hcaptions, nullable_text]

end Video

namespace Config

def shapes : List (String × Shape) := fieldNames.map (·, .value)

theorem respects : Respects shapes decode := by
  intro members members' h
  simp (disch := simp [shapes, fieldNames, List.lookup_cons]) only [decode, Json.fields,
    Option.bind_eq_bind, Option.bind_some, h.optional_value]

theorem decode_encode (c : Config) : decode c.encode = some c := by
  simp [decode, encode, Json.fields, Json.optional]

end Config

namespace Ad

def shapes : List (String × Shape) := fieldNames.map (·, .value)

theorem respects : Respects shapes decode := by
  intro members members' h
  simp (disch := simp [shapes, fieldNames, List.lookup_cons]) only [decode, Json.fields,
    Option.bind_eq_bind, Option.bind_some, h.required_value, h.optional_value]

theorem decode_encode (a : Ad) : decode a.encode = some a := by
  simp [decode, encode, Json.fields, required, Json.optional, nullable_text]

theorem readable_encode (a : Ad) : a.encode.readable = true := by
  obtain ⟨id, title, duration, creativeId⟩ := a
  cases title <;> cases creativeId <;> rfl

end Ad

namespace Avail

def shapes : List (String × Shape) :=
  [("avail_id", .value), ("start_time_micros", .value), ("duration_micros", .value),
    ("ads", .list (.record Ad.shapes))]

theorem respects : Respects shapes decode := by
  intro members members' h
  have hads : Json.optional (listOf Ad.decode) [] "ads" members' = _ :=
    h.optional rfl Ad.respects.steady.listOf []
  simp (disch := simp [shapes, List.lookup_cons]) only [decode, Json.fields, Option.bind_eq_bind,
    Option.bind_some, h.required_value, hads]

theorem decode_encode (a : Avail) : decode a.encode = some a := by
  simp [decode, encode, Json.fields, required, Json.optional,
    listOf_list Ad.decode_encode]

end Avail

namespace AdSession

def shapes : List (String × Shape) := fieldNames.map (·, .value)

theorem respects : Respects shapes decode := by
  intro members members' h
  simp (disch := simp [shapes, fieldNames, List.lookup_cons]) only [decode, Json.fields,
    Option.bind_eq_bind, Option.bind_some, h.required_value, h.optional_value]

/-- The URLs are in the normal form that they are kept in. -/
def IsNormal (s : AdSession) : Prop :=
  ∀ u ∈ s.manifest.toList ++ s.tracking.toList, Url.parse? u.text = some u

theorem decode_encode {s : AdSession} (h : s.IsNormal) : decode s.encode = some s := by
  have hurl : ∀ u, (∀ v, u = some v → Url.parse? v.text = some v) →
      nullable Url.decode (orNull Url.encode u) = some u := fun u hu =>
    nullable_orNull (by simp [Url.encode]) hu
  have hmanifest := hurl s.manifest fun u hu => h u (by simp [hu])
  have htracking := hurl s.tracking fun u hu => h u (by simp [hu])
  simp [decode, encode, Json.fields, required, Json.optional, hmanifest, htracking]

end AdSession

namespace Phase

def shapes : List (String × Shape) := [("phase", .value), ("paused", .value)]

theorem plain_respects (p : Phase) : Respects shapes (plain p) := fun _ _ _ => rfl

theorem steady : Steady (.record shapes) decode := by
  refine steady_byTag false rfl ?_
  simp only [forms, List.forall_mem_cons, plain_respects, true_and]
  refine ⟨fun members members' h => ?_, by simp⟩
  simp (disch := simp [shapes, List.lookup_cons]) only [Json.fields, Option.bind_eq_bind,
    Option.bind_some, h.required_value]

theorem decode_encode (p : Phase) : decode p.encode = some p := by
  cases p <;> exact (byTag_string false rfl rfl rfl).trans rfl

end Phase

namespace State

def shapes : List (String × Shape) :=
  [("phase", .record Phase.shapes), ("backend", .value), ("play_started", .value),
    ("first_ad_completed", .value), ("sticky", .value), ("in_picture_in_picture", .value)]

theorem respects : Respects shapes decode := by
  intro members members' h
  have hphase : required Phase.decode "phase" members' = _ := h.required rfl Phase.steady
  simp (disch := simp [shapes, List.lookup_cons]) only [decode, Json.fields, Option.bind_eq_bind,
    Option.bind_some, h.required_value, hphase]

theorem decode_encode (s : State) : decode s.encode = some s := by
  have hbackend : Backend.decode false s.backend.encode = some s.backend := by
    cases s.backend <;> rfl
  simp [decode, encode, Json.fields, required, Phase.decode_encode, hbackend]

end State

namespace Fault

def shapes : List (String × Shape) := [("fault", .value), ("message", .value)]

theorem respects {fields : List (String × Shape)} (held : Bool)
    (hfault : fields.lookup "fault" = some .value)
    (hmessage : fields.lookup "message" = some .value) : Respects fields (decode held) := by
  intro members members' h
  have hvalues := h "message" .value hmessage
  simp only [decode, h.required_value hfault]
  generalize valuesOf "message" members = l at *
  generalize valuesOf "message" members' = l' at *
  cases hvalues with
  | none => rfl
  | one hv => rw [rearranged_value hv]
  | many hl hl' =>
    match l, l' with
    | _ :: _ :: _, _ :: _ :: _ => rfl

theorem decode_encode (held : Bool) (f : Fault) : decode held f.encode = some f := by
  cases f <;> simp [decode, encode, required, choice, forms, List.lookup_cons, withMessage,
    withoutMessage]

end Fault

namespace EngineSignal

def shapes : List (String × Shape) :=
  ["type", "position_micros", "from_micros", "to_micros", "percent", "fault", "message"].map
    (·, .value)

theorem steady (held : Bool) : Steady (.record shapes) (decode held) := by
  refine steady_byTag held rfl ?_
  have hposition : ∀ make, Respects shapes (withPosition make) := by
    intro make members members' h
    simp (disch := simp [shapes, List.lookup_cons]) only [withPosition, Json.fields,
      Option.bind_eq_bind, Option.bind_some, h.required_value]
  have hpercent : ∀ make, Respects shapes (withPercent make) := by
    intro make members members' h
    simp (disch := simp [shapes, List.lookup_cons]) only [withPercent, Json.fields,
      Option.bind_eq_bind, Option.bind_some, h.required_value]
  simp only [forms, List.forall_mem_cons, hposition, hpercent, true_and]
  refine ⟨?seeked, ?completed, ?ended, ?fault, by simp⟩
  case seeked =>
    intro members members' h
    simp (disch := simp [shapes, List.lookup_cons]) only [Json.fields, Option.bind_eq_bind,
      Option.bind_some, h.required_value]
  case completed =>
    intro members members' h
    simp (disch := simp [shapes, List.lookup_cons]) only [Json.fields, Option.bind_eq_bind,
      Option.bind_some, h.optional_value]
  case ended => exact fun _ _ _ => rfl
  case fault =>
    intro members members' h
    simp only [Fault.respects true rfl rfl members members' h]

theorem decode_encode (held : Bool) (s : EngineSignal) : decode held s.encode = some s := by
  cases s with
  | fault f =>
    have hf := congrArg (Option.map EngineSignal.fault) (Fault.decode_encode true f)
    cases f <;> exact (byTag_string held rfl rfl rfl).trans hf
  | playCompleted position =>
    cases position with
    | none => exact (byTag_string held rfl rfl rfl).trans rfl
    | some position =>
      refine (byTag_string held rfl rfl rfl).trans ?_
      simp [Json.fields, Json.optional, orNull, nullable]
  | _ =>
    refine (byTag_string held rfl rfl rfl).trans ?_
    simp [withPosition, withPercent, Json.fields, required]

end EngineSignal

namespace AdSignal

def shapes : List (String × Shape) :=
  [("type", .value), ("ad_type", .value), ("ad", .record Ad.shapes)]

theorem steady (held : Bool) : Steady (.record shapes) (decode held) := by
  refine steady_byTag held rfl ?_
  have had : ∀ {members members'}, Agree shapes members members' →
      Json.optional Ad.decode {} "ad" members' = Json.optional Ad.decode {} "ad" members :=
    fun h => h.optional rfl Ad.respects.steady {}
  have hwith : ∀ make, Respects shapes (withAd make) := by
    intro make members members' h
    simp only [withAd, Json.fields, Option.bind_eq_bind, Option.bind_some, had h]
  have hnumbered : ∀ make, Respects shapes (numbered make) := by
    intro make members members' h
    simp (disch := simp [shapes, List.lookup_cons]) only [numbered, Json.fields,
      Option.bind_eq_bind, Option.bind_some, h.required_value, had h]
  simp only [forms, List.forall_mem_cons, hwith, hnumbered, true_and]
  exact ⟨fun _ _ _ => rfl, by simp⟩

theorem decode_encode (held : Bool) (s : AdSignal) : decode held s.encode = some s := by
  cases s with
  | breakEnded => exact (byTag_string held rfl rfl rfl).trans rfl
  | _ =>
    refine (byTag_string held rfl ?_ rfl).trans ?_
    · simp [readableMembers, readable, Ad.readable_encode]
    · simp [withAd, numbered, Json.fields, required, Json.optional, Ad.decode_encode]

end AdSignal

namespace Signal

/-- The signal beside its source is of a shape that the source decides about. -/
def shapes (signal : Shape) : List (String × Shape) := [("source", .value), ("signal", signal)]

def shape : Signal → Shape
  | .engine _ => .record (shapes (.record EngineSignal.shapes))
  | .ads _ => .record (shapes (.record AdSignal.shapes))

theorem rearranged_cases {source : String} {signal : Shape} {v j : Json}
    (h : Rearranged (.record (shapes signal)) (.object [("source", .string source), ("signal", v)])
      j) :
    ∃ members v', j = .object members ∧ valuesOf "source" members = [.string source] ∧
      valuesOf "signal" members = [v'] ∧ Rearranged signal v v' := by
  have hagree : ∃ members, j = .object members ∧ Agree (shapes signal)
      [("source", .string source), ("signal", v)] members := by
    rcases h.agree with rfl | ⟨_, members, hsame, rfl, ha⟩
    · exact ⟨_, rfl, .refl _ _⟩
    · cases hsame
      exact ⟨members, rfl, ha⟩
  obtain ⟨members, rfl, ha⟩ := hagree
  have hsource := ha "source" .value rfl
  have hsignal := ha "signal" signal (by simp [shapes, List.lookup_cons])
  simp only [valuesOf, List.filterMap_cons, List.filterMap_nil, ↓reduceIte,
    show "source" ≠ "signal" by decide, show "signal" ≠ "source" by decide] at hsource hsignal
  obtain ⟨_, hone, hv⟩ := hsource.singleton
  obtain rfl := rearranged_value hv
  obtain ⟨v', hone', hv'⟩ := hsignal.singleton
  exact ⟨members, v', rfl, hone, hone', hv'⟩

theorem decode_rearranged (held : Bool) (s : Signal) {j : Json}
    (h : Rearranged s.shape s.encode j) : decode held j = some s := by
  cases s with
  | engine s =>
    obtain ⟨members, v, rfl, hsource, hsignal, hv⟩ := rearranged_cases h
    have hdecode : ∀ held, EngineSignal.decode held v = some s := fun held =>
      (EngineSignal.steady held _ _ hv).trans (EngineSignal.decode_encode held s)
    simp [decode, required, hsource, hsignal, choice, forms, hdecode]
  | ads s =>
    obtain ⟨members, v, rfl, hsource, hsignal, hv⟩ := rearranged_cases h
    have hdecode : ∀ held, AdSignal.decode held v = some s := fun held =>
      (AdSignal.steady held _ _ hv).trans (AdSignal.decode_encode held s)
    simp [decode, required, hsource, hsignal, choice, forms, List.lookup_cons, hdecode]

end Signal

/-- What a value is encoded as is decoded to it again, in each way that it may be written. -/
def Recovers {α : Type} (shape : α → Shape) (encode : α → Json) (decode : Json → Option α) : Prop :=
  ∀ a j, Rearranged (shape a) (encode a) j → decode j = some a

theorem recovers_of_steady {α : Type} {shape : Shape} {encode : α → Json}
    {decode : Json → Option α} (hsteady : Steady shape decode)
    (h : ∀ a, decode (encode a) = some a) : Recovers (fun _ => shape) encode decode :=
  fun a j hj => (hsteady _ j hj).trans (h a)

/-- All that is read from JSON and can be written. In a value that was held back some of it is read
in another way. -/
structure RoundTrips (held : Bool) : Prop where
  video : Recovers (fun _ => .record Video.shapes) Video.encode (Video.decode held)
  config : Recovers (fun _ => .record Config.shapes) Config.encode Config.decode
  ad : Recovers (fun _ => .record Ad.shapes) Ad.encode Ad.decode
  avail : Recovers (fun _ => .record Avail.shapes) Avail.encode Avail.decode
  adSession : ∀ s : AdSession, s.IsNormal → ∀ j,
    Rearranged (.record AdSession.shapes) s.encode j → AdSession.decode j = some s
  phase : Recovers (fun _ => .record Phase.shapes) Phase.encode Phase.decode
  state : Recovers (fun _ => .record State.shapes) State.encode State.decode
  fault : Recovers (fun _ => .record Fault.shapes) Fault.encode (Fault.decode held)
  signal : Recovers Signal.shape Signal.encode (Signal.decode held)

/-- Every value is decoded from its encoding, whatever the order of the fields and whatever fields
of other names there are. -/
theorem decoding_undoes_encoding (held : Bool) : RoundTrips held := by
  constructor
  case video => exact recovers_of_steady (Video.respects held).steady (Video.decode_encode held)
  case config => exact recovers_of_steady Config.respects.steady Config.decode_encode
  case ad => exact recovers_of_steady Ad.respects.steady Ad.decode_encode
  case avail => exact recovers_of_steady Avail.respects.steady Avail.decode_encode
  case adSession =>
    intro s hs j hj
    exact (AdSession.respects.steady _ j hj).trans (AdSession.decode_encode hs)
  case phase => exact recovers_of_steady Phase.steady Phase.decode_encode
  case state => exact recovers_of_steady State.respects.steady State.decode_encode
  case fault =>
    exact recovers_of_steady (Fault.respects held rfl rfl).steady (Fault.decode_encode held)
  case signal => exact fun s j hj => Signal.decode_rearranged held s hj

/-- A fault with its tags last and two more fields, and an ad session whose fields are reversed. -/
theorem decoding_undoes_encoding_fault :
    let lost : Signal := .engine (.fault (.source "gone"))
    let found : AdSession := { manifest := some ⟨"https://10.0.0.1/live.m3u8"⟩, id := "m" }
    Signal.decode false (.object [("trace", .integer 7),
        ("signal", .object [("note", .null), ("message", .string "gone"),
          ("fault", .string "source"), ("type", .string "fault")]),
        ("source", .string "engine")]) = some lost ∧
      found.IsNormal ∧
      AdSession.decode (.object [("session_id", .string "m"), ("tracking_url", .null),
        ("manifest_url", .string "https://10.0.0.1/live.m3u8")]) = some found := by
  intro lost found
  have hnormal : found.IsNormal := by
    intro u hu
    obtain rfl : u = ⟨"https://10.0.0.1/live.m3u8"⟩ := by simpa [found] using hu
    decide +kernel
  refine ⟨(decoding_undoes_encoding false).signal lost _ ?_, hnormal,
    (decoding_undoes_encoding false).adSession found hnormal _
      (.permute (List.reverse_perm _).symm)⟩
  refine .trans (.permute (List.Perm.swap _ _ _)) (.trans (.member rfl ?_) (.insert rfl rfl))
  exact .trans (.permute (List.reverse_perm _).symm) (.insert rfl rfl)

end Playback
