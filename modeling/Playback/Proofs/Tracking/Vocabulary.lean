import Playback.Proofs.Session.Succession
import Playback.Proofs.Tracking.Emission
import Playback.Proofs.Video.Percentage

/-! The vocabulary of the events that a session reports: what is told along with an event of each
kind, and which video it is about. -/

namespace Playback

theorem Milestone.percent_of_at? {percent : UInt8} {m : Milestone} (h : at? percent = some m) :
    percent = m.percent := by
  unfold at? at h
  split at h
  · cases h
    assumption
  split at h
  · cases h
    assumption
  split at h
  · cases h
    assumption
  · cases h

namespace AdPosition

/-- Where an ad stands that the engine starts at `percent` of the video: in front at its beginning,
behind from 90 percent on, and within it otherwise. -/
def StartsAt (percent : UInt8) : AdPosition → Prop
  | .preroll => percent = 0
  | .midroll => 0 < percent ∧ percent < 90
  | .postroll => 90 ≤ percent

/-- Where an ad stands that the engine ends at `percent` of the video: behind only at its end. -/
def EndsAt (percent : UInt8) : AdPosition → Prop
  | .preroll => percent = 0
  | .midroll => percent ≠ 0 ∧ percent ≠ 100
  | .postroll => percent = 100

/-- Where the ad with the number `ordinal` stands. -/
def Numbered (ordinal : Int32) : AdPosition → Prop
  | .preroll => ordinal = 0
  | .midroll => 0 < ordinal
  | .postroll => ordinal < 0

variable {place : AdPosition}

theorem startsAt_iff {percent : UInt8} : place.StartsAt percent ↔ place = ofStart percent := by
  unfold ofStart postrollStart
  cases place with
  | preroll | midroll | postroll =>
    simp only [StartsAt]
    grind

theorem endsAt_iff {percent : UInt8} : place.EndsAt percent ↔ place = ofCompletion percent := by
  unfold ofCompletion postrollCompletion
  cases place with
  | preroll | midroll | postroll =>
    simp only [EndsAt]
    grind

theorem numbered_iff {ordinal : Int32} : place.Numbered ordinal ↔ place = ofOrdinal ordinal := by
  unfold ofOrdinal
  cases place with
  | preroll | midroll | postroll =>
    simp only [Numbered]
    grind

end AdPosition

/-- The words for an event of each kind: what is told along with it, where it is reported of `video`
because of the incident `i`. -/
def EventKind.Fits (video : Video) (i : Incident) (told : Payload) : EventKind → Prop
  | .playStarted | .playPaused | .playResumed | .playCompleted =>
    ∃ position percent, told = .playback position percent ∧ percent ≤ 100
  | .watched .quarter => told = .percent 25 ∧ video.isLive = false
  | .watched .half => told = .percent 50 ∧ video.isLive = false
  | .watched .threeQuarters => told = .percent 75 ∧ video.isLive = false
  | .adStarted place =>
    (∃ percent, i.signal? = some (.engine (.adStarted percent)) ∧ told = .percent percent ∧
        place.StartsAt percent) ∨
      ∃ ordinal ad, i.signal? = some (.ads (.started ordinal ad)) ∧ told = .ad ad ∧
        place.Numbered ordinal
  | .adCompleted place =>
    (∃ percent, i.signal? = some (.engine (.adCompleted percent)) ∧ told = .percent percent ∧
        place.EndsAt percent) ∨
      ∃ ordinal ad, i.signal? = some (.ads (.completed ordinal ad)) ∧ told = .ad ad ∧
        place.Numbered ordinal
  | .adPaused => ∃ ad, i.signal? = some (.ads (.paused ad)) ∧ told = .ad ad
  | .adResumed => ∃ ad, i.signal? = some (.ads (.resumed ad)) ∧ told = .ad ad
  | .adSkipped => ∃ ad, i.signal? = some (.ads (.skipped ad)) ∧ told = .ad ad
  | .adClicked => ∃ ad, i.signal? = some (.ads (.clicked ad)) ∧ told = .ad ad
  | .adBreakEnded => told = .none
  | .seeked =>
    ∃ origin target, i.signal? = some (.engine (.seeked origin target)) ∧ told = .seek origin target
  | .streamRecovered => ∃ message, told = .info message
  | .availsReceived => ∃ avails position, told = .avails avails position ∧ avails ≠ []

theorem Circumstances.classify_fits {c : Circumstances} {signal : Signal} {event : Event}
    (h : (c.classify signal).event = some event) {i : Incident} (hi : i.signal? = some signal) :
    event.kind.Fits c.video i event.payload ∧ event.videoId = c.video.id := by
  have hplayback : ∀ position, ∃ p percent,
      Payload.playback position (c.video.percentAt position) = .playback p percent ∧
        percent ≤ 100 := fun position => ⟨_, _, rfl, c.video.percentAt_le position⟩
  cases signal with
  | engine signal => cases signal with
    | playStarted position =>
      simp only [classify, classifyEngine] at h
      split at h
      · cases h
      · cases h
        exact ⟨hplayback position, rfl⟩
    | paused position | resumed position =>
      cases h
      exact ⟨hplayback position, rfl⟩
    | playCompleted position =>
      cases h
      exact ⟨hplayback _, rfl⟩
    | seeked origin target =>
      cases h
      exact ⟨⟨origin, target, hi, rfl⟩, rfl⟩
    | percentWatched percent =>
      simp only [classify, classifyEngine] at h
      split at h
      · rename_i m hlive hm
        cases h
        have htold := congrArg Payload.percent (Milestone.percent_of_at? hm)
        refine ⟨?_, rfl⟩
        cases m with
        | quarter | half | threeQuarters => exact ⟨htold, hlive⟩
      · cases h
    | adStarted percent =>
      cases h
      exact ⟨.inl ⟨percent, hi, rfl, AdPosition.startsAt_iff.mpr rfl⟩, rfl⟩
    | adCompleted percent =>
      cases h
      exact ⟨.inl ⟨percent, hi, rfl, AdPosition.endsAt_iff.mpr rfl⟩, rfl⟩
    | contentEnded => cases h
    | fault f =>
      simp only [classify, classifyEngine] at h
      split at h
      · cases h
        exact ⟨⟨_, rfl⟩, rfl⟩
      · cases h
  | ads signal => cases signal with
    | started ordinal ad | completed ordinal ad =>
      cases h
      exact ⟨.inr ⟨ordinal, ad, hi, rfl, AdPosition.numbered_iff.mpr rfl⟩, rfl⟩
    | paused ad | resumed ad =>
      simp only [classify, classifyAds] at h
      split at h
      · cases h
        exact ⟨⟨ad, hi, rfl⟩, rfl⟩
      · cases h
    | skipped ad | clicked ad =>
      cases h
      exact ⟨⟨ad, hi, rfl⟩, rfl⟩
    | breakEnded =>
      cases h
      exact ⟨rfl, rfl⟩

/-- The video that the entry reports an event of this kind for: the one that is current when the
entry is taken up, except that the end of a video reports the start of the one after it. -/
def Entry.subject? (e : Entry) (kind : EventKind) : Option Video :=
  if e.incident.signal? = some (.engine .contentEnded) ∧ kind = .playStarted then
    e.outcome.session.current?
  else e.before.current?

/-- The entry reports the event in the words for its kind, and for the right video. -/
structure Entry.Words (e : Entry) (event : Event) : Prop where
  fits : ∃ video, e.before.current? = some video ∧
    event.kind.Fits video e.incident event.payload
  subject : ∃ video, e.subject? event.kind = some video ∧ event.videoId = video.id

namespace Session

variable {s : Session}

theorem words_of_mem {i : Incident} {event : Event}
    (h : .event event ∈ (s.undergo i).commands) : Entry.Words ⟨s, i⟩ event := by
  rcases tracking_of_mem h rfl with ⟨signal, a, rfl⟩ | ⟨handoff, a, rfl⟩
  · obtain ⟨video, e, -, hv, he, hmeant | ⟨rfl, rfl | ⟨next, hnext, rfl⟩⟩⟩ :=
      mem_handleSignal h rfl
    · cases he
      obtain ⟨hfits, hid⟩ := Circumstances.classify_fits hmeant
        (i := .operation (.signal signal) a) rfl
      refine ⟨⟨video, hv, hfits⟩, video, (if_neg ?_).trans hv, hid⟩
      -- The end of the stream means no event of its own; those it brings come from the playlist.
      rintro ⟨hended, -⟩
      cases hended
      cases hmeant
    · cases he
      refine ⟨⟨video, hv, _, _, rfl, by decide⟩, video, (if_neg ?_).trans hv, rfl⟩
      rintro ⟨-, hkind⟩
      cases hkind
    · cases he
      exact ⟨⟨video, hv, _, _, rfl, by decide⟩, next, (if_pos ⟨rfl, rfl⟩).trans hnext, rfl⟩
  · rcases mem_handleHandoff h with ⟨_, _, -, -, -, hc⟩ | ⟨_, avails, video, -, -, hn, hv, hc⟩
    · cases hc
    · cases hc
      refine ⟨⟨video, hv, _, _, rfl, hn⟩, video, (if_neg ?_).trans hv, rfl⟩
      rintro ⟨hsignal, -⟩
      cases hsignal

/-- Every event that a session reports is in the words for its kind, and for the right video. -/
theorem events_worded (id : String) (run : List Incident) :
    ∀ e ∈ (fresh id).history run, ∀ event, .event event ∈ e.outcome.commands → e.Words event := by
  rintro ⟨s, i⟩ - event hm
  exact words_of_mem hm

/-- An ad that the engine starts at 90 percent stands behind the video, and so does one that is over
and has a number below zero. The start of a live stream that is taken up after another video is
reported under the address of its manifest. -/
theorem events_worded_onward :
    let native : Incident := .operation (.signal (.engine (.adStarted 90))) {}
    let inserted : Incident := .operation (.signal (.ads (.completed (-1) { id := "ad" }))) {}
    let ended : Incident := .operation (.signal (.engine .contentEnded))
      { now := 7, manifest := some { manifest := some ⟨"m"⟩, tracking := some ⟨"t"⟩, id := "x" } }
    let run := intermission ++ [native, inserted, ended]
    let first : Entry := ⟨(fresh "s").after intermission, native⟩
    let second : Entry := ⟨first.outcome.session, inserted⟩
    let third : Entry := ⟨second.outcome.session, ended⟩
    let told : List (Entry × Event) :=
      [(first, ⟨"a", .adStarted .postroll, .percent 90⟩),
        (second, ⟨"a", .adCompleted .postroll, .ad { id := "ad" }⟩),
        (third, ⟨"m", .playStarted, .playback 0 0⟩)]
    third.before.current? = some { id := "a", duration := 90 } ∧
      ∀ x ∈ told, x.1 ∈ (fresh "s").history run ∧ .event x.2 ∈ x.1.outcome.commands ∧
        x.1.Words x.2 := by
  intro native inserted ended run first second third told
  have htold : ∀ x ∈ told, x.1 ∈ (fresh "s").history run ∧
      .event x.2 ∈ x.1.outcome.commands := by decide +kernel
  refine ⟨by decide +kernel, fun x hx => ?_⟩
  obtain ⟨hmem, hevent⟩ := htold x hx
  exact ⟨hmem, hevent, events_worded "s" run x.1 hmem x.2 hevent⟩

end Session
end Playback
