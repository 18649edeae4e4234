import Mathlib.Data.List.Induction
import Playback.Proofs.Session.Frame

/-! The lives of engines, as the commands of a session tell them. A roster reads the commands one by
one and keeps count of the engines; it stops at a command that breaks the order of an engine's life,
which is to be made, loaded, told other things, and released. What a roster has read to its end is
`Orderly`. -/

namespace Playback

/-- What the engine `n` is told, in order. -/
def calls (n : Nat) (log : List Command) : List EngineCommand :=
  log.filterMap fun
    | .engine k c => if k = n then some c else none
    | _ => none

/-- The engines that are made, in order. -/
def made (log : List Command) : List Nat :=
  log.filterMap fun
    | .create n _ => some n
    | _ => none

/-- The engine `n` has been made and not been released. -/
def Live (n : Nat) (log : List Command) : Prop := n ∈ made log ∧ .release ∉ calls n log

/-- Engines are used in order. -/
structure Orderly (log : List Command) : Prop where
  /-- No engine is made twice. -/
  distinct : (made log).Nodup
  /-- At every moment at most one engine is live. -/
  alone : ∀ past, past <+: log → ∀ m n, Live m past → Live n past → m = n
  /-- An engine is told nothing before it is made. -/
  known : ∀ past n c, past ++ [.engine n c] <+: log → n ∈ made past
  /-- The first thing that an engine is told is to load a video. -/
  loaded : ∀ n ∈ made log, ∃ video start rest, calls n log = .load video start :: rest
  /-- An engine is told nothing after it is released. -/
  final : ∀ n before after, calls n log = before ++ .release :: after → after = []

section Calls

variable (log : List Command) (n : Nat)

theorem calls_append (rest : List Command) : calls n (log ++ rest) = calls n log ++ calls n rest :=
  List.filterMap_append ..

theorem made_append (rest : List Command) : made (log ++ rest) = made log ++ made rest :=
  List.filterMap_append ..

end Calls

/-- How far the life of an engine is. -/
inductive Stage where
  | made (backend : Backend)
  | loaded (backend : Backend)
  | released
  deriving DecidableEq, Repr

/-- What an engine has been told that is at the stage; without a stage it has not been made. -/
def Stage.Fits : Option Stage → List EngineCommand → Prop
  | none, cs | some (.made _), cs => cs = []
  | some (.loaded _), cs =>
    ∃ video start rest, cs = .load video start :: rest ∧ .release ∉ rest
  | some .released, cs =>
    ∃ video start rest, cs = .load video start :: (rest ++ [.release]) ∧ .release ∉ rest

theorem Stage.Fits.final {stage : Option Stage} {cs before after : List EngineCommand}
    (h : Stage.Fits stage cs) (hc : cs = before ++ .release :: after) : after = [] := by
  have hmem : .release ∈ cs := by simp [hc]
  match stage, h with
  | none, h | some (.made _), h =>
    rw [show cs = [] from h] at hmem
    cases hmem
  | some (.loaded _), ⟨video, start, rest, h, hrest⟩ => simp [h, hrest] at hmem
  | some .released, ⟨video, start, rest, h, hrest⟩ =>
    rcases List.eq_nil_or_concat after with hnil | ⟨init, last, rfl⟩
    · exact hnil
    · have heq : (before ++ .release :: init) ++ [last] =
          (.load video start :: rest) ++ [.release] := by
        simpa [hc] using h
      obtain ⟨hinit, -⟩ := List.append_inj' heq rfl
      have hin : EngineCommand.release ∈ EngineCommand.load video start :: rest := by simp [← hinit]
      simp [hrest] at hin

/-- How many engines have been made, and the stage of the last one. -/
structure Roster where
  made : Nat := 0
  stage : Stage := .released
  deriving DecidableEq, Repr

namespace Roster

/-- The roster after a command, unless the command is out of order. -/
def next (r : Roster) : Command → Option Roster
  | .create n backend =>
    if r.stage = .released ∧ n = r.made + 1 then some ⟨n, .made backend⟩ else none
  | .engine n c =>
    if n = r.made then
      match r.stage, c with
      | .made backend, .load _ _ => some { r with stage := .loaded backend }
      | .loaded _, .release => some { r with stage := .released }
      | .loaded _, _ => some r
      | _, _ => none
    else none
  | _ => some r

/-- The roster after some commands. -/
def read (r : Roster) (log : List Command) : Option Roster := log.foldlM next r

@[simp] theorem read_nil (r : Roster) : r.read [] = some r := rfl

@[simp] theorem read_cons (r : Roster) (c : Command) (log : List Command) :
    r.read (c :: log) = (r.next c).bind fun r => r.read log := by
  simp [read, List.foldlM_cons]

theorem read_append (r : Roster) (log rest : List Command) :
    r.read (log ++ rest) = (r.read log).bind fun r => r.read rest := by
  simp [read, List.foldlM_append]

/-- The stage of the engine `n`, if it has been made: all but the last one have been released. -/
def stageOf (r : Roster) (n : Nat) : Option Stage :=
  if n = 0 ∨ r.made < n then none else if n = r.made then some r.stage else some .released

/-- The roster sums up what it has read. -/
structure SumsUp (r : Roster) (log : List Command) : Prop where
  made : Playback.made log = List.range' 1 r.made
  begun : r.stage ≠ .released → r.made ≠ 0
  fits : ∀ n, Stage.Fits (r.stageOf n) (calls n log)
  backend : ∀ backend, r.stage = .made backend ∨ r.stage = .loaded backend →
    .create r.made backend ∈ log

theorem SumsUp.mem_made {r : Roster} {log : List Command} (h : r.SumsUp log) {n : Nat} :
    n ∈ Playback.made log ↔ 1 ≤ n ∧ n ≤ r.made := by
  rw [h.made, List.mem_range'_1]
  omega

theorem SumsUp.create {r : Roster} {log : List Command} (h : r.SumsUp log) (backend : Backend)
    (hs : r.stage = .released) :
    SumsUp ⟨r.made + 1, .made backend⟩ (log ++ [.create (r.made + 1) backend]) := by
  refine ⟨?_, by simp, fun n => ?_, by simp⟩
  · rw [made_append, h.made, List.range'_concat]
    simp [Playback.made, Nat.add_comm]
  · have hn := h.fits n
    rw [calls_append, show calls n [.create (r.made + 1) backend] = [] from rfl, List.append_nil]
    unfold stageOf at hn ⊢
    by_cases hlast : n = r.made + 1
    · subst hlast
      simpa [Stage.Fits] using hn
    · rw [hs] at hn
      split at hn <;> split <;> simp_all <;> omega

/-- A command to the last engine changes its stage and no other. -/
theorem SumsUp.tell {r : Roster} {log : List Command} (h : r.SumsUp log) {c : EngineCommand}
    {stage : Stage} (hm : r.made ≠ 0)
    (hs : Stage.Fits (some r.stage) (calls r.made log) →
      Stage.Fits (some stage) (calls r.made log ++ [c]))
    (hb : ∀ backend, stage = .made backend ∨ stage = .loaded backend →
      r.stage = .made backend ∨ r.stage = .loaded backend) :
    SumsUp ⟨r.made, stage⟩ (log ++ [.engine r.made c]) := by
  refine ⟨?_, fun _ => hm, fun n => ?_, fun backend hstage => ?_⟩
  · rw [made_append, h.made]
    simp [Playback.made]
  · have hn := h.fits n
    rw [calls_append]
    unfold stageOf at hn ⊢
    by_cases hlast : n = r.made
    · subst hlast
      simp only [hm, Nat.lt_irrefl, or_self, ↓reduceIte] at hn ⊢
      simpa [calls] using hs hn
    · simp only [hlast, ↓reduceIte] at hn ⊢
      have hnone : calls n [.engine r.made c] = [] := by
        simp [calls, Ne.symm hlast]
      rw [hnone, List.append_nil]
      exact hn
  · exact List.mem_append_left _ (h.backend backend (hb backend hstage))

theorem SumsUp.skip {r : Roster} {log : List Command} (h : r.SumsUp log) {c : Command}
    (hmade : Playback.made [c] = []) (hcalls : ∀ n, calls n [c] = []) : SumsUp r (log ++ [c]) := by
  refine ⟨?_, h.begun, fun n => ?_, fun backend hs => ?_⟩
  · rw [made_append, hmade, List.append_nil, h.made]
  · rw [calls_append, hcalls, List.append_nil]
    exact h.fits n
  · exact List.mem_append_left _ (h.backend backend hs)

theorem SumsUp.next {r r' : Roster} {log : List Command} {c : Command} (h : r.SumsUp log)
    (hr : r.next c = some r') : SumsUp r' (log ++ [c]) := by
  cases c with
  | create n backend =>
    simp only [Roster.next, Option.ite_none_right_eq_some, Option.some.injEq] at hr
    obtain ⟨⟨hs, rfl⟩, rfl⟩ := hr
    exact h.create backend hs
  | engine n d =>
    simp only [Roster.next, Option.ite_none_right_eq_some] at hr
    obtain ⟨rfl, hr⟩ := hr
    split at hr
    · rename_i backend video start hs
      cases hr
      refine h.tell (h.begun (by simp [hs])) (fun hf => ?_) (by simp [hs])
      rw [hs] at hf
      exact ⟨video, start, [], by rw [hf]; rfl, by simp⟩
    · rename_i backend hs
      cases hr
      refine h.tell (h.begun (by simp [hs])) (fun hf => ?_) (by simp)
      rw [hs] at hf
      obtain ⟨video, start, rest, hc, hrest⟩ := hf
      exact ⟨video, start, rest, by rw [hc]; rfl, hrest⟩
    · rename_i d _ _ backend hs hn
      cases hr
      refine h.tell (h.begun (by simp [hs])) (fun hf => ?_) (fun _ h => h)
      rw [hs] at hf ⊢
      obtain ⟨video, start, rest, hc, hrest⟩ := hf
      refine ⟨video, start, rest ++ [d], by rw [hc]; rfl, ?_⟩
      rw [List.mem_append, List.mem_singleton, not_or]
      exact ⟨hrest, fun h => hn h.symm⟩
    · cases hr
  | _ =>
    cases hr
    exact h.skip rfl fun _ => rfl

/-- A roster that has read a log to its end sums it up. -/
theorem sumsUp_of_read {log : List Command} {r : Roster} (h : Roster.read {} log = some r) :
    r.SumsUp log := by
  induction log using List.reverseRecOn generalizing r with
  | nil =>
    cases h
    refine ⟨rfl, by simp, fun n => ?_, by simp⟩
    have hn : n = 0 ∨ 0 < n := by omega
    rw [stageOf, if_pos hn]
    rfl
  | append_singleton log c ih =>
    obtain ⟨r₁, h₁, h₂⟩ := Option.bind_eq_some_iff.mp (read_append .. ▸ h)
    refine (ih h₁).next ?_
    simpa using h₂

/-- The one engine that is live in what a roster has read. -/
theorem SumsUp.live_iff {r : Roster} {log : List Command} (h : r.SumsUp log) (n : Nat) :
    Live n log ↔ n = r.made ∧ r.stage ≠ .released := by
  have hn := h.fits n
  unfold Live
  rw [h.mem_made]
  unfold stageOf at hn
  -- A released engine is known by its last call; of all numbers only the last one made may lack it.
  constructor
  · rintro ⟨hmade, hrelease⟩
    have hpast : ¬(n = 0 ∨ r.made < n) := by omega
    rw [if_neg hpast] at hn
    split at hn
    · refine ⟨‹_›, fun hs => hrelease ?_⟩
      rw [hs] at hn
      obtain ⟨video, start, rest, hc, -⟩ := hn
      simp [hc]
    · obtain ⟨video, start, rest, hc, -⟩ := hn
      simp [hc] at hrelease
  · rintro ⟨rfl, hs⟩
    have hm := h.begun hs
    have hlast : ¬(r.made = 0 ∨ r.made < r.made) := by omega
    rw [if_neg hlast, if_pos rfl] at hn
    refine ⟨by omega, ?_⟩
    cases hstage : r.stage with
    | made backend =>
      rw [hstage] at hn
      rw [show calls r.made log = [] from hn]
      simp
    | loaded backend =>
      rw [hstage] at hn
      obtain ⟨video, start, rest, hc, hrest⟩ := hn
      simp [hc, hrest]
    | released => exact absurd hstage hs

theorem SumsUp.count_release {r : Roster} {log : List Command} (h : r.SumsUp log)
    (hs : r.stage = .released) {n : Nat} (hn : n ∈ Playback.made log) :
    (calls n log).count .release = 1 := by
  have hfits := h.fits n
  have hmade : ¬(n = 0 ∨ r.made < n) := by
    have := h.mem_made.mp hn
    omega
  rw [stageOf, if_neg hmade, hs, ite_self] at hfits
  obtain ⟨video, start, rest, hc, hrest⟩ := hfits
  rw [hc, List.count_cons_of_ne (by simp), List.count_append, List.count_eq_zero_of_not_mem hrest]
  rfl

/-- Every beginning of what a roster has read is summed up by a roster too. -/
theorem sumsUp_past {past log : List Command} (h : past <+: log)
    (hr : (Roster.read {} log).isSome) : ∃ r, Roster.read {} past = some r ∧ r.SumsUp past := by
  obtain ⟨rest, rfl⟩ := h
  obtain ⟨r', hr'⟩ := Option.isSome_iff_exists.mp hr
  obtain ⟨r, h₁, -⟩ := Option.bind_eq_some_iff.mp (read_append .. ▸ hr')
  exact ⟨r, h₁, sumsUp_of_read h₁⟩

theorem live_of_next {r r' : Roster} {past : List Command} {n : Nat} {c : EngineCommand}
    (h : r.SumsUp past) (hr : r.next (.engine n c) = some r') : Live n past := by
  simp only [Roster.next, Option.ite_none_right_eq_some] at hr
  refine (h.live_iff n).mpr ⟨hr.1, fun hs => ?_⟩
  simp [hs] at hr

/-- A log is orderly if a roster can read it and has not ended with an engine without a video. -/
theorem orderly_of_read {log : List Command} {r : Roster} (h : Roster.read {} log = some r)
    (hr : ∀ backend, r.stage ≠ .made backend) : Orderly log := by
  have hlog := sumsUp_of_read h
  have hsome : (Roster.read {} log).isSome := by simp [h]
  refine ⟨?_, fun past hpast m n hm hn => ?_, fun past n c hpast => ?_, fun n hn => ?_,
    fun n before after hc => ?_⟩
  · rw [hlog.made]
    exact List.nodup_range'
  · -- What was live at an earlier moment is what the roster of that moment ends with.
    obtain ⟨r', -, h'⟩ := sumsUp_past hpast hsome
    rw [((h'.live_iff m).mp hm).1, ((h'.live_iff n).mp hn).1]
  · obtain ⟨r', h₁, -⟩ := sumsUp_past hpast hsome
    obtain ⟨r₁, h₂, h₃⟩ := Option.bind_eq_some_iff.mp (read_append .. ▸ h₁)
    simp only [read_cons, read_nil] at h₃
    obtain ⟨r₂, h₄, -⟩ := Option.bind_eq_some_iff.mp h₃
    exact (live_of_next (sumsUp_of_read h₂) h₄).1
  · have hfits := hlog.fits n
    rw [hlog.mem_made] at hn
    have hmade : ¬(n = 0 ∨ r.made < n) := by omega
    rw [stageOf, if_neg hmade] at hfits
    split at hfits
    · cases hs : r.stage with
      | made backend => exact absurd hs (hr backend)
      | loaded backend =>
        rw [hs] at hfits
        obtain ⟨video, start, rest, hc, -⟩ := hfits
        exact ⟨video, start, rest, hc⟩
      | released =>
        rw [hs] at hfits
        obtain ⟨video, start, rest, hc, -⟩ := hfits
        exact ⟨video, start, _, hc⟩
    · obtain ⟨video, start, rest, hc, -⟩ := hfits
      exact ⟨video, start, _, hc⟩
  · exact (hlog.fits n).final hc

end Roster
end Playback
