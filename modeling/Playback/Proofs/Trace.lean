import Mathlib.Data.List.Induction

/-! Traces: what is done to a state one thing after another, each with the state before it, and what
has been told on the way and not been taken back. -/

namespace Playback

variable {σ α β : Type}

/-- What is done one after another, each with the state before it. -/
def trace (step : σ → α → σ) (s : σ) : List α → List (σ × α)
  | [] => []
  | a :: rest => (s, a) :: trace step (step s a) rest

section Trace

variable (step : σ → α → σ) (s : σ) (l l' : List α)

@[simp] theorem trace_nil : trace step s [] = [] := rfl

@[simp] theorem trace_cons (a : α) :
    trace step s (a :: l) = (s, a) :: trace step (step s a) l := rfl

theorem trace_append :
    trace step s (l ++ l') = trace step s l ++ trace step (l.foldl step s) l' := by
  induction l generalizing s with
  | nil => rfl
  | cons a l ih => simp [ih]

theorem trace_concat (a : α) :
    trace step s (l ++ [a]) = trace step s l ++ [(l.foldl step s, a)] := trace_append ..

/-- The entry with the index `k` holds the state after the first `k` things. -/
theorem trace_getElem? (k : Nat) :
    (trace step s l)[k]? = (l[k]?).map fun a => ((l.take k).foldl step s, a) := by
  induction l generalizing s k with
  | nil => simp
  | cons a l ih =>
    cases k with
    | zero => simp
    | succ k => simp [ih]

variable {step s l}

/-- A part of a trace is the trace of a part of what is done. -/
theorem trace_split {past rest : List (σ × α)} (h : trace step s l = past ++ rest) :
    ∃ before later, l = before ++ later ∧ trace step s before = past ∧
      trace step (before.foldl step s) later = rest := by
  induction past generalizing s l with
  | nil => exact ⟨[], l, rfl, rfl, h⟩
  | cons e past ih =>
    cases l with
    | nil => cases h
    | cons a l =>
      obtain ⟨rfl, hrest⟩ := List.cons.inj h
      obtain ⟨before, later, rfl, hbefore, hlater⟩ := ih hrest
      exact ⟨a :: before, later, rfl, by rw [trace_cons, hbefore], hlater⟩

theorem trace_invariant {P : σ → Prop} (hstep : ∀ s a, P s → P (step s a)) (hs : P s) :
    ∀ e ∈ trace step s l, P e.1 := by
  induction l generalizing s with
  | nil => exact nofun
  | cons a l ih =>
    intro e he
    rcases List.mem_cons.mp he with rfl | he
    · exact hs
    · exact ih (hstep s a hs) e he

end Trace

/-- What is told last, where the last one of all tells something or else one before it. -/
theorem getLast?_filterMap_concat (f : α → Option β) (l : List α) (x : α) :
    ((l ++ [x]).filterMap f).getLast? = (f x).or (l.filterMap f).getLast? := by
  rw [List.filterMap_append]
  cases hx : f x <;> simp [hx]

/-- An entry of a list that grows at its end is the new one, or it was there before. -/
theorem concat_eq_append_cons {l past rest : List α} {a e : α}
    (h : l ++ [a] = past ++ e :: rest) :
    rest = [] ∧ l = past ∧ a = e ∨ ∃ init, rest = init ++ [a] ∧ l = past ++ e :: init := by
  rcases rest.eq_nil_or_concat with rfl | ⟨init, last, rfl⟩
  · obtain ⟨rfl, ha⟩ := List.append_inj' h rfl
    exact .inl ⟨rfl, rfl, by simpa using ha⟩
  · have h' : l ++ [a] = (past ++ e :: init) ++ [last] := by simpa using h
    obtain ⟨rfl, ha⟩ := List.append_inj' h' rfl
    cases ha
    exact .inr ⟨init, by simp, rfl⟩

/-- Something that `P` tells has happened, and nothing that `Q` tells has happened since. -/
def Persists (P Q : α → Prop) (h : List α) : Prop :=
  ∃ past e rest, h = past ++ e :: rest ∧ P e ∧ ∀ x ∈ rest, ¬Q x

section Persists

variable {P Q : α → Prop} {h : List α} {e : α}

theorem not_persists_nil : ¬Persists P Q [] := by
  rintro ⟨past, e, rest, h, -⟩
  simp at h

/-- Whether something persists can be told one entry after another. -/
theorem persists_concat : Persists P Q (h ++ [e]) ↔ P e ∨ Persists P Q h ∧ ¬Q e := by
  constructor
  · rintro ⟨past, first, rest, hsplit, hp, hq⟩
    rcases concat_eq_append_cons hsplit with ⟨rfl, rfl, rfl⟩ | ⟨init, rfl, rfl⟩
    · exact .inl hp
    · exact .inr ⟨⟨past, first, init, rfl, hp, fun x hx => hq x (by simp [hx])⟩, hq e (by simp)⟩
  · rintro (hp | ⟨⟨past, first, rest, rfl, hp, hq⟩, hn⟩)
    · exact ⟨h, e, [], rfl, hp, by simp⟩
    · refine ⟨past, first, rest ++ [e], by simp, hp, fun x hx => ?_⟩
      rcases List.mem_append.mp hx with hx | hx
      · exact hq x hx
      · rw [List.mem_singleton.mp hx]
        exact hn

end Persists

end Playback
