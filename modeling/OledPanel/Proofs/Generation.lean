import OledPanel.Proofs.Screen

/-!
# Generations count frames

A screen is driven by calls: show a raster, show a frame, build a raster and show it, clear, and
clear only if a generation is still current. Each call holds the screen's lock from its start to
its end, so the calls of any number of threads, in any interleaving, take effect one after
another: a run is a list of calls (`runCalls`). The display may refuse any transmission, and a
build may fail.

Results:
- `oneFrame_*`: a call that answers a generation sends exactly one frame. Either the display
  keeps it and the next generation is answered, or the call fails and nothing is shown; the
  three sources of failure (the screen's size check, the display's size check or refusal, a
  failed build) all leave the frames and the generation as they were.
- `clearIfCurrent_answer`: a conditional clear that happens keeps one black frame and answers
  `true`; one that does not happen shows nothing.
- `consistent_runCalls`: from a screen whose generation is the number of frames it has shown,
  every run keeps it so.
- `answered_pairwise`: the generations a run answers rise strictly, in the order the calls take
  effect.
- `generation_counts_frames`: all of it, for every run from a display that has shown nothing.
-/

namespace OledPanel

namespace Screen

variable {α : Type}

/-! ## Calls and runs -/

/-- what a call on the screen answers -/
inductive Answer where
  /-- the generation of the frame the call showed -/
  | generation (g : Nat)
  /-- whether a conditional clear happened -/
  | cleared (b : Bool)
  deriving DecidableEq, Repr

/-- a call on the screen, as a thread makes it -/
inductive Call where
  | blit (r : Raster)
  | blitFrame (f : Frame)
  /-- build a raster for the screen's size, or fail, and show it -/
  | compose (build : Nat → Nat → Except PanelError Raster)
  | clear
  | clearIfCurrent (g : Nat)

/-- Carry out one call. -/
def Call.perform : Call → ScreenM Answer
  | .blit r => do let g ← Screen.blit r; pure (.generation g)
  | .blitFrame f => do let g ← Screen.blitFrame f; pure (.generation g)
  | .compose build => do let g ← Screen.compose build; pure (.generation g)
  | .clear => do let g ← Screen.clear; pure (.generation g)
  | .clearIfCurrent g => do let b ← Screen.clearIfCurrent g; pure (.cleared b)

/-- Carry out calls in order, answering each. -/
def runCalls (s : Screen) : List Call → List (Except PanelError Answer) × Screen
  | [] => ([], s)
  | c :: cs =>
    let p := c.perform.run.run s
    let q := runCalls p.2 cs
    (p.1 :: q.1, q.2)

/-- the generations among the answers, in order -/
def answered (as : List (Except PanelError Answer)) : List Nat :=
  as.filterMap fun
    | .ok (.generation g) => some g
    | _ => none

/-- the generation is the number of frames shown -/
def Consistent (s : Screen) : Prop := s.generation = s.display.count

theorem run_bind_pure {β : Type} (x : ScreenM α) (f : α → β) (s : Screen) :
    (do let a ← x; pure (f a) : ScreenM β).run.run s = match x.run.run s with
      | (.ok a, s') => (.ok (f a), s')
      | (.error e, s') => (.error e, s') := by
  rw [run_bind]
  rcases x.run.run s with ⟨_ | a, s'⟩ <;> rfl

/-! ## One frame a call -/

/-- `p` is how sending one frame from `s` ended: the frame, which fits the screen, was kept and
the next generation answered, or the send failed and nothing is shown -/
def OneFrame (s : Screen) (p : Except PanelError Nat × Screen) : Prop :=
  (∃ f, p.1 = .ok (s.generation + 1) ∧ Kept f s p.2 ∧ s.Fits f) ∨ ((∃ e, p.1 = .error e) ∧ Unmoved s p.2)

theorem OneFrame.grows {s : Screen} {p : Except PanelError Nat × Screen} (h : OneFrame s p) : Grows s p.2 := by
  rcases h with ⟨f, -, hk, hf⟩ | ⟨-, hu⟩
  · exact hk.grows hf
  · exact hu.grows

theorem Sent.oneFrame {f : Frame} {s : Screen} {p : Except PanelError Nat × Screen} (h : Sent f s p)
    (hm : f.mode = s.mode) : OneFrame s p := by
  cases h with
  | kept hw hh hk => exact .inl ⟨f, rfl, hk, hw, hh, hm⟩
  | refused hu => exact .inr ⟨⟨_, rfl⟩, hu⟩
  | misfit _ hu => exact .inr ⟨⟨_, rfl⟩, hu⟩

theorem unmoved_refl (s : Screen) : Unmoved s s := ⟨rfl, rfl, rfl, rfl, rfl⟩

theorem oneFrame_blit (r : Raster) (s : Screen) : OneFrame s ((blit r).run.run s) := by
  by_cases hs : r.width = s.width ∧ r.height = s.height
  · exact (sent_blit hs.1 hs.2).oneFrame (Frame.mode_ofRaster r s.mode)
  · rw [blit_misfit hs]
    exact .inr ⟨⟨_, rfl⟩, unmoved_refl s⟩

theorem oneFrame_blitFrame (f : Frame) (s : Screen) : OneFrame s ((blitFrame f).run.run s) := by
  rw [blitFrame_run]
  by_cases hm : f.mode = s.mode
  · rw [if_pos hm]
    exact (sent_transmit f s).oneFrame hm
  · rw [if_neg hm]
    exact oneFrame_blit _ s

theorem oneFrame_clear (s : Screen) : OneFrame s (clear.run.run s) := by
  rw [clear_run]
  exact (sent_transmit _ s).oneFrame rfl

theorem oneFrame_compose (build : Nat → Nat → Except PanelError Raster) (s : Screen) :
    OneFrame s ((compose build).run.run s) := by
  rw [compose_run]
  rcases build s.width s.height with e | r
  · exact .inr ⟨⟨e, rfl⟩, unmoved_refl s⟩
  · exact oneFrame_blit r s

/-- A conditional clear for the current generation sends one black frame and answers `true` when
it is kept; for any other generation it answers `false` and shows nothing. -/
theorem clearIfCurrent_answer (g : Nat) (s : Screen) :
    let p := (clearIfCurrent g).run.run s
    (p.1 = .ok true ∧ s.generation = g ∧ Kept (Frame.black s.width s.height s.mode) s p.2) ∨
      ((p.1 = .ok false ∨ ∃ e, p.1 = .error e) ∧ Unmoved s p.2) := by
  simp only [clearIfCurrent_run]
  by_cases hg : s.generation = g
  · rw [if_pos hg]
    have h := sent_transmit (Frame.black s.width s.height s.mode) s
    generalize (transmit (Frame.black s.width s.height s.mode)).run.run s = p at h ⊢
    cases h with
    | kept _ _ hk => exact .inl ⟨rfl, hg, hk⟩
    | refused hu => exact .inr ⟨.inr ⟨_, rfl⟩, hu⟩
    | misfit _ hu => exact .inr ⟨.inr ⟨_, rfl⟩, hu⟩
  · rw [if_neg hg]
    exact .inr ⟨.inl rfl, unmoved_refl s⟩

/-! ## What a call does -/

theorem snd_run_bind_pure {β : Type} (x : ScreenM α) (f : α → β) (s : Screen) :
    ((do let a ← x; pure (f a) : ScreenM β).run.run s).2 = (x.run.run s).2 := by
  rw [run_bind_pure]
  rcases x.run.run s with ⟨_ | a, s'⟩ <;> rfl

theorem clearIfCurrent_grows (g : Nat) (s : Screen) : Grows s ((clearIfCurrent g).run.run s).2 := by
  rcases clearIfCurrent_answer g s with ⟨-, -, hk⟩ | ⟨-, hu⟩
  · exact hk.grows ⟨rfl, rfl, rfl⟩
  · exact hu.grows

theorem perform_grows (c : Call) (s : Screen) : Grows s (c.perform.run.run s).2 := by
  cases c with
  | blit r => rw [Call.perform, snd_run_bind_pure]; exact (oneFrame_blit r s).grows
  | blitFrame f => rw [Call.perform, snd_run_bind_pure]; exact (oneFrame_blitFrame f s).grows
  | compose build => rw [Call.perform, snd_run_bind_pure]; exact (oneFrame_compose build s).grows
  | clear => rw [Call.perform, snd_run_bind_pure]; exact (oneFrame_clear s).grows
  | clearIfCurrent g => rw [Call.perform, snd_run_bind_pure]; exact clearIfCurrent_grows g s

theorem OneFrame.answer {x : ScreenM Nat} {s : Screen} (h : OneFrame s (x.run.run s)) (g : Nat)
    (hg : ((do let a ← x; pure (Answer.generation a) : ScreenM Answer).run.run s).1 = .ok (.generation g)) :
    g = s.generation + 1 ∧ ∃ f, Kept f s ((do let a ← x; pure (Answer.generation a) : ScreenM Answer).run.run s).2 := by
  rw [run_bind_pure] at hg ⊢
  generalize x.run.run s = q at h hg ⊢
  rcases h with ⟨f, h1, hk, -⟩ | ⟨⟨e, he⟩, -⟩
  · obtain ⟨_ | a, s'⟩ := q
    · cases h1
    · cases h1
      cases hg
      exact ⟨rfl, f, hk⟩
  · obtain ⟨_ | a, s'⟩ := q
    · cases hg
    · cases he

theorem OneFrame.failed {x : ScreenM Nat} {s : Screen} (h : OneFrame s (x.run.run s))
    (he : ∃ e, ((do let a ← x; pure (Answer.generation a) : ScreenM Answer).run.run s).1 = .error e) :
    Unmoved s ((do let a ← x; pure (Answer.generation a) : ScreenM Answer).run.run s).2 := by
  rw [run_bind_pure] at he ⊢
  generalize x.run.run s = q at h he ⊢
  obtain ⟨e, he⟩ := he
  rcases h with ⟨f, h1, -, -⟩ | ⟨-, hu⟩
  · obtain ⟨_ | a, s'⟩ := q
    · cases h1
    · cases he
  · obtain ⟨_ | a, s'⟩ := q
    · exact hu
    · cases he

/-- the calls that answer a generation, each with the one transmission it makes -/
theorem oneFrame_perform (c : Call) (hc : ∀ g, c ≠ .clearIfCurrent g) (s : Screen) :
    ∃ x : ScreenM Nat, c.perform = (do let a ← x; pure (Answer.generation a)) ∧ OneFrame s (x.run.run s) := by
  cases c with
  | blit r => exact ⟨_, rfl, oneFrame_blit r s⟩
  | blitFrame f => exact ⟨_, rfl, oneFrame_blitFrame f s⟩
  | compose build => exact ⟨_, rfl, oneFrame_compose build s⟩
  | clear => exact ⟨_, rfl, oneFrame_clear s⟩
  | clearIfCurrent g => exact absurd rfl (hc g)

theorem perform_clearIfCurrent (g : Nat) (s : Screen) :
    let p := (Call.clearIfCurrent g).perform.run.run s
    (p.1 = .ok (.cleared true) ∧ s.generation = g ∧ Kept (Frame.black s.width s.height s.mode) s p.2) ∨
      ((p.1 = .ok (.cleared false) ∨ ∃ e, p.1 = .error e) ∧ Unmoved s p.2) := by
  simp only [Call.perform]
  rw [run_bind_pure]
  have h := clearIfCurrent_answer g s
  generalize (clearIfCurrent g).run.run s = q at h ⊢
  obtain ⟨r, s'⟩ := q
  rcases h with ⟨h1, hg, hk⟩ | ⟨h1 | ⟨e, h1⟩, hu⟩
  all_goals simp only at h1; subst h1
  · exact .inl ⟨rfl, hg, hk⟩
  · exact .inr ⟨.inl rfl, hu⟩
  · exact .inr ⟨.inr ⟨e, rfl⟩, hu⟩

theorem perform_generation (c : Call) (s : Screen) (g : Nat)
    (h : (c.perform.run.run s).1 = .ok (.generation g)) :
    g = s.generation + 1 ∧ ∃ f, Kept f s (c.perform.run.run s).2 := by
  by_cases hc : ∃ g', c = .clearIfCurrent g'
  · obtain ⟨g', rfl⟩ := hc
    rcases perform_clearIfCurrent g' s with ⟨h1, -⟩ | ⟨h1 | ⟨e, h1⟩, -⟩ <;> rw [h1] at h <;> cases h
  · obtain ⟨x, hx, ho⟩ := oneFrame_perform c (fun g' h' => hc ⟨g', h'⟩) s
    rw [hx] at h ⊢
    exact ho.answer g h

theorem perform_cleared (c : Call) (s : Screen) (h : (c.perform.run.run s).1 = .ok (.cleared true)) :
    ∃ g, c = .clearIfCurrent g ∧ s.generation = g ∧
      Kept (Frame.black s.width s.height s.mode) s (c.perform.run.run s).2 := by
  by_cases hc : ∃ g', c = .clearIfCurrent g'
  · obtain ⟨g, rfl⟩ := hc
    rcases perform_clearIfCurrent g s with ⟨-, hg, hk⟩ | ⟨h1 | ⟨e, h1⟩, -⟩
    · exact ⟨g, rfl, hg, hk⟩
    all_goals rw [h1] at h; cases h
  · obtain ⟨x, hx, -⟩ := oneFrame_perform c (fun g' h' => hc ⟨g', h'⟩) s
    rw [hx, run_bind_pure] at h
    generalize x.run.run s = q at h
    obtain ⟨_ | a, s'⟩ := q <;> cases h

theorem perform_unmoved (c : Call) (s : Screen)
    (h : (∃ e, (c.perform.run.run s).1 = .error e) ∨ (c.perform.run.run s).1 = .ok (.cleared false)) :
    Unmoved s (c.perform.run.run s).2 := by
  by_cases hc : ∃ g', c = .clearIfCurrent g'
  · obtain ⟨g, rfl⟩ := hc
    rcases perform_clearIfCurrent g s with ⟨h1, -⟩ | ⟨-, hu⟩
    · rcases h with ⟨e, h⟩ | h <;> rw [h1] at h <;> cases h
    · exact hu
  · obtain ⟨x, hx, ho⟩ := oneFrame_perform c (fun g' h' => hc ⟨g', h'⟩) s
    rw [hx] at h ⊢
    refine ho.failed ?_
    rcases h with h | h
    · exact h
    · rw [run_bind_pure] at h
      generalize x.run.run s = q at h
      obtain ⟨_ | a, s'⟩ := q <;> cases h

/-! ## Runs -/

@[simp] theorem runCalls_nil (s : Screen) : runCalls s [] = ([], s) := rfl

@[simp] theorem runCalls_cons (s : Screen) (c : Call) (cs : List Call) :
    runCalls s (c :: cs) =
      ((c.perform.run.run s).1 :: (runCalls (c.perform.run.run s).2 cs).1,
        (runCalls (c.perform.run.run s).2 cs).2) := rfl

theorem Kept.count {f : Frame} {s s' : Screen} (h : Kept f s s') : s'.display.count = s.display.count + 1 := by
  simp [MemoryDisplay.count, h.shown]

theorem Grows.consistent {s s' : Screen} (h : Grows s s') (hs : Consistent s) : Consistent s' := by
  have := h.count_add
  have := h.generation_le
  unfold Consistent at *
  omega

theorem grows_runCalls (s : Screen) (cs : List Call) : Grows s (runCalls s cs).2 := by
  induction cs generalizing s with
  | nil => exact Grows.refl s
  | cons c cs ih => exact (perform_grows c s).trans (ih _)

theorem consistent_runCalls (s : Screen) (cs : List Call) (hs : Consistent s) :
    Consistent (runCalls s cs).2 :=
  (grows_runCalls s cs).consistent hs

theorem answered_cons (a : Except PanelError Answer) (as : List (Except PanelError Answer)) :
    answered (a :: as) = match a with
      | .ok (.generation g) => g :: answered as
      | _ => answered as := by
  rcases a with e | (g | b) <;> rfl

theorem answered_gt (s : Screen) (cs : List Call) : ∀ g ∈ answered (runCalls s cs).1, s.generation < g := by
  induction cs generalizing s with
  | nil => simp [answered]
  | cons c cs ih =>
    intro g hg
    have hle := (perform_grows c s).generation_le
    rw [runCalls_cons, answered_cons] at hg
    split at hg
    · rename_i g' hg'
      rcases List.mem_cons.1 hg with rfl | hg
      · have := (perform_generation c s g hg').1
        omega
      · have := ih _ g hg
        omega
    · have := ih _ g hg
      omega

/-- The generations a run answers rise strictly, in the order the calls take effect. -/
theorem answered_pairwise (s : Screen) (cs : List Call) : (answered (runCalls s cs).1).Pairwise (· < ·) := by
  induction cs generalizing s with
  | nil => simp [answered]
  | cons c cs ih =>
    rw [runCalls_cons, answered_cons]
    split
    · rename_i g hg
      obtain ⟨rfl, f, hk⟩ := perform_generation c s g hg
      refine List.pairwise_cons.2 ⟨fun g' hg' => ?_, ih _⟩
      have := answered_gt _ cs g' hg'
      rw [hk.generation] at this
      exact this
    · exact ih _

/-! ## Main result -/

/-- the screen of a display that has shown nothing -/
def fresh (w h : Nat) (m : Mode) (refusals : List Nat) : Screen := { display := MemoryDisplay.new w h m refusals }

/-- **Generations count frames.** In every run of calls from a display that has shown nothing,
made by any number of threads in any interleaving and with any transmissions refused, every
state reached has its generation equal to the number of frames shown, and shows no frame exactly
at generation 0. From such a state, a call that answers a generation `g` has kept exactly one
frame, at position `g`; a conditional clear for `g` that answers `true` has kept exactly one black
frame of the display's size and mode, at position `g + 1`; a call that fails (on any size check,
a refusal or a failed build), or a conditional clear that answers `false`, leaves the frames and
the generation as they were. The generations a run answers rise strictly. -/
theorem generation_counts_frames (w h : Nat) (m : Mode) (refusals : List Nat) (calls : List Call)
    (c : Call) :
    let s := (runCalls (fresh w h m refusals) calls).2
    let p := c.perform.run.run s
    s.generation = s.display.count ∧ (s.display.last? = none ↔ s.generation = 0) ∧
    (∀ g, p.1 = .ok (.generation g) →
      ∃ f, p.2.display.shown = s.display.shown.push f ∧ p.2.display.count = g ∧ p.2.generation = g) ∧
    (∀ g, c = .clearIfCurrent g → p.1 = .ok (.cleared true) →
      p.2.display.shown = s.display.shown.push (Frame.black w h m) ∧ p.2.display.count = g + 1 ∧
        p.2.generation = g + 1) ∧
    ((∃ e, p.1 = .error e) ∨ p.1 = .ok (.cleared false) →
      p.2.display.shown = s.display.shown ∧ p.2.generation = s.generation) ∧
    (answered (runCalls (fresh w h m refusals) (calls ++ [c])).1).Pairwise (· < ·) := by
  intro s p
  have hs : Consistent s := consistent_runCalls (fresh w h m refusals) calls rfl
  have hgeo := grows_runCalls (fresh w h m refusals) calls
  refine ⟨hs, ?_, fun g hg => ?_, fun g hc hg => ?_, fun hf => ?_, answered_pairwise _ _⟩
  · rw [hs]
    simp [MemoryDisplay.last?, MemoryDisplay.count]
  · obtain ⟨rfl, f, hk⟩ := perform_generation c s g hg
    exact ⟨f, hk.shown, by rw [hk.count, ← hs], hk.generation⟩
  · obtain ⟨g', hc', rfl, hk⟩ := perform_cleared c s hg
    cases hc.symm.trans hc'
    refine ⟨?_, by rw [hk.count, ← hs], hk.generation⟩
    rw [hk.shown, hgeo.width, hgeo.height, hgeo.mode]
    rfl
  · have hu := perform_unmoved c s hf
    exact ⟨hu.shown, hu.generation⟩

end Screen

end OledPanel
