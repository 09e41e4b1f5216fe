import OledPanel.Session
import OledPanel.Proofs.Generation
import OledPanel.Proofs.SizeSafety

/-!
# Timed clears

A timed clear is bound to a generation: the one on screen when it is set, or, for an image shown
with a delay, the one that showing the image answered. When it fires it takes the screen as every
other operation does, clears it only if the screen is still at that generation, and reports
whether it did. A session lets any request come between setting a clear and its firing, and fires
a clear when it is waited for, so every order of timers and other operations is a list of
requests.

Results:
- `fire_spec`: a timed clear sends one black frame of the display's size and mode exactly when
  the screen is at its generation and the display keeps the frame; it answers `true` exactly
  then, and otherwise shows nothing and keeps the generation.
- `perform_follows`, `run_follows`: every request, and so every run, only grows the screen and
  numbers the clears it sets from the next number on.
- `perform_waitClear`, `pending_taken`, `taken_stays_gone`, `cleared_once`: waiting fires a clear
  on the screen as it is; a clear stays pending, bound as it was set, until it is waited for or
  cancelled, and is never pending again after; and a clear that cleared leaves the screen past
  its generation for good.
- `timed_clears`: from a display that has shown nothing, after any requests: a clear waited for
  fires as `fire_spec` says and blanks only the frame it was bound to; a cancelled clear never
  fires; a scheduled clear is bound to the generation on screen, and an image's clear to the
  generation of the image's own frame; and once a clear for a generation has fired, no other
  clear for it ever clears.
-/

namespace OledPanel

open Screen

namespace TimedClear

/-- **Firing a timed clear.** It answers `true`, having kept one black frame of the display's size
and mode, exactly when the screen is still at the clear's generation and the display keeps the
frame; otherwise it answers `false` and shows nothing. -/
theorem fire_spec (t : TimedClear) (s : Screen) :
    let p := t.fire.run.run s
    let black := Frame.black s.width s.height s.mode
    (p.1 = .ok true ∧ s.generation = t.generation ∧ (s.display.transmit black).1 = .ok () ∧ Kept black s p.2) ∨
      (p.1 = .ok false ∧ ¬(s.generation = t.generation ∧ (s.display.transmit black).1 = .ok ()) ∧
        Unmoved s p.2) := by
  intro p black
  simp only [p, fire, run_tryCatch, clearIfCurrent_run]
  by_cases hg : s.generation = t.generation
  · rw [if_pos hg]
    have hs := sent_transmit black s
    have hacc := transmit_ok_iff black s
    generalize (transmit black).run.run s = q at hs hacc ⊢
    cases hs with
    | kept _ _ hk => exact .inl ⟨rfl, hg, hacc.1 ⟨_, rfl⟩, hk⟩
    | refused hu =>
      refine .inr ⟨rfl, fun ⟨_, ha⟩ => ?_, hu⟩
      obtain ⟨g, hq⟩ := hacc.2 ha
      cases hq
    | misfit hs _ => exact absurd ⟨rfl, rfl⟩ hs
  · rw [if_neg hg]
    exact .inr ⟨rfl, fun h => hg h.1, unmoved_refl s⟩

end TimedClear

namespace Screen

variable {α : Type}

/-- `m` grows every screen it runs from -/
def Growing (m : ScreenM α) : Prop := ∀ s, Grows s (m.run.run s).2

theorem Safe.growing {m : ScreenM α} (h : Safe m) : Growing m := fun s => (h s).2

theorem growing_blit (r : Raster) : Growing (blit r) := fun s => (oneFrame_blit r s).grows

theorem growing_blitFrame (f : Frame) : Growing (blitFrame f) := fun s => (oneFrame_blitFrame f s).grows

theorem growing_clearIfCurrent (g : Nat) : Growing (clearIfCurrent g) := clearIfCurrent_grows g

theorem growing_fire (t : TimedClear) : Growing t.fire := by
  intro s
  rcases TimedClear.fire_spec t s with ⟨-, -, -, hk⟩ | ⟨-, -, hu⟩
  · exact hk.grows ⟨rfl, rfl, rfl⟩
  · exact hu.grows

end Screen

namespace Session

variable {α : Type}

/-! ## Sessions only move forward -/

/-- `s'` comes after `s`: its screen has grown from `s`'s, and each clear pending in `s'` was
pending in `s` or was set since, under a number between `s`'s next number and `s'`'s -/
structure Follows (s s' : Session) : Prop where
  screen : Grows s.screen s'.screen
  next : s.nextTimer ≤ s'.nextTimer
  timers : ∀ p ∈ s'.timers, p ∈ s.timers ∨ (s.nextTimer ≤ p.1 ∧ p.1 < s'.nextTimer)

theorem Follows.refl (s : Session) : Follows s s := ⟨Grows.refl _, Nat.le_refl _, fun _ hp => .inl hp⟩

theorem Follows.trans {s₁ s₂ s₃ : Session} (h₁ : Follows s₁ s₂) (h₂ : Follows s₂ s₃) : Follows s₁ s₃ := by
  refine ⟨h₁.screen.trans h₂.screen, Nat.le_trans h₁.next h₂.next, fun p hp => ?_⟩
  rcases h₂.timers p hp with hp | ⟨hlo, hhi⟩
  · rcases h₁.timers p hp with hp | ⟨hlo', hhi'⟩
    · exact .inl hp
    · exact .inr ⟨hlo', Nat.lt_of_lt_of_le hhi' h₂.next⟩
  · exact .inr ⟨Nat.le_trans h₁.next hlo, hhi⟩

/-- the clears pending are numbered below the next number, and the generation is the number of
frames shown -/
structure Inv (s : Session) : Prop where
  consistent : Consistent s.screen
  numbered : ∀ p ∈ s.timers, p.1 < s.nextTimer

theorem Follows.inv {s s' : Session} (h : Follows s s') (hs : Inv s) : Inv s' := by
  refine ⟨h.screen.consistent hs.consistent, fun p hp => ?_⟩
  rcases h.timers p hp with hp | ⟨-, hhi⟩
  · exact Nat.lt_of_lt_of_le (hs.numbered p hp) h.next
  · exact hhi

theorem answer_snd (s : Session) (m : ScreenM α) (reply : α → Reply) :
    (s.answer m reply).2 = { s with screen := (m.run.run s.screen).2 } := by
  simp only [answer, onScreen]
  rcases m.run.run s.screen with ⟨_ | a, sc⟩ <;> rfl

theorem answer_fst (s : Session) (m : ScreenM α) (reply : α → Reply) :
    (s.answer m reply).1 = match (m.run.run s.screen).1 with
      | .ok a => .ok (reply a)
      | .error e => .failed e := by
  simp only [answer, onScreen]
  rcases m.run.run s.screen with ⟨_ | a, sc⟩ <;> rfl

theorem follows_onScreen {m : ScreenM α} (hm : Growing m) (s : Session) : Follows s (s.onScreen m).2 :=
  ⟨hm s.screen, Nat.le_refl _, fun _ hp => .inl hp⟩

theorem follows_answer {m : ScreenM α} (hm : Growing m) (s : Session) (reply : α → Reply) :
    Follows s (s.answer m reply).2 := by
  rw [answer_snd]
  exact follows_onScreen hm s

theorem follows_addTimer (s : Session) (t : TimedClear) : Follows s (s.addTimer t).2 := by
  refine ⟨Grows.refl _, Nat.le_succ _, fun p hp => ?_⟩
  rcases List.mem_append.1 hp with hp | hp
  · exact .inl hp
  · rw [List.mem_singleton] at hp
    subst hp
    exact .inr ⟨Nat.le_refl _, Nat.lt_succ_self _⟩

theorem takeTimer_eq_some {s : Session} {id : Int} {t : TimedClear} {rest : Session}
    (h : s.takeTimer id = some (t, rest)) :
    ∃ n, (n, t) ∈ s.timers ∧ (n : Int) = id ∧ rest = { s with timers := s.timers.filter (·.1 ≠ n) } := by
  unfold takeTimer at h
  split at h
  · rename_i n t' hf
    cases h
    have := List.find?_some hf
    exact ⟨n, List.mem_of_find?_eq_some hf, by simpa using this, rfl⟩
  · cases h

theorem follows_takeTimer {s : Session} {id : Int} {t : TimedClear} {rest : Session}
    (h : s.takeTimer id = some (t, rest)) : Follows s rest := by
  obtain ⟨n, -, -, rfl⟩ := takeTimer_eq_some h
  exact ⟨Grows.refl _, Nat.le_refl _, fun p hp => .inl (List.mem_filter.1 hp).1⟩

/-- Every request only grows the screen, and numbers the clears it sets from the next number on. -/
theorem perform_follows (s : Session) (r : Request) : Follows s (s.perform r).2 := by
  cases r with
  | clear => exact follows_answer (Safe.growing safeAt_clear) s _
  | text t x y font ink => exact follows_answer (Service.safe_showText _ t x y font ink).growing s _
  | icon name x y => exact follows_answer (Service.safe_showIcon _ name x y).growing s _
  | image path scale after =>
    have h := follows_onScreen (Service.safe_showImage s.service path scale after).growing s
    simp only [perform]
    generalize s.onScreen (s.service.showImage path scale after) = q at h ⊢
    obtain ⟨o, s'⟩ := q
    rcases o with e | _ | t
    · exact h
    · exact h
    · exact h.trans (follows_addTimer s' t)
  | raster r => exact follows_answer (Service.safe_showRaster r).growing s _
  | draw ms => exact follows_answer (Service.safe_drawWith (Painter.ofMarks ms)).growing s _
  | blit r => exact follows_answer (growing_blit r) s _
  | blitFrame f => exact follows_answer (growing_blitFrame f) s _
  | clearIfCurrent g => exact follows_answer (growing_clearIfCurrent g) s _
  | generation => exact Follows.refl s
  | screenInfo => exact Follows.refl s
  | scheduleClear after => exact follows_addTimer s _
  | waitClear id =>
    simp only [perform]
    split
    · rename_i t rest ht
      exact (follows_takeTimer ht).trans (follows_answer (growing_fire t) rest _)
    · exact Follows.refl s
  | cancelClear id =>
    simp only [perform]
    split
    · rename_i t rest ht
      exact follows_takeTimer ht
    · exact Follows.refl s
  | logo d => exact follows_answer (Service.safe_showLogo _ d).growing s _
  | ready n => exact follows_answer (Service.safe_showReady _ _).growing s _
  | playOnce path => exact follows_answer (Service.safe_playOnce _ path).growing s _
  | slide a b d fps => exact follows_answer (Service.safe_slide _ _ d fps).growing s _
  | register r => exact ⟨Grows.refl _, Nat.le_refl _, fun _ hp => .inl hp⟩
  | notify mode => exact Follows.refl s
  | icons => exact Follows.refl s
  | fonts => exact Follows.refl s
  | settings => exact Follows.refl s

theorem run_append_snd (s : Session) (xs ys : List Request) :
    (s.run (xs ++ ys)).2 = ((s.run xs).2.run ys).2 := by
  induction xs generalizing s with
  | nil => rfl
  | cons r xs ih => exact ih _

theorem run_follows (s : Session) (rs : List Request) : Follows s (s.run rs).2 := by
  induction rs generalizing s with
  | nil => exact Follows.refl s
  | cons r rs ih => exact (perform_follows s r).trans (ih _)

/-! ## Waiting for, cancelling and binding a clear -/

theorem answer_timers (s : Session) (m : ScreenM α) (reply : α → Reply) :
    (s.answer m reply).2.timers = s.timers := by
  rw [answer_snd]

theorem takeTimer_screen {s : Session} {id : Int} {t : TimedClear} {rest : Session}
    (h : s.takeTimer id = some (t, rest)) : rest.screen = s.screen ∧ rest.nextTimer = s.nextTimer := by
  obtain ⟨n, -, -, rfl⟩ := takeTimer_eq_some h
  exact ⟨rfl, rfl⟩

theorem takeTimer_eq_none {s : Session} {n : Nat} (h : ∀ p ∈ s.timers, p.1 ≠ n) : s.takeTimer n = none := by
  unfold takeTimer
  rw [List.find?_eq_none.2]
  intro p hp
  simp only [decide_eq_true_eq]
  exact_mod_cast h p hp

/-- A clear pending under a number below the next one stays bound to that number in every later
session. -/
theorem Follows.bound {s s' : Session} (hf : Follows s s') {n : Nat} {t : TimedClear}
    (hb : ∀ p ∈ s.timers, p.1 = n → p = (n, t)) (hn : n < s.nextTimer) :
    ∀ p ∈ s'.timers, p.1 = n → p = (n, t) := by
  intro p hp hpn
  rcases hf.timers p hp with hp | ⟨hlo, -⟩
  · exact hb p hp hpn
  · omega

theorem addTimer_bound {s : Session} (hnum : ∀ p ∈ s.timers, p.1 < s.nextTimer) (t : TimedClear) :
    ∀ p ∈ (s.addTimer t).2.timers, p.1 = s.nextTimer → p = (s.nextTimer, t) := by
  intro p hp hpn
  rcases List.mem_append.1 hp with hp | hp
  · exact absurd hpn (Nat.ne_of_lt (hnum p hp))
  · exact List.mem_singleton.1 hp

theorem takeTimer_of_bound {s : Session} {n : Nat} {t : TimedClear} (hmem : (n, t) ∈ s.timers)
    (hb : ∀ p ∈ s.timers, p.1 = n → p = (n, t)) : ∃ rest, s.takeTimer n = some (t, rest) := by
  unfold takeTimer
  cases hf : s.timers.find? (fun p => (p.1 : Int) = n) with
  | none =>
    have := List.find?_eq_none.1 hf (n, t) hmem
    simp at this
  | some q =>
    have hqn : q.1 = n := by
      have := List.find?_some hf
      simp only [decide_eq_true_eq] at this
      exact_mod_cast this
    cases hb q (List.mem_of_find?_eq_some hf) hqn
    exact ⟨_, rfl⟩

theorem onScreen_timers (s : Session) (m : ScreenM α) : (s.onScreen m).2.timers = s.timers := rfl

theorem mem_takeTimer_rest {s : Session} {id : Int} {t : TimedClear} {rest : Session}
    (ht : s.takeTimer id = some (t, rest)) {n : Nat} {t' : TimedClear} (hmem : (n, t') ∈ s.timers)
    (hid : id ≠ n) : (n, t') ∈ rest.timers := by
  obtain ⟨n', -, hn', rfl⟩ := takeTimer_eq_some ht
  refine List.mem_filter.2 ⟨hmem, ?_⟩
  simp only [decide_eq_true_eq]
  rintro rfl
  exact hid hn'.symm

theorem perform_keeps_timer (s : Session) (r : Request) {n : Nat} {t : TimedClear} (hmem : (n, t) ∈ s.timers)
    (hw : r ≠ .waitClear n) (hc : r ≠ .cancelClear n) : (n, t) ∈ (s.perform r).2.timers := by
  cases r
  case image path scale after =>
    have h := onScreen_timers s (s.service.showImage path scale after)
    simp only [perform]
    generalize s.onScreen (s.service.showImage path scale after) = q at h ⊢
    obtain ⟨o, s'⟩ := q
    rw [← h] at hmem
    rcases o with e | _ | t'
    · exact hmem
    · exact hmem
    · exact List.mem_append_left _ hmem
  case scheduleClear after => exact List.mem_append_left _ hmem
  case waitClear id =>
    simp only [perform]
    split
    · rename_i t' rest ht
      rw [answer_timers]
      exact mem_takeTimer_rest ht hmem fun h => hw (by rw [h])
    · exact hmem
  case cancelClear id =>
    simp only [perform]
    split
    · rename_i t' rest ht
      exact mem_takeTimer_rest ht hmem fun h => hc (by rw [h])
    · exact hmem
  -- every other request keeps the pending clears as they are
  all_goals simp only [perform, answer_timers, hmem]

theorem run_keeps_timer (s : Session) (rs : List Request) {n : Nat} {t : TimedClear} (hmem : (n, t) ∈ s.timers)
    (hrs : ∀ r ∈ rs, r ≠ .waitClear n ∧ r ≠ .cancelClear n) : (n, t) ∈ (s.run rs).2.timers := by
  induction rs generalizing s with
  | nil => exact hmem
  | cons r rs ih =>
    have hr := hrs r (List.mem_cons_self ..)
    exact ih _ (perform_keeps_timer s r hmem hr.1 hr.2) (fun r' h' => hrs r' (List.mem_cons_of_mem _ h'))

/-- A clear set under `n`, through any requests that neither wait for it nor cancel it, is still
the one taken under `n`. -/
theorem pending_taken {s : Session} {n : Nat} {t : TimedClear} (hmem : (n, t) ∈ s.timers)
    (hb : ∀ p ∈ s.timers, p.1 = n → p = (n, t)) (hn : n < s.nextTimer) (mid : List Request)
    (hmid : ∀ r ∈ mid, r ≠ .waitClear n ∧ r ≠ .cancelClear n) :
    ∃ rest, (s.run mid).2.takeTimer n = some (t, rest) :=
  takeTimer_of_bound (run_keeps_timer s mid hmem hmid) ((run_follows s mid).bound hb hn)

theorem addTimer_pending {s : Session} (hnum : ∀ p ∈ s.timers, p.1 < s.nextTimer) (t : TimedClear)
    (mid : List Request) (hmid : ∀ r ∈ mid, r ≠ .waitClear s.nextTimer ∧ r ≠ .cancelClear s.nextTimer) :
    ∃ rest, ((s.addTimer t).2.run mid).2.takeTimer s.nextTimer = some (t, rest) :=
  pending_taken (List.mem_append_right _ (List.mem_singleton_self _)) (addTimer_bound hnum t)
    (Nat.lt_succ_self _) mid hmid

theorem perform_waitClear_some {s : Session} {id : Int} {t : TimedClear} {rest : Session}
    (ht : s.takeTimer id = some (t, rest)) : s.perform (.waitClear id) = rest.answer t.fire .flag := by
  simp only [perform, ht]

/-- **Waiting for a clear** fires it on the screen as it is. It answers `true`, having kept one
black frame of the display's size and mode, exactly when the screen is still at the clear's
generation, so that the frame it blanks is the frame of that number, and the display keeps the
frame; otherwise it answers `false` and shows nothing. -/
theorem perform_waitClear {s : Session} (hs : Inv s) {id : Int} {t : TimedClear} {rest : Session}
    (ht : s.takeTimer id = some (t, rest)) :
    let p := s.perform (.waitClear id)
    let black := Frame.black s.screen.width s.screen.height s.screen.mode
    (p.1 = .ok (.flag true) ∧ s.screen.generation = t.generation ∧ s.screen.display.count = t.generation ∧
        (s.screen.display.transmit black).1 = .ok () ∧ Kept black s.screen p.2.screen) ∨
      (p.1 = .ok (.flag false) ∧
        ¬(s.screen.generation = t.generation ∧ (s.screen.display.transmit black).1 = .ok ()) ∧
        Unmoved s.screen p.2.screen) := by
  intro p black
  rw [show p = rest.answer t.fire .flag from perform_waitClear_some ht, answer_fst, answer_snd,
    (takeTimer_screen ht).1]
  rcases TimedClear.fire_spec t s.screen with ⟨h1, hg, ha, hk⟩ | ⟨h1, hn, hu⟩
  · have hc : s.screen.display.count = t.generation := hs.consistent.symm.trans hg
    exact .inl ⟨by rw [h1], hg, hc, ha, hk⟩
  · exact .inr ⟨by rw [h1], hn, hu⟩

theorem perform_cancelClear {s : Session} {id : Int} {t : TimedClear} {rest : Session}
    (ht : s.takeTimer id = some (t, rest)) : s.perform (.cancelClear id) = (.ok (.flag false), rest) := by
  simp only [perform, ht]

/-- A clear taken off, by waiting for it or cancelling it, is never pending again: its number
is below every number set afterwards. -/
theorem taken_stays_gone {s : Session} (hs : Inv s) {id : Int} {t : TimedClear} {rest : Session}
    (ht : s.takeTimer id = some (t, rest)) (rest' : Session) (hf : Follows rest rest') :
    rest'.takeTimer id = none := by
  obtain ⟨n, hmem, rfl, hrest⟩ := takeTimer_eq_some ht
  have hlt : n < rest.nextTimer := by
    rw [(takeTimer_screen ht).2]
    exact hs.numbered _ hmem
  apply takeTimer_eq_none
  intro p hp hpn
  rcases hf.timers p hp with hp | ⟨hlo, -⟩
  · rw [hrest] at hp
    simp [hpn] at hp
  · omega

theorem perform_waitClear_none {s : Session} {id : Int} (h : s.takeTimer id = none) :
    s.perform (.waitClear id) = (.noTimer id, s) := by
  simp only [perform, h]

/-- Showing an image with a delay: either it fails, or it keeps the image's frame and sets, under
the next number, a clear bound to the generation its showing answered. -/
theorem perform_image_some (s : Session) (path : String) (scale : Bool) (d : Duration) :
    s.perform (.image path scale (some d)) =
      match (compose (s.service.imageRaster path scale)).run.run s.screen with
      | (.ok g, sc) => (.ok (.timer (some s.nextTimer)), ({ s with screen := sc }.addTimer ⟨g, d⟩).2)
      | (.error e, sc) => (.failed e, { s with screen := sc }) := by
  simp only [perform, onScreen, Service.showImage, run_bind_pure]
  rcases (compose (s.service.imageRaster path scale)).run.run s.screen with ⟨_ | g, sc⟩ <;> rfl

/-- An image shown with a delay that answers clear `n` has kept its frame, and `n` is the next
number, under which it set a clear bound to the generation of that frame. -/
theorem perform_image_timer (s : Session) (path : String) (scale : Bool) (d : Duration) {n : Nat}
    (h : (s.perform (.image path scale (some d))).1 = .ok (.timer (some n))) :
    let s' := (s.perform (.image path scale (some d))).2
    n = s.nextTimer ∧ (∃ f, Kept f s.screen s'.screen) ∧
      s' = ({ s with screen := s'.screen }.addTimer ⟨s'.screen.generation, d⟩).2 := by
  intro s'
  have ho := oneFrame_compose (s.service.imageRaster path scale) s.screen
  simp only [s', perform_image_some] at h ⊢
  generalize (compose (s.service.imageRaster path scale)).run.run s.screen = q at ho h ⊢
  obtain ⟨o, sc⟩ := q
  rcases ho with ⟨f, h1, hk, -⟩ | ⟨⟨e, h1⟩, -⟩
  · simp only at h1 hk
    subst h1
    simp only [Outcome.ok.injEq, Reply.timer.injEq, Option.some.injEq] at h
    refine ⟨h.symm, ⟨f, hk⟩, ?_⟩
    show ({ s with screen := sc }.addTimer ⟨s.screen.generation + 1, d⟩).2 =
      ({ s with screen := sc }.addTimer ⟨sc.generation, d⟩).2
    rw [hk.generation]
  · simp only at h1
    subst h1
    cases h

/-- After a clear for generation `g` has cleared, the screen is past `g` for good, so no later
clear bound to `g` clears. -/
theorem cleared_once {s : Session} (hs : Inv s) {id : Int} {t : TimedClear} {rest : Session}
    (ht : s.takeTimer id = some (t, rest)) (hfire : (s.perform (.waitClear id)).1 = .ok (.flag true))
    {s₂ : Session} (hf : Follows (s.perform (.waitClear id)).2 s₂) {id' : Int} {t' : TimedClear}
    {rest' : Session} (ht' : s₂.takeTimer id' = some (t', rest')) (hg : t'.generation = t.generation) :
    (s₂.perform (.waitClear id')).1 = .ok (.flag false) := by
  have hs₂ : Inv s₂ := hf.inv ((perform_follows s _).inv hs)
  rcases perform_waitClear hs ht with ⟨-, hg₁, -, -, hk⟩ | ⟨h1, -, -⟩
  · -- the clear left the screen one past `g`, and the screen never goes back
    have hpast : t.generation < s₂.screen.generation := by
      have := hf.screen.generation_le
      rw [hk.generation] at this
      omega
    rcases perform_waitClear hs₂ ht' with ⟨-, hg₂, -⟩ | ⟨h2, -, -⟩
    · omega
    · exact h2
  · rw [h1] at hfire
    cases hfire

theorem inv_new (sv : Service) (w h : Nat) (m : Mode) (refusals : List Nat) :
    Inv (Session.new sv (MemoryDisplay.new w h m refusals)) :=
  ⟨rfl, fun _ hp => nomatch hp⟩

/-- **Timed clears.** From a display that has shown nothing, after any requests:
- waiting for a pending clear fires it as `perform_waitClear` says, blanking with one black frame
  of the display's size and mode only the frame it is bound to, and it is never pending again;
- a cancelled clear shows nothing, and waiting for it later finds nothing;
- a clear scheduled now is bound to the generation on screen, an image's clear to the generation
  of the image's own frame, and each is the clear taken when it is waited for after any requests
  that neither wait for it nor cancel it;
- once a clear has cleared, no later clear bound to the same generation clears. -/
theorem timed_clears (sv : Service) (w h : Nat) (m : Mode) (refusals : List Nat) (pre : List Request) :
    let s := ((Session.new sv (MemoryDisplay.new w h m refusals)).run pre).2
    let black := Frame.black w h m
    (∀ id t rest, s.takeTimer id = some (t, rest) →
      let p := s.perform (.waitClear id)
      ((p.1 = .ok (.flag true) ∧ s.screen.generation = t.generation ∧ s.screen.display.count = t.generation ∧
          (s.screen.display.transmit black).1 = .ok () ∧ Kept black s.screen p.2.screen) ∨
        (p.1 = .ok (.flag false) ∧
          ¬(s.screen.generation = t.generation ∧ (s.screen.display.transmit black).1 = .ok ()) ∧
          Unmoved s.screen p.2.screen)) ∧
      ∀ mid, (p.2.run mid).2.perform (.waitClear id) = (.noTimer id, (p.2.run mid).2)) ∧
    (∀ id t rest, s.takeTimer id = some (t, rest) →
      s.perform (.cancelClear id) = (.ok (.flag false), rest) ∧ rest.screen = s.screen ∧
      ∀ mid, (rest.run mid).2.perform (.waitClear id) = (.noTimer id, (rest.run mid).2)) ∧
    (∀ d mid, (∀ r ∈ mid, r ≠ .waitClear s.nextTimer ∧ r ≠ .cancelClear s.nextTimer) →
      let p := s.perform (.scheduleClear d)
      p.1 = .ok (.timer (some s.nextTimer)) ∧ p.2.screen = s.screen ∧
      ∃ rest, (p.2.run mid).2.takeTimer s.nextTimer = some (⟨s.screen.generation, d⟩, rest)) ∧
    (∀ path scale d n mid, (s.perform (.image path scale (some d))).1 = .ok (.timer (some n)) →
      (∀ r ∈ mid, r ≠ .waitClear n ∧ r ≠ .cancelClear n) →
      let p := s.perform (.image path scale (some d))
      (∃ f, Kept f s.screen p.2.screen) ∧
      ∃ rest, (p.2.run mid).2.takeTimer n = some (⟨p.2.screen.generation, d⟩, rest)) ∧
    (∀ id t rest, s.takeTimer id = some (t, rest) → (s.perform (.waitClear id)).1 = .ok (.flag true) →
      ∀ mid id' t' rest', ((s.perform (.waitClear id)).2.run mid).2.takeTimer id' = some (t', rest') →
        t'.generation = t.generation →
        (((s.perform (.waitClear id)).2.run mid).2.perform (.waitClear id')).1 = .ok (.flag false)) := by
  intro s black
  have hf := run_follows (Session.new sv (MemoryDisplay.new w h m refusals)) pre
  have hs : Inv s := hf.inv (inv_new sv w h m refusals)
  have hblack : black = Frame.black s.screen.width s.screen.height s.screen.mode := by
    rw [hf.screen.width, hf.screen.height, hf.screen.mode]
    rfl
  refine ⟨?wait, ?cancel, ?schedule, ?image, ?once⟩
  case wait =>
    intro id t rest ht
    refine ⟨hblack ▸ perform_waitClear hs ht, fun mid => perform_waitClear_none ?_⟩
    rw [perform_waitClear_some ht]
    exact taken_stays_gone hs ht _ ((follows_answer (growing_fire t) rest _).trans (run_follows _ mid))
  case cancel =>
    intro id t rest ht
    refine ⟨perform_cancelClear ht, (takeTimer_screen ht).1, fun mid => perform_waitClear_none ?_⟩
    exact taken_stays_gone hs ht _ (run_follows rest mid)
  case schedule =>
    intro d mid hmid
    exact ⟨rfl, rfl, addTimer_pending hs.numbered _ mid hmid⟩
  case image =>
    intro path scale d n mid h hmid
    obtain ⟨rfl, hk, heq⟩ := perform_image_timer s path scale d h
    refine ⟨hk, ?_⟩
    rw [heq]
    refine addTimer_pending ?_ _ mid hmid
    exact hs.numbered
  case once =>
    intro id t rest ht hfire mid id' t' rest' ht' hg
    exact cleared_once hs ht hfire (run_follows _ mid) ht' hg

end Session

end OledPanel
