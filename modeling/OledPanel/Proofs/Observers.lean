import OledPanel.Observers

/-!
# Notifying observers

A notification reads the registry once and calls each callback of that snapshot once, in order,
with the mode, whatever the earlier ones did: an error or a crash is counted and the next callback
is called. Callbacks registered while it runs join the registry at once, after those that were
there, and are not called by it.

- `Answers`: the callbacks of a list called in turn, each in the registry and the world that the
  earlier ones left, and what they respond.
- `foldl_call`: the run lemma, from any point of a notification on.
- `notify_calls_snapshot`: a whole notification, over callbacks of any kind.
- `notify_eq`: the registry the service keeps, whose callbacks register nothing.
-/

namespace OledPanel

variable {α σ : Type}

/-- `Answers run mode cs reg w rs`: called in turn with `mode`, from registry `reg` and world `w`,
the callbacks `cs` respond `rs`, each in the registry and the world the ones before it left. -/
inductive Answers (run : α → String → Array α → σ → Response α σ) (mode : String) :
    List α → Array α → σ → List (Response α σ) → Prop where
  | nil (reg : Array α) (w : σ) : Answers run mode [] reg w []
  | cons {c : α} {cs : List α} {reg : Array α} {w : σ} {rs : List (Response α σ)} :
      Answers run mode cs (reg ++ (run c mode reg w).registers.toArray) (run c mode reg w).world rs →
      Answers run mode (c :: cs) reg w (run c mode reg w :: rs)

namespace Answers

variable {run : α → String → Array α → σ → Response α σ} {mode : String}

theorem length_eq {cs : List α} {reg : Array α} {w : σ} {rs : List (Response α σ)}
    (h : Answers run mode cs reg w rs) : rs.length = cs.length := by
  induction h with
  | nil => rfl
  | cons _ ih => simp [ih]

theorem unique {cs : List α} {reg : Array α} {w : σ} {rs rs' : List (Response α σ)}
    (h : Answers run mode cs reg w rs) (h' : Answers run mode cs reg w rs') : rs = rs' := by
  induction h generalizing rs' with
  | nil => cases h'; rfl
  | cons _ ih =>
    cases h' with
    | cons h' => rw [ih h']

end Answers

namespace Notifying

variable (run : α → String → Array α → σ → Response α σ) (mode : String)

/-- **Run lemma.** From any point of a notification on, the callbacks `cs`, numbered from `k`, are
called once each and in order: their calls are recorded, their failures counted, and what they
register appended to the registry. -/
theorem foldl_call (cs : List α) (k : Nat) (st : Notifying α σ) :
    ∃ rs, Answers run mode cs st.registry st.world rs ∧
      ((cs.zipIdx k).foldl (fun st p => st.call run mode p.1 p.2) st).calls =
        st.calls ++ (List.range' k cs.length).map (·, mode) ∧
      ((cs.zipIdx k).foldl (fun st p => st.call run mode p.1 p.2) st).failures =
        st.failures + (rs.filter (·.reaction.fails)).length ∧
      ((cs.zipIdx k).foldl (fun st p => st.call run mode p.1 p.2) st).registry =
        st.registry ++ (rs.flatMap (·.registers)).toArray := by
  induction cs generalizing k st with
  | nil => exact ⟨[], .nil _ _, by simp, by simp, by simp⟩
  | cons c cs ih =>
    -- the first callback is called in the notification as it stands; the rest from what it left
    obtain ⟨rs, hrs, hcalls, hfailures, hregistry⟩ := ih (k + 1) (st.call run mode c k)
    simp only [List.zipIdx_cons, List.foldl_cons]
    refine ⟨run c mode st.registry st.world :: rs, .cons hrs, ?_, ?_, ?_⟩
    · rw [hcalls, calls_call, List.length_cons, List.range'_succ]
      simp
    · rw [hfailures, failures_call]
      -- the first callback's failure, if any, is counted before the rest
      by_cases hf : (run c mode st.registry st.world).reaction.fails
      · simp [hf]
        omega
      · simp [hf]
    · rw [hregistry, registry_call, List.flatMap_cons, ← List.append_toArray, Array.append_assoc]

end Notifying

theorem calls_notifyWith (run : α → String → Array α → σ → Response α σ) (reg : Array α) (w : σ)
    (mode : String) : (notifyWith run reg w mode).calls = (List.range reg.size).map (·, mode) := by
  obtain ⟨-, -, hcalls, -, -⟩ := Notifying.foldl_call run mode reg.toList 0 ⟨reg, w, [], 0⟩
  rw [notifyWith, hcalls, List.range_eq_range', Array.length_toList]
  rfl

/-- **A notification** calls each callback the registry held when it began, once, in registration
order and with the mode, whatever the earlier ones did (`Answers`, one response each); it records
exactly those calls, so none to a callback registered during it, and counts the callbacks that
reported an error or crashed. The callbacks registered during it are kept, after the others. -/
theorem notify_calls_snapshot (run : α → String → Array α → σ → Response α σ) (reg : Array α) (w : σ)
    (mode : String) :
    ∃ rs, Answers run mode reg.toList reg w rs ∧ rs.length = reg.size ∧
      (notifyWith run reg w mode).calls = (List.range reg.size).map (·, mode) ∧
      (notifyWith run reg w mode).failures = (rs.filter (·.reaction.fails)).length ∧
      (notifyWith run reg w mode).registry = reg ++ (rs.flatMap (·.registers)).toArray ∧
      (notifyWith run reg w mode).registry.size = reg.size + (rs.flatMap (·.registers)).length := by
  obtain ⟨rs, hrs, -, hfailures, hregistry⟩ := Notifying.foldl_call run mode reg.toList 0 ⟨reg, w, [], 0⟩
  refine ⟨rs, hrs, hrs.length_eq.trans Array.length_toList, calls_notifyWith run reg w mode, ?_, hregistry, ?_⟩
  · rw [notifyWith, hfailures, Nat.zero_add]
  · rw [notifyWith, hregistry, Array.size_append, List.size_toArray]
    rfl

namespace Observers

theorem answers_respond (mode : String) (rs : List Reaction) (reg : Array Reaction) :
    Answers respond mode rs reg () (rs.map fun r => ⟨r, [], ()⟩) := by
  induction rs generalizing reg with
  | nil => exact .nil _ _
  | cons r rs ih => exact .cons (ih _)

/-- The registry the service keeps: every callback is called once, in order, and the failures are
the callbacks that refuse or crash. -/
theorem notify_eq (o : Observers) (mode : String) :
    o.notify mode = ((List.range o.length).map (·, mode), (o.reactions.toList.filter Reaction.fails).length) := by
  obtain ⟨rs, hrs, -, hfailures, -⟩ := Notifying.foldl_call respond mode o.reactions.toList 0 ⟨o.reactions, (), [], 0⟩
  have hrs : rs = o.reactions.toList.map fun r => ⟨r, [], ()⟩ := hrs.unique (answers_respond mode _ _)
  rw [notify, calls_notifyWith, notifyWith, hfailures, hrs, List.filter_map, List.length_map]
  simp [length, Function.comp_def]

/-- A callback that refuses and one that crashes are counted, and the last one is still called. -/
example : (((({} : Observers).register .accept).register (.refuse "screen not ready")).register
    (.crash "bad callback") |>.register .accept).notify "clock" =
    ([(0, "clock"), (1, "clock"), (2, "clock"), (3, "clock")], 2) := by decide

end Observers

end OledPanel
