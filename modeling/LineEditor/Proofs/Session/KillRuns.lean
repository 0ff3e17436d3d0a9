import LineEditor.Proofs.Session.Calls
import LineEditor.Terminal.Fault
import Mathlib.Data.List.Induction

/-!
# Runs of kills

The kill ring says nothing of its own about the past, yet it can be read off the calls of a run:
its entries are the texts of the runs of kills, in some order.  A run of kills is made of the kills
between two calls that leave the chain in another state than `Chain.killing`.

* What a call does to the ring.  `Editing.killed` is the text that a call has taken from around the
  cursor by a kill, and `Called.ring_cases` says what becomes of the ring and the chain.
* Runs.  `killRuns` are the runs of kills among the calls of a run, `lastingRun` is the one that the
  next kill may go on with.
* The result.  `RingHolds` is the invariant: the entries are the runs, and a run that lasts is in
  front.  `RingHolds.concat` is the step, and `ring_perm_killRuns` the result for all runs.
-/

namespace LineEditor

open SessionM

namespace Buffer

/-- The text around the cursor of `b` that is gone in `b'`. -/
def removed (b b' : Buffer) : Text :=
  b.before.drop b'.before.length ++ b.after.take (b.after.length - b'.after.length)

@[simp] theorem removed_self (b : Buffer) : b.removed b = [] := by
  simp [removed]

theorem Cuts.removed_eq {b b' : Buffer} {cut : Text} (h : b.Cuts cut b') :
    b.removed b' = cut := by
  obtain ⟨back, on, hback, hon, rfl⟩ := h
  have hlength : b.after.length - b'.after.length = on.length := by
    rw [hon, List.length_append]
    omega
  rw [removed, hlength, hback, hon, List.drop_left, List.take_left]

end Buffer

theorem Chain.after_eq_killing_iff {action : Action} :
    Chain.after action = .killing ↔ action.isKill = true := by
  cases action <;> decide

namespace Editing

/-! ## What a call does to the ring -/

/-- The text that a call has killed, given what is edited before and after it: what a kill has taken
from around the cursor. -/
def killed (e : Editing) (call : Call) (e' : Editing) : Text :=
  match call.action? e.keyboard with
  | some (action, _) => if action.isKill then e.buffer.removed e'.buffer else []
  | none => []

theorem killed_eq {e e' : Editing} {call : Call} {action : Action} {times : Nat}
    (h : call.action? e.keyboard = some (action, times)) :
    e.killed call e' = if action.isKill then e.buffer.removed e'.buffer else [] := by
  rw [killed, h]

theorem killed_eq_nil_of_none {e e' : Editing} {call : Call}
    (h : call.action? e.keyboard = none) : e.killed call e' = [] := by
  rw [killed, h]

theorem killed_eq_nil_of_buffer_eq {e e' : Editing} (call : Call) (h : e'.buffer = e.buffer) :
    e.killed call e' = [] := by
  unfold killed
  rw [h, Buffer.removed_self]
  split
  · exact ite_self _
  · rfl

theorem received_ring (e : Editing) (call : Call) : (e.received call).ring = e.ring := by
  cases call <;> rfl

theorem received_chain (e : Editing) {call : Call} (h : call ≠ .reset) :
    (e.received call).chain = e.chain := by
  cases call with
  | reset => exact absurd rfl h
  | _ => rfl

/-- An action that is done changes the ring by a kill or else in its order at most. -/
theorem Does.ring_perm {e e' : Editing} {times : Nat} {action : Action}
    (h : Does e times action e') (haction : action.isKill = false) :
    e'.ring.entries.Perm e.ring.entries := by
  cases h with
  | moved _ _ _ => exact .refl _
  | erased _ _ _ => exact .refl _
  | killed hkill _ _ => exact absurd hkill (by simp [haction])
  | yanked _ => exact .refl _
  | popped _ hrotate _ _ _ _ =>
    have hperm := e.ring.rotate_perm
    rwa [hrotate] at hperm
  | inserted _ => exact .refl _

/-- A kill takes text from around the cursor and moves it to the ring. -/
theorem Does.kills {e e' : Editing} {times : Nat} {action : Action}
    (h : Does e times action e') (haction : action.isKill = true) :
    ∃ cut, cut ≠ [] ∧ e.buffer.Cuts cut e'.buffer ∧ e' = e.kill cut e'.buffer := by
  cases h with
  | @killed _ b cut _ hcuts hcut => exact ⟨cut, hcut, hcuts, rfl⟩
  | moved hmem _ _ =>
    simp only [List.mem_cons, List.not_mem_nil, or_false] at hmem
    rcases hmem with rfl | rfl | rfl | rfl <;> exact absurd haction nofun
  | erased hmem _ _ =>
    simp only [List.mem_cons, List.not_mem_nil, or_false] at hmem
    rcases hmem with rfl | rfl <;> exact absurd haction nofun
  | yanked _ => exact absurd haction nofun
  | popped _ _ _ _ _ _ => exact absurd haction nofun
  | inserted _ => exact absurd haction nofun

/-- A kill moves what it has taken to the ring.  Any other call either leaves the ring and the chain
as they are, or changes the order of the ring at most and leaves the chain in another state than
that of a run of kills. -/
theorem Called.ring_cases {e e' : Editing} {call : Call} {r : Except SessionError Answer}
    (h : Called e call r e') :
    (e.killed call e' ≠ [] ∧ Gives (.outcome .handled) r ∧
        e.buffer.Cuts (e.killed call e') e'.buffer ∧ e'.chain = .killing ∧
        e'.ring = (e.kill (e.killed call e') e'.buffer).ring) ∨
      (e.killed call e' = [] ∧ e'.ring = e.ring ∧ e'.chain = e.chain) ∨
      (e.killed call e' = [] ∧ e'.ring.entries.Perm e.ring.entries ∧ e'.chain ≠ .killing) := by
  cases h with
  | received haction _ _ =>
    have hnil : e.killed call (e.received call) = [] := killed_eq_nil_of_none haction
    by_cases hreset : call = .reset
    · subst hreset
      exact .inr (.inr ⟨hnil, .refl _, nofun⟩)
    · exact .inr (.inl ⟨hnil, e.received_ring call, e.received_chain hreset⟩)
  | @refused action times _ haction _ _ =>
    have hagrees := (received_agrees_of_action? haction).trans (refused_agrees _ action)
    exact .inr (.inl ⟨killed_eq_nil_of_buffer_eq call hagrees.buffer, hagrees.ring, hagrees.chain⟩)
  | aborted haction _ =>
    refine .inr (.inr ⟨?_, ?_, nofun⟩)
    · rw [killed_eq haction]
      rfl
    · show (e.received call).ring.entries.Perm _
      rw [e.received_ring call]
  | @done action times _ e₁ haction hdoes hr =>
    have hagrees := received_agrees_of_action? haction
    cases hkill : action.isKill with
    | false =>
      refine .inr (.inr ⟨?_, ?_, ?_⟩)
      · rw [killed_eq haction, hkill]
        rfl
      · rw [← hagrees.ring]
        exact hdoes.ring_perm hkill
      · intro hchain
        rw [Chain.after_eq_killing_iff.1 hchain] at hkill
        exact absurd hkill nofun
    | true =>
      obtain ⟨cut, hcut, hcuts, heq⟩ := hdoes.kills hkill
      rw [hagrees.buffer] at hcuts
      have hkilled : e.killed call (e₁.record action) = cut := by
        rw [killed_eq haction, hkill]
        exact hcuts.removed_eq
      rw [hkilled]
      refine .inl ⟨hcut, hr, hcuts, Chain.after_eq_killing_iff.2 hkill, ?_⟩
      have hring : e₁.ring = ((e.received call).kill cut e₁.buffer).ring := congrArg Editing.ring heq
      rw [kill, hagrees.chain, hagrees.ring] at hring
      exact hring

/-- The actions that leave what is edited alone are never done to it. -/
theorem Does.notMem {e e' : Editing} {times : Nat} {action : Action} (h : Does e times action e') :
    action ∉ [.acceptInput, .endInput, .clearScreen] := by
  cases h with
  | moved hmem _ _ =>
    simp only [List.mem_cons, List.not_mem_nil, or_false] at hmem
    rcases hmem with rfl | rfl | rfl | rfl <;> decide
  | erased hmem _ _ =>
    simp only [List.mem_cons, List.not_mem_nil, or_false] at hmem
    rcases hmem with rfl | rfl <;> decide
  | killed hkill _ _ =>
    intro hmem
    simp only [List.mem_cons, List.not_mem_nil, or_false] at hmem
    rcases hmem with rfl | rfl | rfl <;> exact absurd hkill nofun
  | yanked _ => decide
  | popped _ _ _ _ _ _ => decide
  | inserted _ => decide

/-- The call leaves a run of kills as it is: it is answered otherwise than as done, or it has no
action and gives up no input, or its action ends the input or clears the screen. -/
def IsAside (e : Editing) (call : Call) (r : Except SessionError Answer) : Prop :=
  (∃ outcome, r = .ok (.outcome outcome) ∧ outcome ≠ .handled) ∨
    (call.action? e.keyboard = none ∧ call ≠ .reset) ∨
    ∃ action times, call.action? e.keyboard = some (action, times) ∧
      action ∈ [.acceptInput, .endInput, .clearScreen]

/-- An action that was answered as done only leaves a run of kills as it is if it has nothing to do
with what is edited. -/
theorem IsAside.mem_of_gives {e : Editing} {call : Call} {r : Except SessionError Answer}
    (h : e.IsAside call r) {action : Action} {times : Nat}
    (haction : call.action? e.keyboard = some (action, times)) (hr : Gives (.outcome .handled) r) :
    action ∈ [.acceptInput, .endInput, .clearScreen] := by
  rcases h with ⟨outcome, houtcome, hne⟩ | ⟨hnone, -⟩ | ⟨action', times', hsome, hmem⟩
  · rcases hr with hok | ⟨error, herror⟩
    · rw [hok] at houtcome
      exact absurd (Answer.outcome.inj (Except.ok.inj houtcome)).symm hne
    · rw [herror] at houtcome
      exact absurd houtcome nofun
  · rw [haction] at hnone
    exact absurd hnone nofun
  · rw [haction] at hsome
    cases hsome
    exact hmem

/-- Such a call takes in its key or text at most. -/
theorem Called.received_agrees_of_isAside {e e' : Editing} {call : Call}
    {r : Except SessionError Answer} (h : Called e call r e') (haside : e.IsAside call r) :
    call ≠ .reset ∧ (e.received call).Agrees e' := by
  cases h with
  | received haction hinput _ =>
    refine ⟨?_, .refl _⟩
    rcases haside with ⟨outcome, houtcome, -⟩ | ⟨-, hreset⟩ | ⟨action, times, hsome, -⟩
    · rintro rfl
      exact absurd (hinput outcome houtcome) nofun
    · exact hreset
    · rw [haction] at hsome
      exact absurd hsome nofun
  | refused haction _ _ =>
    refine ⟨?_, refused_agrees _ _⟩
    rintro rfl
    exact absurd haction nofun
  | aborted haction hr => exact absurd (haside.mem_of_gives haction hr) (by decide)
  | done haction hdoes hr => exact absurd (haside.mem_of_gives haction hr) hdoes.notMem

theorem Called.chain_eq {e e' : Editing} {call : Call} {r : Except SessionError Answer}
    (h : Called e call r e') (haside : e.IsAside call r) : e'.chain = e.chain := by
  obtain ⟨hreset, hagrees⟩ := h.received_agrees_of_isAside haside
  exact hagrees.chain.trans (e.received_chain hreset)

end Editing

namespace Session

/-! ## Runs -/

/-- The text that the call has killed. -/
def Step.killed (step : Step) : Text :=
  step.before.editing.killed step.call step.after.editing

/-- Whether the call ends a run of kills: the next kill makes a new entry. -/
def Step.endsRun (step : Step) : Bool :=
  step.after.editing.chain ≠ .killing

/-- The texts that calls in a row have killed, the first one first. -/
def kills (steps : List Step) : List Text :=
  (steps.map Step.killed).filter (· ≠ [])

/-- The kills of each stretch between two calls that end a run. -/
def killStretches (steps : List Step) : List (List Text) :=
  (steps.splitOnP Step.endsRun).map kills

/-- The runs of kills, the first one first. -/
def killRuns (steps : List Step) : List (List Text) :=
  (killStretches steps).filter (· ≠ [])

/-- The run of kills that has not been ended, if there is one. -/
def lastingRun (steps : List Step) : List Text :=
  (killStretches steps).getLastD []

/-- One more element that is no end of a stretch makes the last stretch longer. -/
theorem exists_splitOnP_concat {α : Type} (p : α → Bool) (xs : List α) :
    ∃ ended last, xs.splitOnP p = ended ++ [last] ∧
      ∀ x, p x = false → (xs ++ [x]).splitOnP p = ended ++ [last ++ [x]] := by
  induction xs with
  | nil =>
    refine ⟨[], [], List.splitOnP_nil, fun x hx => ?_⟩
    rw [List.nil_append, List.splitOnP_eq_singleton (by simpa using hx)]
    rfl
  | cons y xs ih =>
    obtain ⟨ended, last, hsplit, hconcat⟩ := ih
    have hcons : ∀ rest, (y :: rest).splitOnP p = if p y = true then [] :: rest.splitOnP p
        else (rest.splitOnP p).modifyHead (y :: ·) := List.splitOnP_cons_eq_if_modifyHead y
    by_cases hy : p y = true
    · refine ⟨[] :: ended, last, ?_, fun x hx => ?_⟩
      · rw [hcons, if_pos hy, hsplit]
        rfl
      · rw [List.cons_append, hcons, if_pos hy, hconcat x hx]
        rfl
    · cases ended with
      | nil =>
        refine ⟨[], y :: last, ?_, fun x hx => ?_⟩
        · rw [hcons, if_neg hy, hsplit]
          rfl
        · rw [List.cons_append, hcons, if_neg hy, hconcat x hx]
          rfl
      | cons first ended =>
        refine ⟨(y :: first) :: ended, last, ?_, fun x hx => ?_⟩
        · rw [hcons, if_neg hy, hsplit]
          rfl
        · rw [List.cons_append, hcons, if_neg hy, hconcat x hx]
          rfl

theorem kills_append (steps later : List Step) :
    kills (steps ++ later) = kills steps ++ kills later := by
  rw [kills, List.map_append, List.filter_append]
  rfl

theorem kills_singleton (step : Step) :
    kills [step] = if step.killed = [] then [] else [step.killed] := by
  by_cases h : step.killed = [] <;> simp [kills, h]

/-- A call that ends a run begins a new stretch, any other call adds to the last one. -/
theorem killStretches_concat (steps : List Step) :
    ∃ ended last, killStretches steps = ended ++ [last] ∧
      ∀ step : Step, killStretches (steps ++ [step]) =
        if step.endsRun then ended ++ [last, []] else ended ++ [last ++ kills [step]] := by
  obtain ⟨ended, last, hsplit, hconcat⟩ := exists_splitOnP_concat Step.endsRun steps
  refine ⟨ended.map kills, kills last, ?_, fun step => ?_⟩
  · rw [killStretches, hsplit, List.map_append]
    rfl
  · cases hends : step.endsRun with
    | true =>
      rw [killStretches, List.splitOnP_append_cons steps [] hends, hsplit, List.splitOnP_nil,
        List.append_assoc, List.map_append]
      rfl
    | false =>
      rw [killStretches, hconcat step hends, List.map_append, List.map_singleton, kills_append]
      rfl

/-- A call that ends a run leaves all runs as they are, and any other call adds its kill to the run
that lasts. -/
theorem exists_killRuns_concat (steps : List Step) :
    ∃ ended, killRuns steps = ended ++ [lastingRun steps].filter (· ≠ []) ∧
      ∀ step : Step,
        (step.endsRun = true → killRuns (steps ++ [step]) = killRuns steps ∧
          lastingRun (steps ++ [step]) = []) ∧
        (step.endsRun = false →
          killRuns (steps ++ [step]) =
            ended ++ [lastingRun steps ++ kills [step]].filter (· ≠ []) ∧
          lastingRun (steps ++ [step]) = lastingRun steps ++ kills [step]) := by
  obtain ⟨ended, last, hstretches, hconcat⟩ := killStretches_concat steps
  have hlast : lastingRun steps = last := by
    rw [lastingRun, hstretches, List.getLastD_concat]
  refine ⟨ended.filter (· ≠ []), ?_, fun step => ⟨fun hends => ?_, fun hends => ?_⟩⟩
  · rw [killRuns, hstretches, List.filter_append, hlast]
  · have hnew := hconcat step
    rw [if_pos hends] at hnew
    refine ⟨?_, ?_⟩
    · rw [killRuns, killRuns, hnew, hstretches, List.filter_append, List.filter_append]
      simp [List.filter_cons]
    · rw [lastingRun, hnew, List.append_cons, List.getLastD_concat]
  · have hnew := hconcat step
    rw [if_neg (by simp [hends])] at hnew
    refine ⟨?_, ?_⟩
    · rw [killRuns, hnew, List.filter_append, hlast]
    · rw [lastingRun, hnew, List.getLastD_concat, hlast]

/-! ## The result -/

/-- The entries of the ring are the texts of the runs, in some order.  The chain is that of a run of
kills exactly while a run lasts, and then the text of that run is in front. -/
structure RingHolds (steps : List Step) (e : Editing) : Prop where
  perm : e.ring.entries.Perm ((killRuns steps).map List.flatten)
  chain : e.chain = .killing ↔ lastingRun steps ≠ []
  front : lastingRun steps ≠ [] → e.ring.entries.head? = some (lastingRun steps).flatten

/-- A call that kills nothing and ends the run may change the order of the ring. -/
theorem RingHolds.concat_of_ends {steps : List Step} {step : Step}
    (h : RingHolds steps step.before.editing)
    (hperm : step.after.editing.ring.entries.Perm step.before.editing.ring.entries)
    (hchain : step.after.editing.chain ≠ .killing) :
    RingHolds (steps ++ [step]) step.after.editing := by
  obtain ⟨ended, -, hconcat⟩ := exists_killRuns_concat steps
  obtain ⟨hruns, hlast⟩ := (hconcat step).1 (decide_eq_true hchain)
  refine ⟨?_, ?_, ?_⟩
  · rw [hruns]
    exact hperm.trans h.perm
  · rw [hlast]
    exact ⟨fun hkilling => absurd hkilling hchain, fun hne => absurd rfl hne⟩
  · rw [hlast]
    exact fun hne => absurd rfl hne

/-- A call that kills nothing and leaves ring and chain alone goes on with the run, if one lasts. -/
theorem RingHolds.concat_of_eq {steps : List Step} {step : Step}
    (h : RingHolds steps step.before.editing) (hkilled : step.killed = [])
    (hring : step.after.editing.ring = step.before.editing.ring)
    (hchain : step.after.editing.chain = step.before.editing.chain) :
    RingHolds (steps ++ [step]) step.after.editing := by
  by_cases hkilling : step.after.editing.chain = .killing
  · obtain ⟨ended, hended, hconcat⟩ := exists_killRuns_concat steps
    obtain ⟨hruns, hlast⟩ := (hconcat step).2 (decide_eq_false (not_not.2 hkilling))
    rw [kills_singleton, if_pos hkilled, List.append_nil] at hruns hlast
    rw [← hended] at hruns
    refine ⟨?_, ?_, ?_⟩
    · rw [hruns, hring]
      exact h.perm
    · rw [hlast, hchain]
      exact h.chain
    · rw [hlast, hring]
      exact h.front
  · refine h.concat_of_ends ?_ hkilling
    rw [hring]

/-- A kill makes the entry in front longer while a run lasts, and begins a run with a new entry
otherwise. -/
theorem RingHolds.concat_of_kill {steps : List Step} {step : Step}
    (h : RingHolds steps step.before.editing) (hkilled : step.killed ≠ [])
    (hchain : step.after.editing.chain = .killing)
    (hring : step.after.editing.ring =
      (step.before.editing.kill step.killed step.after.editing.buffer).ring) :
    RingHolds (steps ++ [step]) step.after.editing := by
  obtain ⟨ended, hended, hconcat⟩ := exists_killRuns_concat steps
  obtain ⟨hruns, hlast⟩ := (hconcat step).2 (decide_eq_false (not_not.2 hchain))
  rw [kills_singleton, if_neg hkilled] at hruns hlast
  have hne : lastingRun steps ++ [step.killed] ≠ [] := by simp
  have hmap : (killRuns (steps ++ [step])).map List.flatten =
      ended.map List.flatten ++ [(lastingRun steps).flatten ++ step.killed] := by
    rw [hruns, List.filter_cons_of_pos (by simp), List.filter_nil, List.map_append,
      List.map_singleton, List.flatten_append, List.flatten_singleton]
  -- the entries besides that of the run are those of the runs that were ended
  obtain ⟨rest, hentries, hrest⟩ : ∃ rest,
      step.after.editing.ring.entries = ((lastingRun steps).flatten ++ step.killed) :: rest ∧
        rest.Perm (ended.map List.flatten) := by
    have hperm := h.perm
    by_cases hkilling : step.before.editing.chain = .killing
    · have hlasts := h.chain.1 hkilling
      obtain ⟨rest, hrest⟩ := List.head?_eq_some_iff.1 (h.front hlasts)
      rw [hended, List.filter_cons_of_pos (by simpa using hlasts), List.filter_nil, hrest,
        List.map_append] at hperm
      refine ⟨rest, ?_, (List.perm_cons _).1 (hperm.trans (List.perm_append_singleton _ _))⟩
      rw [hring, Editing.kill, if_pos hkilling, KillRing.append, hrest]
    · have hnone : lastingRun steps = [] := not_not.1 fun hlasts => hkilling (h.chain.2 hlasts)
      rw [hended, hnone, List.filter_cons_of_neg (by simp), List.filter_nil,
        List.append_nil] at hperm
      refine ⟨step.before.editing.ring.entries, ?_, hperm⟩
      rw [hring, Editing.kill, if_neg hkilling, KillRing.push, if_neg (by simpa using hkilled), hnone]
      rfl
  refine ⟨?_, ?_, ?_⟩
  · rw [hmap, hentries]
    exact (hrest.cons _).trans (List.perm_append_singleton _ _).symm
  · rw [hlast]
    exact ⟨fun _ => hne, fun _ => hchain⟩
  · rw [hlast, hentries]
    simp

/-- One more call keeps the ring in step with the runs. -/
theorem RingHolds.concat {steps : List Step} {step : Step}
    (h : RingHolds steps step.before.editing) : RingHolds (steps ++ [step]) step.after.editing := by
  rcases step.called.ring_cases with ⟨hkilled, -, -, hchain, hring⟩ | ⟨hkilled, hring, hchain⟩ |
    ⟨-, hperm, hchain⟩
  · exact h.concat_of_kill hkilled hchain hring
  · exact h.concat_of_eq hkilled hring hchain
  · exact h.concat_of_ends hperm hchain

theorem ringHolds_steps (config : Config) (calls : List (Terminal × Call)) :
    RingHolds ((ofConfig config).steps calls) ((ofConfig config).afterAll calls).editing := by
  induction calls using List.reverseRecOn with
  | nil =>
    refine ⟨.refl _, ?_, fun hne => absurd rfl hne⟩
    exact ⟨nofun, fun hne => absurd rfl hne⟩
  | append_singleton calls call ih =>
    rw [steps_append, afterAll_append]
    exact ih.concat

/-- After any run of calls, however the terminals behave, the entries of the kill ring are the texts
of the runs of kills, each the texts that were killed one after the other; and while a run of kills
lasts, its text is in front.  A text that was killed is what stood around the cursor and is gone,
and its call was answered as done unless the terminal failed.  Calls that are turned down, that only
show the input, or that take in a digit or a part of a paste do not end a run. -/
theorem ring_perm_killRuns (config : Config) (calls : List (Terminal × Call)) :
    let ring := ((ofConfig config).afterAll calls).editing.ring
    let steps := (ofConfig config).steps calls
    ring.entries.Perm ((killRuns steps).map List.flatten) ∧
      (lastingRun steps ≠ [] → ring.entries.head? = some (lastingRun steps).flatten) ∧
      (∀ step ∈ steps, step.killed ≠ [] →
        step.before.editing.buffer.Cuts step.killed step.after.editing.buffer ∧
          Gives (.outcome .handled) step.result ∧ step.endsRun = false) ∧
      ∀ step ∈ steps, step.before.editing.IsAside step.call step.result →
        step.after.editing.chain = step.before.editing.chain := by
  intro ring steps
  have hholds := ringHolds_steps config calls
  refine ⟨hholds.perm, hholds.front, fun step _ hkilled => ?_, fun step _ haside => ?_⟩
  · rcases step.called.ring_cases with ⟨-, hr, hcuts, hchain, -⟩ | ⟨hnil, -, -⟩ | ⟨hnil, -, -⟩
    · exact ⟨hcuts, hr, decide_eq_false (not_not.2 hchain)⟩
    · exact absurd hnil hkilled
    · exact absurd hnil hkilled
  · exact step.called.chain_eq haside

-- Neither a kill that cannot be drawn nor one that finds no text ends a run.
example :
    let terminal := Faults.terminal {} 40
    let failing := Faults.terminal { noWrite := true } 40
    let calls : List (Terminal × Call) :=
      [(terminal, .text "one two three".toList false), (failing, .action .killPreviousWord 1),
       (terminal, .action .killToLineEnd 1), (terminal, .action .killPreviousWord 1)]
    killRuns ((ofConfig {}).steps calls) = [["three".toList, "two ".toList]] ∧
      ((ofConfig {}).afterAll calls).editing.ring.entries = ["threetwo ".toList] := by
  decide +kernel

end Session

end LineEditor
