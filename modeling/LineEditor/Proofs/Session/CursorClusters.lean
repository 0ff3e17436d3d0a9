import LineEditor.Proofs.Layout.Clusters
import LineEditor.Proofs.Motion
import LineEditor.Proofs.Session.Atomicity
import LineEditor.Proofs.Session.Outcomes
import LineEditor.Terminal.Fault

/-!
# The cursor between clusters

A motion takes the cursor to a place between two clusters, but the clusters can change around it:
text that comes to stand before the cursor may be joined by the text after it.  The cursor is then
inside a cluster until it is moved back, or until the text is changed again.

* Motions.  `apply_motion_isParted` says that motions leave the cursor between clusters.
* Other actions.  `Does.isParted` says that they do, too, unless they change the text.
* Calls.  `Step.LeavesParted` says which calls of a run cannot bring the cursor into a cluster, and
  `Step.LeavesParted.isParted_after` proves it of them.
* The result.  `cursor_between_clusters` says for all reachable sessions when the cursor is between
  clusters, what keeps it there, and what brings it back.
-/

namespace LineEditor

open SessionM

/-- Whether the action only moves the cursor. -/
def Action.isMotion : Action → Bool
  | .cursorLeft | .cursorRight => true
  | action => action.isVertical

/-- An insertion that leaves the text as it is leaves the buffer as it is. -/
theorem Buffer.insert_eq_self {b : Buffer} {text : Text} (h : (b.insert text).text = b.text) :
    b.insert text = b := by
  rw [eq_nil_of_text_insert h, insert_eq List.not_mem_nil, List.append_nil]

/-! ## Motions -/

namespace SessionM

variable {action : Action} {times : Nat} {terminal : Terminal} {s : Session}

/-- A motion up or down leaves the buffer alone, or puts the cursor where the layout says. -/
theorem moveVertically_buffer (amount : Int) (terminal : Terminal) (s : Session) :
    Ends (moveVertically amount) terminal s fun _ s' =>
      s'.editing.buffer = s.editing.buffer ∨
        ∃ prompts width p,
          verticalTarget (layout s.editing.buffer.lines s.editing.buffer.cursor prompts width)
              amount = some p ∧
            s.editing.buffer.place p = .ok s'.editing.buffer := by
  refine (screen_ends terminal s).bind (fun rows s₁ hs => ?_) (fun e s₁ hs => ?_)
  · obtain ⟨hsame, -, hrows⟩ := hs
    obtain rfl := hrows rows rfl
    have hrows : s₁.rows = layout s.editing.buffer.lines s.editing.buffer.cursor s₁.prompts
        s₁.width := by
      rw [Session.rows, hsame.editing]
    cases htarget : verticalTarget s₁.rows amount with
    | none => exact .of_eq rfl (.inl (congrArg Editing.buffer hsame.editing))
    | some p =>
      rw [hrows] at htarget
      cases hplace : s₁.editing.buffer.place p with
      | ok b =>
        have hchange : (do
            let buffer ← s₁.editing.buffer.place p
            pure (true, { s₁.editing with buffer }) : Except Misuse (Bool × Editing)) =
              .ok (true, { s₁.editing with buffer := b }) := by
          rw [hplace]
          rfl
        refine .of_eq (edit_apply hchange) (.inr ⟨_, _, p, htarget, ?_⟩)
        rw [← hsame.editing]
        exact hplace
      | error misuse =>
        have hrun : (edit fun e => do
            let buffer ← e.buffer.place p
            pure (true, { e with buffer })) terminal s₁ = (.error (.misuse misuse), s₁) := by
          unfold edit
          rw [bind_apply, get_apply]
          dsimp only
          rw [hplace]
          rfl
        exact .of_eq hrun (.inl (congrArg Editing.buffer hsame.editing))
  · exact .inl (congrArg Editing.buffer hs.1.editing)

/-- A motion up or down over text without escape sequences leaves the cursor between clusters. -/
theorem moveVertically_isParted (amount : Int) (terminal : Terminal)
    (hclean : '\r' ∉ s.editing.buffer.text) (hescape : escapeChar ∉ s.editing.buffer.text)
    (hparted : s.editing.buffer.IsParted) :
    Ends (moveVertically amount) terminal s fun _ s' => s'.editing.buffer.IsParted := by
  refine (moveVertically_buffer amount terminal s).mono fun r s' hs => ?_
  rcases hs with heq | ⟨prompts, width, p, htarget, hplace⟩
  · rw [heq]
    exact hparted
  · have hlines : ∀ line ∈ s.editing.buffer.lines, escapeChar ∉ line :=
      fun line hline hmem => hescape (Text.mem_of_mem_lines hline hmem)
    have hp := verticalTarget_betweenClusters s.editing.buffer.cursor_inLines hlines htarget
    exact Buffer.isParted_of_place hclean hp hplace

/-- A motion leaves the cursor between clusters, up or down if there are no escape sequences. -/
theorem apply_motion_isParted (hmotion : action.isMotion = true)
    (hclean : '\r' ∉ s.editing.buffer.text)
    (hescape : action.isVertical = true → escapeChar ∉ s.editing.buffer.text)
    (hparted : s.editing.buffer.IsParted) (times : Nat) (terminal : Terminal) :
    Ends (apply action times) terminal s fun _ s' => s'.editing.buffer.IsParted := by
  have hvertical (amount : Int) (hescape : escapeChar ∉ s.editing.buffer.text) :
      Ends (do
        let moved ← moveVertically amount
        pure (outcomeOf moved, true)) terminal s fun _ s' => s'.editing.buffer.IsParted := by
    refine (moveVertically_isParted amount terminal hclean hescape hparted).bind
      (fun moved s' hs => .of_eq rfl hs) (fun e s' hs => hs)
  cases action with
  | cursorLeft =>
    have hmoved : (s.editing.buffer.moveLeft times true).2.IsParted := by
      by_cases hzero : (s.editing.buffer.moveLeft times true).1 = 0
      · rw [Buffer.moveLeft_eq_self hzero]
        exact hparted
      · exact Buffer.isParted_moveLeft hzero
    exact .of_eq rfl hmoved
  | cursorRight => exact .of_eq rfl (hparted.moveRight times)
  | cursorUp => exact hvertical _ (hescape rfl)
  | cursorDown => exact hvertical _ (hescape rfl)
  | _ => simp [Action.isMotion, Action.isVertical] at hmotion

end SessionM

/-! ## Other actions -/

namespace Editing

variable {e e' : Editing} {action : Action} {times : Nat}

/-- An action other than a motion that leaves the text as it is leaves the cursor between clusters.
An exchange of yanked text may have put the same text in its place. -/
theorem Does.isParted (h : Does e times action e') (hmotion : action.isMotion = false)
    (hsound : e.Sound) (htext : e'.buffer.text = e.buffer.text) (hparted : e.buffer.IsParted) :
    e'.buffer.IsParted := by
  have hcuts : ∀ {cut : Text} {b : Buffer}, e.buffer.Cuts cut b → cut ≠ [] →
      b.text = e.buffer.text → b.IsParted := by
    intro cut b hcuts hne heq
    have hlength := congrArg List.length (heq.trans hcuts.text_eq)
    have hpos := List.length_pos_iff.2 hne
    rw [Buffer.text] at hlength
    simp only [List.length_append] at hlength
    omega
  cases h with
  | moved haction _ _ =>
    simp only [List.mem_cons, List.not_mem_nil, or_false] at haction
    rcases haction with rfl | rfl | rfl | rfl <;> simp [Action.isMotion, Action.isVertical] at hmotion
  | erased _ hcut hne => exact hcuts hcut hne htext
  | killed _ hcut hne => exact hcuts hcut hne htext
  | yanked _ =>
    show (e.buffer.insert e.ring.front).IsParted
    rw [Buffer.insert_eq_self htext]
    exact hparted
  | inserted _ =>
    show (e.buffer.insert (e.staged.times times)).IsParted
    rw [Buffer.insert_eq_self htext]
    exact hparted
  | @popped text left cut right ring _ hrotate _ hparts hleft hcut =>
    -- the new text is the old one, which ends at the later end of the yank
    have hclean : '\r' ∉ text := by
      have hnext := hsound.return_notMem_rotate
      rwa [hrotate] at hnext
    have hbuffer : Buffer.insert { before := left, after := right } text =
        { before := left ++ text, after := right } := Buffer.insert_eq hclean _
    have hsame : text = cut := by
      have heq : (Buffer.insert { before := left, after := right } text).text = e.buffer.text :=
        htext
      rw [hbuffer, hparts] at heq
      simpa [Buffer.text] using heq
    have hbetween : (Position.endOf (left ++ cut)).BetweenClusters e.buffer.lines := by
      rw [hcut]
      show Position.BetweenClusters (if _ then _ else _) _
      split
      · exact e.buffer.clamp_betweenClusters _
      · exact e.buffer.clamp_betweenClusters _
    have hleftClean : '\r' ∉ left ++ cut := fun hmem => hsound.text (by
      rw [hparts]
      exact List.mem_append_left _ hmem)
    show (Buffer.insert { before := left, after := right } text).IsParted
    rw [hbuffer, hsame]
    rw [Buffer.lines, hparts] at hbetween
    exact (betweenClusters_endOf_iff hleftClean right).1 hbetween

end Editing

/-! ## Calls -/

namespace Session

open Editing

variable {s : Session} {terminal : Terminal} {call : Call} {action : Action} {times : Nat}

theorem isParted_received (h : s.editing.buffer.IsParted) (call : Call) :
    (s.editing.received call).buffer.IsParted := by
  cases call with
  | setText text => exact Buffer.isParted_of_after_eq_nil rfl
  | reset => exact Buffer.isParted_of_after_eq_nil rfl
  | _ => exact h

theorem isParted_after_motion (haction : call.action? s.editing.keyboard = some (action, times))
    (hmotion : action.isMotion = true) (hsound : s.Sound)
    (hescape : action.isVertical = true → escapeChar ∉ s.text) (h : s.editing.buffer.IsParted) :
    (s.after terminal call).editing.buffer.IsParted := by
  have hreceived : (s.editing.received call).buffer = s.editing.buffer :=
    (received_agrees_of_action? haction).buffer
  rcases happly : apply action times terminal (s.receive call) with ⟨e | answer, s₁⟩
  · rw [(after_editing_of_apply_error haction happly).2]
    exact isParted_received h call
  · have hremember : (s₁.editing.remember action answer).buffer = s₁.editing.buffer := by
      unfold Editing.remember
      split <;> rfl
    rw [after_editing_of_apply haction happly, hremember]
    have hends := apply_motion_isParted (s := s.receive call) hmotion
      (hreceived ▸ hsound.editing.text) (fun hvertical => hreceived ▸ hescape hvertical)
      (isParted_received h call) times terminal
    unfold Ends at hends
    rwa [happly] at hends

/-- Whether the call is one that leaves the cursor between clusters: it changes the text only so
that it parts at the cursor, and it moves the cursor up or down only over text without escape
sequences. -/
structure Step.LeavesParted (step : Step) : Prop where
  change : step.after.text ≠ step.before.text → step.after.editing.buffer.IsParted
  escape : ∀ action times, step.action? = some (action, times) → action.isVertical = true →
    escapeChar ∉ step.before.text

theorem Step.LeavesParted.isParted_after {step : Step} (hleaves : step.LeavesParted)
    (hsound : step.before.Sound) (h : step.before.editing.buffer.IsParted) :
    step.after.editing.buffer.IsParted := by
  by_cases htext : step.after.text = step.before.text
  · have hcalled := step.called
    have hafter : step.after = step.before.after step.terminal step.call := rfl
    generalize hediting : step.after.editing = e' at hcalled ⊢
    have htext' : e'.buffer.text = step.before.editing.buffer.text := by
      rw [← hediting]
      exact htext
    cases hcalled with
    | received _ _ _ => exact isParted_received h step.call
    | refused _ _ _ =>
      rw [(refused_agrees _ _).buffer]
      exact isParted_received h step.call
    | aborted _ _ => exact Buffer.isParted_of_after_eq_nil rfl
    | @done action times _ e₁ haction hdoes _ =>
      cases hmotion : action.isMotion with
      | true =>
        rw [← hediting, hafter]
        exact isParted_after_motion haction hmotion hsound (hleaves.escape action times haction) h
      | false =>
        have hreceived := (received_agrees_of_action? haction).buffer
        refine hdoes.isParted hmotion (hsound.editing.received step.call) ?_
          (isParted_received h step.call)
        rw [hreceived]
        exact htext'
  · exact hleaves.change htext

/-- Calls of this kind leave the cursor between clusters. -/
theorem isParted_afterAll (hsound : s.Sound) (h : s.editing.buffer.IsParted)
    (calls : List (Terminal × Call)) (hcalls : ∀ step ∈ s.steps calls, step.LeavesParted) :
    (s.afterAll calls).editing.buffer.IsParted := by
  induction calls generalizing s with
  | nil => exact h
  | cons call calls ih =>
    obtain ⟨terminal, call⟩ := call
    have hfirst := hcalls { before := s, terminal, call } List.mem_cons_self
    refine ih (call.run_sound terminal hsound).1 (hfirst.isParted_after hsound h) ?_
    exact fun step hstep => hcalls step (List.mem_cons_of_mem _ hstep)

/-- A motion back that is handled brings the cursor between clusters. -/
theorem isParted_after_cursorLeft
    (haction : call.action? s.editing.keyboard = some (.cursorLeft, times))
    (hr : (call.run terminal s).1 = .ok (.outcome .handled)) :
    (s.after terminal call).editing.buffer.IsParted := by
  obtain ⟨e₁, hact, hafter⟩ := (Call.performed_of_ok haction hr).exists_act_eq rfl
  have hchange := Except.ok.inj hact
  have hmoved : ((s.editing.received call).buffer.moveLeft times true).1 ≠ 0 := by
    have hanswer := congrArg Prod.fst hchange
    simp only [changeBuffer, decide_eq_true_eq] at hanswer
    omega
  have hstate : e₁ = _ := (congrArg Prod.snd hchange).symm
  rw [hafter, hstate]
  exact Buffer.isParted_moveLeft hmoved

/-! ## The result -/

/-- After any run of calls the cursor is between two clusters of its line, or at one of its ends,
exactly if the first character after it does not join the last cluster before it.  It stays between
clusters as long as no call changes the text so that the characters join there, and none moves it up
or down over escape sequences.  A motion back that is handled brings it between clusters, wherever it
was. -/
theorem cursor_between_clusters (config : Config) (calls : List (Terminal × Call)) :
    let s := (ofConfig config).afterAll calls
    let b := s.editing.buffer
    (b.cursor.BetweenClusters b.lines ↔ Text.joins b.before b.after = false) ∧
      (b.cursor.BetweenClusters b.lines → ∀ later : List (Terminal × Call),
        (∀ step ∈ s.steps later, step.LeavesParted) →
          let b' := (s.afterAll later).editing.buffer
          b'.cursor.BetweenClusters b'.lines) ∧
      (∀ terminal call times, call.action? s.editing.keyboard = some (.cursorLeft, times) →
        (call.run terminal s).1 = .ok (.outcome .handled) →
          let b' := (s.after terminal call).editing.buffer
          b'.cursor.BetweenClusters b'.lines) := by
  intro s b
  have hsound : s.Sound := (sound_ofConfig config).afterAll calls
  have hiff : ∀ {s : Session}, s.Sound → (s.editing.buffer.cursor.BetweenClusters
      s.editing.buffer.lines ↔ s.editing.buffer.IsParted) := fun hsound =>
    Buffer.cursor_betweenClusters_iff hsound.editing.text
  refine ⟨hiff hsound, fun hbetween later hlater => ?_, fun terminal call times haction hr => ?_⟩
  · exact (hiff (hsound.afterAll later)).2
      (isParted_afterAll hsound ((hiff hsound).1 hbetween) later hlater)
  · exact (hiff (call.run_sound terminal hsound).1).2 (isParted_after_cursorLeft haction hr)

/-- A letter typed in front of a combining accent becomes one cluster with it, and the cursor stays
between the two. -/
theorem cursor_inside_cluster_after_letter :
    let terminal := Faults.terminal {} 40
    let calls : List (Terminal × Call) :=
      [(terminal, .text "\u0301".toList false), (terminal, .action .cursorLeft 1),
       (terminal, .text "e".toList false)]
    let b := ((ofConfig { mark := false }).afterAll calls).editing.buffer
    b.lines = ["e\u0301".toList] ∧ Text.clusters "e\u0301".toList = ["e\u0301".toList] ∧
      b.cursor = { offset := 1, line := 0 } ∧ ¬ b.cursor.BetweenClusters b.lines := by
  intro terminal calls b
  have hlines : b.lines = ["e\u0301".toList] := by decide +kernel
  have hcursor : b.cursor = { offset := 1, line := 0 } := by decide +kernel
  have hclamp : b.clamp b.cursor ≠ b.cursor := by decide +kernel
  refine ⟨hlines, by decide +kernel, hcursor, ?_⟩
  rwa [← Buffer.clamp_eq_self_iff]

end Session

end LineEditor
