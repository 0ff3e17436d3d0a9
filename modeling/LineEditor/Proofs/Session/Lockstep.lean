import LineEditor.Proofs.Layout.PromptText
import LineEditor.Proofs.Session.Reliable
import LineEditor.Proofs.Session.YankExtent
import LineEditor.Terminal.Fault

/-!
# Two sessions in lockstep

Two sessions that edit the same and lay out the same go on in lockstep: a call does the same on both,
and asks the terminal for as much, even if what they show is not the same.  This file carries such a
pair of sessions through every program.

* The terminal.  A terminal is blind (`Terminal.IsBlind`) if its replies do not depend on what is
  written.  A reliable terminal is.
* Sessions.  `Session.Alike` is what two sessions have in common.  If `seen` they are shown in the
  same way, too, and then the terminal need not be blind.
* Programs.  `TerminalM.InStep` and `SessionM.InStep` say of two programs that they end alike; their
  rules follow the way programs are put together.
* Calls.  `Session.Alike.run` says that a call ends alike on both sessions and keeps them in lockstep.
-/

namespace LineEditor

/-! ## The terminal -/

/-- Whether the replies of the terminal depend on the number and the kind of requests only. -/
def Terminal.IsBlind (terminal : Terminal) : Prop :=
  ∀ n (q q' : Request), q.kind = q'.kind → terminal.reply n q = terminal.reply n q'

theorem Terminal.Reliable.isBlind {terminal : Terminal} (h : terminal.Reliable) :
    terminal.IsBlind := by
  intro n q q' _
  rw [h, h]

/-! ## Sessions -/

/-- What two sessions in lockstep have in common: what is edited, the width of the screen, the widths
of the prompts and the number of requests made.  If `seen` they are shown in the same way, too. -/
structure Session.Alike (seen exact : Prop) (s s' : Session) : Prop where
  editing : s.editing.SameBut exact s'.editing
  width : s'.width = s.width
  prompts : s'.prompts.blank = s.prompts.blank
  length : s'.history.length = s.history.length
  look : seen → s.SameLook s' ∧ s'.cursorRow = s.cursorRow

/-- Rows that differ in the texts of their prompts at most, and not at all if `seen`. -/
def RowsAlike (seen : Prop) (rows rows' : List Row) : Prop :=
  rows.map Row.blank = rows'.map Row.blank ∧ (seen → rows = rows')

namespace Session

variable {seen exact : Prop} {s s' : Session}

theorem Alike.rows (h : Alike seen exact s s') : RowsAlike seen s.rows s'.rows := by
  have hrows : s'.rows = layout s.editing.buffer.lines s.editing.buffer.cursor s'.prompts s.width := by
    rw [Session.rows, h.editing.buffer, h.width]
  constructor
  · rw [hrows, Session.rows, ← layout_blank, ← layout_blank, h.prompts]
  · intro hseen
    rw [hrows, Session.rows, (h.look hseen).1.prompts]

/-- Changes of what is edited that keep it the same keep the sessions in lockstep. -/
theorem Alike.edit (h : Alike seen exact s s') {e e' : Editing} (he : e.SameBut exact e') :
    Alike seen exact { s with editing := e } { s' with editing := e' } where
  editing := he
  width := h.width
  prompts := h.prompts
  length := h.length
  look hseen := ⟨⟨(h.look hseen).1.prompts, (h.look hseen).1.mark, (h.look hseen).1.highlighter⟩,
    (h.look hseen).2⟩

theorem Alike.withWidth (h : Alike seen exact s s') (width : Nat) :
    Alike seen exact { s with width } { s' with width } where
  editing := h.editing
  width := rfl
  prompts := h.prompts
  length := h.length
  look hseen := ⟨⟨(h.look hseen).1.prompts, (h.look hseen).1.mark, (h.look hseen).1.highlighter⟩,
    (h.look hseen).2⟩

theorem Alike.withHistory (h : Alike seen exact s s') {history history' : History}
    (hlength : history'.length = history.length) :
    Alike seen exact { s with history } { s' with history := history' } where
  editing := h.editing
  width := h.width
  prompts := h.prompts
  length := hlength
  look hseen := ⟨⟨(h.look hseen).1.prompts, (h.look hseen).1.mark, (h.look hseen).1.highlighter⟩,
    (h.look hseen).2⟩

theorem Alike.withCursorRow (h : Alike seen exact s s') {row row' : Nat}
    (hrow : seen → row' = row) :
    Alike seen exact { s with cursorRow := row } { s' with cursorRow := row' } where
  editing := h.editing
  width := h.width
  prompts := h.prompts
  length := h.length
  look hseen := ⟨⟨(h.look hseen).1.prompts, (h.look hseen).1.mark, (h.look hseen).1.highlighter⟩,
    hrow hseen⟩

theorem Alike.setPrompt (h : Alike seen exact s s') (text : Text) :
    Alike seen exact (s.setPrompt text) (s'.setPrompt text) where
  editing := h.editing
  width := h.width
  prompts := by
    have hcontinuation := congrArg Prompts.continuation h.prompts
    show Prompts.mk (Prompt.ofText text false s'.mark).blank s'.prompts.blank.continuation =
      Prompts.mk (Prompt.ofText text false s.mark).blank s.prompts.blank.continuation
    rw [hcontinuation, blank_ofText text false s'.mark s.mark]
  length := h.length
  look hseen := by
    obtain ⟨⟨hprompts, hmark, hhighlighter⟩, hrow⟩ := h.look hseen
    refine ⟨⟨?_, hmark, hhighlighter⟩, hrow⟩
    show Prompts.mk (.ofText text false s'.mark) s'.prompts.continuation =
      Prompts.mk (.ofText text false s.mark) s.prompts.continuation
    rw [hmark, hprompts]

end Session

/-! ## Programs on a terminal -/

namespace TerminalM

variable {α β : Type} {terminal : Terminal} {seen : Prop}

/-- After histories of one length both programs end alike, with results related by `R` or with the same
failure, and have made as many requests. -/
def InStep (terminal : Terminal) (x y : TerminalM α) (R : α → α → Prop) : Prop :=
  ∀ h h' : History, h'.length = h.length →
    Related R (x terminal h).1 (y terminal h').1 ∧
      (y terminal h').2.length = (x terminal h).2.length

theorem inStep_pure {R : α → α → Prop} {a b : α} (h : R a b) :
    InStep terminal (pure a) (pure b) R :=
  fun _ _ hlength => ⟨.ok h, hlength⟩

theorem InStep.bind {x y : TerminalM α} {f g : α → TerminalM β} {R : α → α → Prop}
    {S : β → β → Prop} (hxy : InStep terminal x y R)
    (hfg : ∀ a b, R a b → InStep terminal (f a) (g b) S) :
    InStep terminal (x >>= f) (y >>= g) S := by
  intro h h' hlength
  obtain ⟨hrelated, hlength'⟩ := hxy h h' hlength
  rw [bind_apply, bind_apply]
  rcases hx : x terminal h with ⟨r, h₁⟩
  rcases hy : y terminal h' with ⟨r', h₁'⟩
  rw [hx, hy] at hrelated hlength'
  cases hrelated with
  | ok hab => exact hfg _ _ hab h₁ h₁' hlength'
  | error e => exact ⟨.error e, hlength'⟩

theorem inStep_request (hblind : seen ∨ terminal.IsBlind) {q q' : Request} (hkind : q.kind = q'.kind)
    (hseen : seen → q = q') : InStep terminal (request q) (request q') (· = ·) := by
  intro h h' hlength
  have hreply : terminal.reply h.length q = terminal.reply h.length q' := by
    rcases hblind with h | hblind
    · rw [hseen h]
    · exact hblind _ q q' hkind
  rw [request_apply, request_apply, hlength, hreply]
  constructor
  · dsimp only
    split
    · exact .error _
    · exact .ok rfl
  · simp [hlength]

theorem inStep_askWidth (hblind : seen ∨ terminal.IsBlind) :
    InStep terminal askWidth askWidth (· = ·) := by
  intro h h' hlength
  have hwidth : InStep terminal (request .width >>= fun _ => pure (terminal.width h.length))
      (request .width >>= fun _ => pure (terminal.width h'.length)) (· = ·) := by
    refine (inStep_request hblind rfl fun _ => rfl).bind fun _ _ _ => inStep_pure ?_
    rw [hlength]
  exact hwidth h h' hlength

/-- An update ends however its body does. -/
theorem InStep.atomically (hblind : seen ∨ terminal.IsBlind) {x y : TerminalM α} {R : α → α → Prop}
    (hxy : InStep terminal x y R) : InStep terminal (atomically x) (atomically y) R := by
  intro h h' hlength
  have hrequest : ∀ q, InStep terminal (request q) (request q) (· = ·) := fun q =>
    inStep_request hblind rfl fun _ => rfl
  obtain ⟨hbegin, hlength₁⟩ := hrequest .beginUpdate h h' hlength
  rw [atomically_apply, atomically_apply]
  rcases hq : request .beginUpdate terminal h with ⟨r, h₁⟩
  rcases hq' : request .beginUpdate terminal h' with ⟨r', h₁'⟩
  rw [hq, hq'] at hbegin hlength₁
  cases hbegin with
  | error e => exact ⟨.error e, hlength₁⟩
  | ok _ =>
    obtain ⟨hbody, hlength₂⟩ := hxy h₁ h₁' hlength₁
    exact ⟨hbody, (hrequest .endUpdate _ _ hlength₂).2⟩

/-- Rows that are alike are drawn alike. -/
theorem inStep_update (hblind : seen ∨ terminal.IsBlind) (clearFirst : Bool) {rows rows' : List Row}
    {style style' : DrawStyle} (hwidth : style'.width = style.width)
    (hseen : seen → rows = rows' ∧ style = style') :
    InStep terminal (update clearFirst rows style) (update clearFirst rows' style')
      fun row row' => seen → row' = row := by
  have hdraw : InStep terminal (draw rows style) (draw rows' style')
      fun row row' => seen → row' = row := by
    unfold draw
    rw [hwidth]
    by_cases hnarrow : style.width < minDrawWidth
    · rw [if_pos hnarrow, if_pos hnarrow]
      refine inStep_pure fun h => ?_
      rw [(hseen h).2]
    · rw [if_neg hnarrow, if_neg hnarrow]
      have hwrite : InStep terminal (request (.write (frame rows style)))
          (request (.write (frame rows' style'))) (· = ·) :=
        inStep_request hblind rfl fun h => by rw [(hseen h).1, (hseen h).2]
      refine hwrite.bind fun _ _ _ => inStep_pure fun h => ?_
      rw [(hseen h).1]
  refine InStep.atomically hblind ?_
  cases clearFirst with
  | false => exact hdraw
  | true => exact (inStep_request hblind rfl fun _ => rfl).bind fun _ _ _ => hdraw

end TerminalM

/-! ## Programs on a session -/

/-- The answer without the texts of prompts. -/
def Answer.blank : Answer → Answer
  | .rows r => .rows (r.map Row.blank)
  | answer => answer

/-- Answers that differ in the texts of prompts at most, and not at all if `seen`. -/
def Answer.Alike (seen : Prop) (answer answer' : Answer) : Prop :=
  answer.blank = answer'.blank ∧ (seen → answer = answer')

theorem Answer.Alike.refl (seen : Prop) (answer : Answer) : Alike seen answer answer :=
  ⟨rfl, fun _ => rfl⟩

namespace SessionM

open Editing Session

variable {α β : Type} {seen exact : Prop} {terminal : Terminal} {s s' : Session}

/-- From these two sessions both programs end alike, with results related by `R` or with the same
failure. -/
def InStep (seen exact : Prop) (x y : SessionM α) (terminal : Terminal) (s s' : Session)
    (R : α → α → Prop) : Prop :=
  Related R (x terminal s).1 (y terminal s').1 ∧
    (x terminal s).2.Alike seen exact (y terminal s').2

section Rules

variable {x y : SessionM α} {R : α → α → Prop} {S : β → β → Prop}

theorem inStep_pure {a b : α} (h : R a b) (hs : s.Alike seen exact s') :
    InStep seen exact (pure a) (pure b) terminal s s' R :=
  ⟨.ok h, hs⟩

theorem InStep.of_eq {x' y' : SessionM α} {t t' : Session} (hx : x terminal s = x' terminal t)
    (hy : y terminal s' = y' terminal t') (h : InStep seen exact x' y' terminal t t' R) :
    InStep seen exact x y terminal s s' R := by
  unfold InStep
  rw [hx, hy]
  exact h

theorem InStep.of_ok {a b : α} {t t' : Session} (hx : x terminal s = (.ok a, t))
    (hy : y terminal s' = (.ok b, t')) (h : R a b) (ht : t.Alike seen exact t') :
    InStep seen exact x y terminal s s' R := by
  unfold InStep
  rw [hx, hy]
  exact ⟨.ok h, ht⟩

theorem InStep.bind {f g : α → SessionM β} (hxy : InStep seen exact x y terminal s s' R)
    (hfg : ∀ a b t t', R a b → t.Alike seen exact t' →
      InStep seen exact (f a) (g b) terminal t t' S) :
    InStep seen exact (x >>= f) (y >>= g) terminal s s' S := by
  obtain ⟨hrelated, hs⟩ := hxy
  unfold InStep
  rw [bind_apply, bind_apply]
  rcases hx : x terminal s with ⟨r, t⟩
  rcases hy : y terminal s' with ⟨r', t'⟩
  rw [hx, hy] at hrelated hs
  cases hrelated with
  | ok hab => exact hfg _ _ t t' hab hs
  | error e => exact ⟨.error e, hs⟩

theorem InStep.get_bind {f g : Session → SessionM α}
    (h : InStep seen exact (f s) (g s') terminal s s' R) :
    InStep seen exact (get >>= f) (get >>= g) terminal s s' R :=
  h

theorem InStep.modify_bind {f g : Session → Session} {k k' : PUnit → SessionM α}
    (h : InStep seen exact (k ⟨⟩) (k' ⟨⟩) terminal (f s) (g s') R) :
    InStep seen exact (modify f >>= k) (modify g >>= k') terminal s s' R :=
  h

theorem InStep.map (hxy : InStep seen exact x y terminal s s' R) {f : α → β}
    (hf : ∀ a b, R a b → S (f a) (f b)) :
    InStep seen exact (f <$> x) (f <$> y) terminal s s' S := by
  rw [← bind_pure_comp, ← bind_pure_comp]
  exact hxy.bind fun a b _ _ hab hs => inStep_pure (hf a b hab) hs

theorem InStep.onTerminal {program program' : TerminalM α}
    (h : TerminalM.InStep terminal program program' R) (hs : s.Alike seen exact s') :
    InStep seen exact (onTerminal program) (onTerminal program') terminal s s' R := by
  obtain ⟨hrelated, hlength⟩ := h s.history s'.history hs.length
  refine ⟨?_, hs.withHistory hlength⟩
  show Related R ((program terminal s.history).1.mapError SessionError.terminal)
    ((program' terminal s'.history).1.mapError SessionError.terminal)
  generalize (program terminal s.history).1 = r at hrelated
  generalize (program' terminal s'.history).1 = r' at hrelated
  cases hrelated with
  | ok h => exact .ok h
  | error e => exact .error _

end Rules

/-- Changes of what is edited that end alike. -/
theorem inStep_edit {change change' : Editing → Except Misuse (Bool × Editing)}
    (hs : s.Alike seen exact s')
    (h : Related (fun a a' => a'.1 = a.1 ∧ a.2.SameBut exact a'.2) (change s.editing)
      (change' s'.editing)) :
    InStep seen exact (edit change) (edit change') terminal s s' (· = ·) := by
  refine InStep.get_bind ?_
  generalize change s.editing = r at h
  generalize change' s'.editing = r' at h
  cases h with
  | ok h => exact InStep.modify_bind (inStep_pure h.1.symm (hs.edit h.2))
  | error e => exact ⟨.error _, hs⟩

section

variable (hblind : seen ∨ terminal.IsBlind)
include hblind

theorem inStep_request {q q' : Request} (hkind : q.kind = q'.kind) (hseen : seen → q = q')
    (hs : s.Alike seen exact s') :
    InStep seen exact (request q) (request q') terminal s s' (· = ·) :=
  InStep.onTerminal (TerminalM.inStep_request hblind hkind hseen) hs

/-! ## Drawing -/

theorem inStep_screen (hs : s.Alike seen exact s') :
    InStep seen exact screen screen terminal s s' (RowsAlike seen) := by
  have hensure : InStep seen exact ensureWidth ensureWidth terminal s s' (· = ·) := by
    refine InStep.get_bind ?_
    rw [hs.width]
    by_cases hwidth : s.width = 0
    · rw [if_pos hwidth]
      refine (InStep.onTerminal (TerminalM.inStep_askWidth hblind) hs).bind ?_
      rintro width _ t t' rfl ht
      exact ⟨.ok rfl, ht.withWidth width⟩
    · rw [if_neg hwidth]
      exact inStep_pure rfl hs
  exact hensure.bind fun _ _ _ _ _ ht => InStep.get_bind (inStep_pure ht.rows ht)

theorem inStep_draw (clearFirst : Bool) (hs : s.Alike seen exact s') :
    InStep seen exact (draw clearFirst) (draw clearFirst) terminal s s' (· = ·) := by
  refine (inStep_screen hblind hs).bind fun rows rows' t t' hrows ht => InStep.get_bind ?_
  have hupdate : TerminalM.InStep terminal
      (TerminalM.update clearFirst rows
        { width := t.width
          previousRow := if clearFirst then 0 else t.cursorRow
          mark := t.mark
          highlighter := t.highlighter })
      (TerminalM.update clearFirst rows'
        { width := t'.width
          previousRow := if clearFirst then 0 else t'.cursorRow
          mark := t'.mark
          highlighter := t'.highlighter }) fun row row' => seen → row' = row := by
    refine TerminalM.inStep_update hblind clearFirst ht.width fun hseen => ⟨hrows.2 hseen, ?_⟩
    obtain ⟨⟨-, hmark, hhighlighter⟩, hrow⟩ := ht.look hseen
    rw [ht.width, hrow, hmark, hhighlighter]
  exact (InStep.onTerminal hupdate ht).bind fun row row' _ _ hrow ht =>
    ⟨.ok rfl, ht.withCursorRow hrow⟩

theorem inStep_redraw (hs : s.Alike seen exact s') :
    InStep seen exact redraw redraw terminal s s' (· = ·) :=
  inStep_draw hblind false hs

theorem inStep_resize (hs : s.Alike seen exact s') :
    InStep seen exact resize resize terminal s s' (· = ·) :=
  InStep.modify_bind (inStep_redraw hblind (hs.withWidth 0))

theorem inStep_start (hs : s.Alike seen exact s') :
    InStep seen exact start start terminal s s' (· = ·) :=
  (inStep_request hblind rfl (fun _ => rfl) hs).bind fun _ _ _ _ _ ht => inStep_redraw hblind ht

theorem inStep_belowInput (hs : s.Alike seen exact s') :
    InStep seen exact belowInput belowInput terminal s s' (· = ·) := by
  refine (inStep_screen hblind hs).bind fun rows rows' _ _ hrows ht => inStep_pure ?_ ht
  show wayBelow rows = wayBelow rows'
  rw [wayBelow, wayBelow, ← rowsBelowCursor_blank, hrows.1, rowsBelowCursor_blank]

theorem inStep_finish (hs : s.Alike seen exact s') :
    InStep seen exact finish finish terminal s s' (· = ·) := by
  refine (inStep_belowInput hblind hs).bind ?_
  rintro below _ t t' rfl ht
  refine InStep.get_bind ?_
  have hwrite : InStep seen exact
      (request (.write (below ++ [.defaultCursor, .disablePaste, .newLine] ++
        if t.mark then [.print outputMarker] else [])))
      (request (.write (below ++ [.defaultCursor, .disablePaste, .newLine] ++
        if t'.mark then [.print outputMarker] else []))) terminal t t' (· = ·) := by
    refine inStep_request hblind rfl (fun hseen => ?_) ht
    rw [(ht.look hseen).1.mark]
  exact hwrite.bind fun _ _ _ _ _ ht => ⟨.ok rfl, ht.withCursorRow fun _ => rfl⟩

/-! ## Actions -/

theorem inStep_moveVertically (amount : Int) (hs : s.Alike seen exact s') :
    InStep seen exact (moveVertically amount) (moveVertically amount) terminal s s' (· = ·) := by
  refine (inStep_screen hblind hs).bind fun rows rows' t t' hrows ht => ?_
  rw [verticalTarget_eq_of_blank hrows.1]
  cases verticalTarget rows' amount with
  | none => exact inStep_pure rfl ht
  | some target =>
    refine inStep_edit ht ?_
    rw [ht.editing.buffer]
    cases t.editing.buffer.place target with
    | error misuse => exact .error misuse
    | ok buffer =>
      exact .ok ⟨rfl, ht.editing.change (f := fun e => { e with buffer }) (fun _ _ => rfl)
        fun _ h => h⟩

/-- What was handled is drawn. -/
theorem inStep_drawHandled (action : Action) (outcome : Outcome) (hs : s.Alike seen exact s') :
    InStep seen exact
      (if action ≠ .clearScreen then do redraw; pure outcome else pure outcome)
      (if action ≠ .clearScreen then do redraw; pure outcome else pure outcome) terminal s s'
      (· = ·) := by
  by_cases hclear : action ≠ .clearScreen
  · rw [if_pos hclear]
    exact (inStep_redraw hblind hs).bind fun _ _ _ _ _ ht => inStep_pure rfl ht
  · rw [if_neg hclear]
    exact inStep_pure rfl hs

/-- An action ends alike if its step does, and if what is edited is still alike when the action is
remembered. -/
theorem inStep_perform_of_apply {action : Action} {times : Nat}
    (h : InStep seen exact (apply action times) (apply action times) terminal s s' (· = ·))
    (hyank : action.isYank = false) :
    InStep seen exact (perform action times) (perform action times) terminal s s' (· = ·) := by
  refine h.bind ?_
  rintro ⟨outcome, remembered⟩ _ t t' rfl ht
  dsimp only
  by_cases houtcome : outcome = .handled
  · rw [if_pos houtcome]
    cases remembered with
    | true =>
      exact InStep.modify_bind (inStep_drawHandled hblind action outcome
        (ht.edit (ht.editing.record hyank)))
    | false => exact inStep_drawHandled hblind action outcome ht
  · rw [if_neg houtcome]
    exact inStep_pure rfl ht

/-- An action that needs no screen ends alike. -/
theorem inStep_perform_act {action : Action} (hscreen : action.usesScreen = false)
    (hends : action ∉ [.acceptInput, .endInput]) (times : Nat) (hs : s.Alike seen exact s') :
    InStep seen exact (perform action times) (perform action times) terminal s s' (· = ·) := by
  have hacts := hs.editing.act times action
  obtain ⟨answer, hact, -⟩ := exists_act_eq s.editing times action
  obtain ⟨answer', hact', -⟩ := exists_act_eq s'.editing times action
  rw [hact, hact'] at hacts
  obtain ⟨hdone, hsame⟩ : ActsAlike exact action answer answer' := by
    cases hacts with
    | ok h => exact h
  obtain ⟨done, e⟩ := answer
  obtain ⟨done', e'⟩ := answer'
  obtain rfl : done = done' := hdone.symm
  have hrun := perform_apply (apply_act hscreen hends hact terminal)
  have hrun' := perform_apply (apply_act hscreen hends hact' terminal)
  cases done with
  | true =>
    refine InStep.of_eq (hrun.trans (if_pos rfl)) (hrun'.trans (if_pos rfl)) ?_
    exact inStep_drawHandled hblind action .handled (hs.edit hsame)
  | false =>
    exact InStep.of_ok (hrun.trans (if_neg nofun)) (hrun'.trans (if_neg nofun)) rfl
      (hs.edit hsame)

theorem inStep_perform (action : Action) (times : Nat) (hs : s.Alike seen exact s') :
    InStep seen exact (perform action times) (perform action times) terminal s s' (· = ·) := by
  have hmove : ∀ amount, InStep seen exact
      (do
        let moved ← moveVertically amount
        pure (outcomeOf moved, true))
      (do
        let moved ← moveVertically amount
        pure (outcomeOf moved, true)) terminal s s' (· = ·) := fun amount =>
    (inStep_moveVertically hblind amount hs).bind fun _ _ _ _ h ht =>
      inStep_pure (by rw [h]) ht
  cases action with
  | cursorUp => exact inStep_perform_of_apply hblind (hmove _) rfl
  | cursorDown => exact inStep_perform_of_apply hblind (hmove _) rfl
  | acceptInput => exact inStep_perform_of_apply hblind (inStep_pure rfl hs) rfl
  | endInput =>
    refine inStep_perform_of_apply hblind (InStep.get_bind ?_) rfl
    rw [hs.editing.buffer]
    by_cases hline : s.editing.buffer.currentLine.isEmpty = true
    · rw [if_pos hline]
      exact inStep_pure rfl hs
    · rw [if_neg hline]
      exact inStep_pure rfl hs
  | abortLine =>
    refine inStep_perform_of_apply hblind ?_ rfl
    refine (inStep_belowInput hblind hs).bind ?_
    rintro below _ t t' rfl ht
    refine (inStep_request hblind rfl (fun _ => rfl) ht).bind fun _ _ t t' _ ht => ?_
    refine InStep.modify_bind (inStep_pure rfl ?_)
    exact (ht.edit (ht.editing.received .reset)).withCursorRow fun _ => rfl
  | clearScreen =>
    refine inStep_perform_of_apply hblind ?_ rfl
    exact (inStep_draw hblind true hs).bind fun _ _ _ _ _ ht => inStep_pure rfl ht
  | _ => exact inStep_perform_act hblind rfl (by decide) times hs

theorem inStep_performOrBeep (action : Action) (times : Nat) (hs : s.Alike seen exact s') :
    InStep seen exact (performOrBeep action times) (performOrBeep action times) terminal s s'
      (· = ·) := by
  refine (inStep_perform hblind action times hs).bind ?_
  rintro outcome _ t t' rfl ht
  by_cases houtcome : outcome = .couldNotPerform
  · rw [if_pos houtcome]
    refine (inStep_request hblind rfl (fun _ => rfl) ht).bind ?_
    exact fun _ _ _ _ _ ht => inStep_pure rfl ht
  · rw [if_neg houtcome]
    exact inStep_pure rfl ht

/-! ## Keys and texts -/

theorem inStep_onKey (key : Key) (hs : s.Alike seen exact s') :
    InStep seen exact (onKey key) (onKey key) terminal s s' (· = ·) := by
  have hreceive : (s.receive (.key key)).Alike seen exact (s'.receive (.key key)) :=
    hs.edit (hs.editing.received (.key key))
  have hkeyboard := hs.editing.keyboard
  unfold InStep
  rw [onKey_apply, onKey_apply, hkeyboard]
  cases (s.editing.keyboard.resolve key).1 with
  | action action times => exact inStep_performOrBeep hblind action times hreceive
  | text text times => exact inStep_performOrBeep hblind .addText times hreceive
  | pending => exact ⟨.ok rfl, hreceive⟩
  | ignored => exact ⟨.ok rfl, hreceive⟩
  | unbound => exact ⟨.ok rfl, hreceive⟩

theorem inStep_onText (text : Text) (withinPaste : Bool) (hs : s.Alike seen exact s') :
    InStep seen exact (onText text withinPaste) (onText text withinPaste) terminal s s'
      (· = ·) := by
  have hreceive := hs.edit (hs.editing.received (.text text withinPaste))
  cases withinPaste with
  | true => exact ⟨.ok rfl, hreceive⟩
  | false => exact inStep_perform hblind .addText 1 hreceive

end

end SessionM

open SessionM

namespace Session

variable {seen exact : Prop} {terminal : Terminal} {s s' : Session}

/-! ## Calls -/

/-- A call ends alike on two sessions that are alike. -/
theorem Alike.run (hs : s.Alike seen exact s') (hblind : seen ∨ terminal.IsBlind) (call : Call) :
    InStep seen exact call.run call.run terminal s s' (Answer.Alike seen) := by
  have houtcome : ∀ {x : SessionM Outcome}, InStep seen exact x x terminal s s' (· = ·) →
      InStep seen exact (Answer.outcome <$> x) (Answer.outcome <$> x) terminal s s'
        (Answer.Alike seen) :=
    fun h => h.map fun outcome _ h => h ▸ .refl seen (.outcome outcome)
  have hdone : ∀ {x : SessionM Unit}, InStep seen exact x x terminal s s' (· = ·) →
      InStep seen exact (x >>= fun _ => pure Answer.done) (x >>= fun _ => pure Answer.done) terminal
        s s' (Answer.Alike seen) :=
    fun h => h.bind fun _ _ _ _ _ ht => inStep_pure (.refl seen .done) ht
  cases call with
  | key key => exact houtcome (inStep_onKey hblind key hs)
  | text text withinPaste => exact houtcome (inStep_onText hblind text withinPaste hs)
  | action action times => exact houtcome (inStep_perform hblind action times hs)
  | setText text =>
    refine InStep.modify_bind (inStep_pure (.refl seen .done) ?_)
    exact hs.edit (hs.editing.received (.setText text))
  | setPrompt text =>
    exact InStep.modify_bind (inStep_pure (.refl seen .done) (hs.setPrompt text))
  | reset =>
    refine InStep.modify_bind (inStep_pure (.refl seen .done) ?_)
    exact (hs.edit (hs.editing.received .reset)).withCursorRow fun _ => rfl
  | start => exact hdone (inStep_start hblind hs)
  | finish => exact hdone (inStep_finish hblind hs)
  | redraw => exact hdone (inStep_redraw hblind hs)
  | resize => exact hdone (inStep_resize hblind hs)
  | screen =>
    refine (inStep_screen hblind hs).map fun rows rows' hrows => ⟨?_, fun hseen => ?_⟩
    · exact congrArg Answer.rows hrows.1
    · rw [hrows.2 hseen]

end Session

end LineEditor
