import LineEditor.Proofs.Session.FreshInput

/-!
# Pastes that come in parts

A terminal hands over a paste in as many parts as it likes, with other calls between them.  The parts
are put aside until the paste ends, so it makes no difference where the paste is parted, nor where the
other calls come.

* Actions.  `Editing.act_pasted` says that actions have nothing to do with what is being pasted.
* Programs.  `SessionM.IgnoresPaste` says so of a program on a session; its rules follow the way
  programs are put together, and `Call.ignoresPaste` is the result for calls.
* Runs.  `Call.chunk?` is the part of a paste that a call brings.  `Session.steps_pasting` says that a
  run goes on in the same way without such calls, and `Session.pasted_afterAll` that nothing but the
  text that is being pasted tells of them.
* The result.  `paste_comes_in_one_piece` says that the end of the paste inserts all parts at once.
-/

namespace LineEditor

open SessionM

/-! ## Line breaks -/

/-- A carriage return and the line feed after it are one line break, whatever stands around them. -/
theorem Text.normalizeBreaks_append_pair (left right : Text) :
    normalizeBreaks (left ++ '\r' :: '\n' :: right) =
      left.normalizeBreaks ++ '\n' :: right.normalizeBreaks := by
  fun_induction normalizeBreaks left with
  | case1 => rfl
  | case2 rest ih => simp [normalizeBreaks, ih]
  | case3 c rest hpair ih =>
    rw [List.cons_append, normalizeBreaks, ih, List.cons_append]
    -- the rest begins no pair with `c`, and neither does the pair itself
    rintro rest' rfl h
    cases rest with
    | nil => cases h
    | cons d rest => exact hpair rest rfl (by rw [(List.cons.inj h).1])

/-! ## Actions -/

namespace Editing

/-- Actions have nothing to do with what is being pasted. -/
theorem act_pasted (e : Editing) (times : Nat) (action : Action) (pasted : Text) :
    ({ e with pasted } : Editing).act times action =
      (e.act times action).map fun a => (a.1, { a.2 with pasted }) := by
  have haside : Aside ({ · with pasted }) :=
    ⟨fun _ => rfl, fun _ => rfl, fun _ => rfl, fun _ => rfl, fun _ _ _ _ => rfl⟩
  cases action with
  | yank =>
    unfold act yank
    dsimp only
    split <;> rfl
  | popYank =>
    unfold act popYank
    dsimp only
    split
    · rfl
    · rcases e.ring.rotate with ⟨text, ring⟩
      dsimp only
      split
      · rfl
      · cases e.buffer.erase (e.buffer.clamp e.yankExtent.start)
            (e.buffer.clamp e.yankExtent.stop) with
        | error misuse => rfl
        | ok erased =>
          show (erased.2.place _ >>= _) = Except.map _ (erased.2.place _ >>= _)
          cases erased.2.place (min (e.buffer.clamp e.yankExtent.start)
            (e.buffer.clamp e.yankExtent.stop)) <;> rfl
  | _ => exact haside.act rfl e times

end Editing

/-! ## Programs -/

namespace SessionM

variable {α β : Type}

/-- The program does the same whatever is being pasted, and leaves that alone. -/
def IgnoresPaste (x : SessionM α) : Prop :=
  ∀ terminal (s : Session) pasted,
    x terminal (s.pasting pasted) = ((x terminal s).1, (x terminal s).2.pasting pasted)

theorem ignoresPaste_pure (a : α) : IgnoresPaste (pure a) :=
  fun _ _ _ => rfl

theorem ignoresPaste_modify {f : Session → Session}
    (h : ∀ s pasted, f (s.pasting pasted) = (f s).pasting pasted) : IgnoresPaste (modify f) := by
  intro terminal s pasted
  show ((.ok ⟨⟩, f (s.pasting pasted)) : Except SessionError PUnit × Session) = _
  rw [h]
  rfl

theorem ignoresPaste_onTerminal (program : TerminalM α) : IgnoresPaste (onTerminal program) :=
  fun _ _ _ => rfl

theorem IgnoresPaste.bind {x : SessionM α} {f : α → SessionM β} (hx : IgnoresPaste x)
    (hf : ∀ a, IgnoresPaste (f a)) : IgnoresPaste (x >>= f) := by
  intro terminal s pasted
  rw [bind_apply, bind_apply, hx]
  rcases x terminal s with ⟨_ | a, s'⟩
  · rfl
  · exact hf a terminal s' pasted

/-- A program may look at everything else in the session. -/
theorem ignoresPaste_get_bind {f : Session → SessionM α} (hf : ∀ s, IgnoresPaste (f s))
    (hsame : ∀ s pasted, f (s.pasting pasted) = f s) : IgnoresPaste (get >>= f) := by
  intro terminal s pasted
  show f (s.pasting pasted) terminal (s.pasting pasted) = _
  rw [hsame]
  exact hf s terminal s pasted

theorem IgnoresPaste.ite {c : Prop} [Decidable c] {x y : SessionM α} (hx : IgnoresPaste x)
    (hy : IgnoresPaste y) : IgnoresPaste (if c then x else y) := by
  split
  · exact hx
  · exact hy

theorem IgnoresPaste.map {x : SessionM α} (hx : IgnoresPaste x) (f : α → β) :
    IgnoresPaste (f <$> x) := by
  rw [← bind_pure_comp]
  exact hx.bind fun a => ignoresPaste_pure (f a)

theorem ignoresPaste_edit {change : Editing → Except Misuse (Bool × Editing)}
    (h : ∀ e pasted, change { e with pasted } =
      (change e).map fun a => (a.1, { a.2 with pasted })) : IgnoresPaste (edit change) := by
  intro terminal s pasted
  have hchange : change (s.pasting pasted).editing =
      (change s.editing).map fun a => (a.1, { a.2 with pasted }) := h s.editing pasted
  unfold edit
  rw [bind_apply, bind_apply, get_apply, get_apply]
  dsimp only
  rw [hchange]
  cases change s.editing <;> rfl

/-! ### Drawing -/

theorem ignoresPaste_screen : IgnoresPaste screen := by
  have hensure : IgnoresPaste ensureWidth := by
    refine ignoresPaste_get_bind (fun _ => .ite ?_ (ignoresPaste_pure _)) fun _ _ => rfl
    exact (ignoresPaste_onTerminal _).bind fun _ => ignoresPaste_modify fun _ _ => rfl
  exact hensure.bind fun _ => ignoresPaste_get_bind (fun _ => ignoresPaste_pure _) fun _ _ => rfl

theorem ignoresPaste_draw (clearFirst : Bool) : IgnoresPaste (draw clearFirst) := by
  refine ignoresPaste_screen.bind fun rows => ignoresPaste_get_bind (fun s => ?_) fun _ _ => rfl
  exact (ignoresPaste_onTerminal _).bind fun _ => ignoresPaste_modify fun _ _ => rfl

theorem ignoresPaste_belowInput : IgnoresPaste belowInput :=
  ignoresPaste_screen.bind fun _ => ignoresPaste_pure _

theorem ignoresPaste_finish : IgnoresPaste finish := by
  refine ignoresPaste_belowInput.bind fun below =>
    ignoresPaste_get_bind (fun s => ?_) fun _ _ => rfl
  exact (ignoresPaste_onTerminal _).bind fun _ => ignoresPaste_modify fun _ _ => rfl

/-! ### Actions -/

theorem ignoresPaste_moveVertically (amount : Int) : IgnoresPaste (moveVertically amount) := by
  refine ignoresPaste_screen.bind fun rows => ?_
  cases verticalTarget rows amount with
  | none => exact ignoresPaste_pure false
  | some target =>
    refine ignoresPaste_edit fun e pasted => ?_
    dsimp only
    cases e.buffer.place target <;> rfl

theorem ignoresPaste_apply (action : Action) (times : Nat) :
    IgnoresPaste (apply action times) := by
  have hact : IgnoresPaste (do
      let done ← edit fun e => e.act times action
      pure (outcomeOf done, true)) :=
    (ignoresPaste_edit fun e pasted => e.act_pasted times action pasted).bind
      fun _ => ignoresPaste_pure _
  cases action with
  | cursorUp => exact (ignoresPaste_moveVertically _).bind fun _ => ignoresPaste_pure _
  | cursorDown => exact (ignoresPaste_moveVertically _).bind fun _ => ignoresPaste_pure _
  | acceptInput => exact ignoresPaste_pure _
  | endInput =>
    exact ignoresPaste_get_bind (fun _ => .ite (ignoresPaste_pure _) (ignoresPaste_pure _))
      fun _ _ => rfl
  | abortLine =>
    refine ignoresPaste_belowInput.bind fun below => (ignoresPaste_onTerminal _).bind fun _ => ?_
    exact (ignoresPaste_modify fun _ _ => rfl).bind fun _ => ignoresPaste_pure _
  | clearScreen => exact (ignoresPaste_draw true).bind fun _ => ignoresPaste_pure _
  | _ => exact hact

theorem ignoresPaste_perform (action : Action) (times : Nat) :
    IgnoresPaste (perform action times) := by
  refine (ignoresPaste_apply action times).bind fun answer => ?_
  obtain ⟨outcome, remembered⟩ := answer
  have hdraw : IgnoresPaste
      (if action ≠ .clearScreen then do redraw; pure outcome else pure outcome) :=
    .ite ((ignoresPaste_draw false).bind fun _ => ignoresPaste_pure _) (ignoresPaste_pure _)
  refine .ite (.ite ?_ hdraw) (ignoresPaste_pure _)
  exact (ignoresPaste_modify fun _ _ => rfl).bind fun _ => hdraw

theorem ignoresPaste_performOrBeep (action : Action) (times : Nat) :
    IgnoresPaste (performOrBeep action times) := by
  refine (ignoresPaste_perform action times).bind fun outcome => ?_
  exact .ite ((ignoresPaste_onTerminal _).bind fun _ => ignoresPaste_pure _) (ignoresPaste_pure _)

theorem ignoresPaste_onKey (key : Key) : IgnoresPaste (onKey key) := by
  refine ignoresPaste_get_bind (fun s => ?_) fun _ _ => rfl
  rcases s.editing.keyboard.resolve key with ⟨meaning, keyboard⟩
  refine (ignoresPaste_modify fun _ _ => rfl).bind fun _ => ?_
  cases meaning with
  | action action times => exact ignoresPaste_performOrBeep action times
  | text text times =>
    exact (ignoresPaste_modify fun _ _ => rfl).bind fun _ => ignoresPaste_performOrBeep _ times
  | pending => exact ignoresPaste_pure _
  | ignored => exact ignoresPaste_pure _
  | unbound => exact ignoresPaste_pure _

end SessionM

/-- Only texts have to do with what is being pasted. -/
theorem Call.ignoresPaste {call : Call} (h : ∀ text withinPaste, call ≠ .text text withinPaste) :
    IgnoresPaste call.run := by
  have hdone : ∀ {x : SessionM Unit}, IgnoresPaste x →
      IgnoresPaste (x >>= fun _ => pure Answer.done) :=
    fun hx => hx.bind fun _ => ignoresPaste_pure _
  cases call with
  | key key => exact (ignoresPaste_onKey key).map _
  | text text withinPaste => exact absurd rfl (h text withinPaste)
  | action action times => exact (ignoresPaste_perform action times).map _
  | setText text => exact hdone (ignoresPaste_modify fun _ _ => rfl)
  | setPrompt text => exact hdone (ignoresPaste_modify fun _ _ => rfl)
  | reset => exact hdone (ignoresPaste_modify fun _ _ => rfl)
  | start => exact hdone ((ignoresPaste_onTerminal _).bind fun _ => ignoresPaste_draw false)
  | finish => exact hdone ignoresPaste_finish
  | redraw => exact hdone (ignoresPaste_draw false)
  | resize =>
    exact hdone ((ignoresPaste_modify fun _ _ => rfl).bind fun _ => ignoresPaste_draw false)
  | screen => exact ignoresPaste_screen.map _

/-! ## Runs -/

/-- The part of a paste that a call brings. -/
def Call.chunk? : Call → Option Text
  | .text chunk true => some chunk
  | _ => none

namespace Session

/-- What the calls bring of a paste, put together. -/
def chunks (calls : List (Terminal × Call)) : Text :=
  (calls.filterMap fun call => call.2.chunk?).flatten

/-- What a call gave and the session after it, but for what is being pasted. -/
def Step.apartFromPaste (step : Step) : Except SessionError Answer × Session :=
  (step.result, step.after.pasting [])

variable {s : Session} {terminal : Terminal} {call : Call} {calls : List (Terminal × Call)}

/-- A part of a paste is put aside. -/
theorem run_chunk (s : Session) (terminal : Terminal) {chunk : Text}
    (h : call.chunk? = some chunk) :
    call.run terminal s = (.ok (.outcome .handled), s.pasting (s.editing.pasted ++ chunk)) := by
  cases call with
  | text text withinPaste =>
    cases withinPaste with
    | true =>
      cases h
      rfl
    | false => cases h
  | _ => cases h

/-- A call that neither brings a part of a paste nor ends one does the same whatever is being pasted. -/
theorem run_pasting (s : Session) (terminal : Terminal) (h : call.chunk? = none)
    (hopen : ∀ text, call ≠ .text text false) (pasted : Text) :
    call.run terminal (s.pasting pasted) =
      ((call.run terminal s).1, (s.after terminal call).pasting pasted) := by
  refine Call.ignoresPaste (fun text withinPaste heq => ?_) terminal s pasted
  cases withinPaste with
  | true => simp [heq, Call.chunk?] at h
  | false => exact hopen text heq

theorem pasted_after (h : call.chunk? = none) (hopen : ∀ text, call ≠ .text text false) :
    (s.after terminal call).editing.pasted = s.editing.pasted := by
  have hsame := congrArg (·.2.editing.pasted)
    (run_pasting s terminal h hopen s.editing.pasted)
  exact hsame

/-- A run goes on in the same way whatever was being pasted before it, and without the calls that bring
parts of a paste. -/
theorem steps_pasting (hopen : ∀ call ∈ calls, ∀ text, call.2 ≠ .text text false) (s : Session)
    (pasted : Text) :
    ((s.steps calls).filter fun step => step.call.chunk?.isNone).map Step.apartFromPaste =
        ((s.pasting pasted).steps (calls.filter fun call => call.2.chunk?.isNone)).map
          Step.apartFromPaste ∧
      (s.pasting pasted).afterAll (calls.filter fun call => call.2.chunk?.isNone) =
        (s.afterAll calls).pasting pasted := by
  induction calls generalizing s with
  | nil => exact ⟨rfl, rfl⟩
  | cons call calls ih =>
    obtain ⟨terminal, call⟩ := call
    obtain ⟨hfirst, hrest⟩ := List.forall_mem_cons.1 hopen
    obtain ⟨hsteps, hafter⟩ := ih hrest (s.after terminal call)
    show ((Step.mk s terminal call :: (s.after terminal call).steps calls).filter _).map _ = _ ∧
      _ = ((s.after terminal call).afterAll calls).pasting pasted
    cases hchunk : call.chunk? with
    | some chunk =>
      -- the part is put aside, and nothing else is done
      have hsame : (s.after terminal call).pasting pasted = s.pasting pasted := by
        rw [after, run_chunk s terminal hchunk]
        rfl
      rw [hsame] at hsteps hafter
      rw [List.filter_cons_of_neg (by simp [hchunk]), List.filter_cons_of_neg (by simp [hchunk])]
      exact ⟨hsteps, hafter⟩
    | none =>
      have hrun := run_pasting s terminal hchunk hfirst pasted
      have hsame : (s.pasting pasted).after terminal call = (s.after terminal call).pasting pasted :=
        congrArg Prod.snd hrun
      rw [List.filter_cons_of_pos (by simp [hchunk]), List.filter_cons_of_pos (by simp [hchunk]),
        List.map_cons, hsteps, steps, List.map_cons, hsame]
      refine ⟨congrArg (· :: _) ?_, ?_⟩
      · show ((call.run terminal s).1, (s.after terminal call).pasting []) =
          ((call.run terminal (s.pasting pasted)).1,
            ((s.pasting pasted).after terminal call).pasting [])
        rw [hrun, hsame]
        rfl
      · show ((s.pasting pasted).after terminal call).afterAll _ = _
        rw [hsame, hafter]

/-- The parts of a paste are put aside in their order. -/
theorem pasted_afterAll (hopen : ∀ call ∈ calls, ∀ text, call.2 ≠ .text text false) (s : Session) :
    (s.afterAll calls).editing.pasted = s.editing.pasted ++ chunks calls := by
  induction calls generalizing s with
  | nil => exact (List.append_nil _).symm
  | cons call calls ih =>
    obtain ⟨terminal, call⟩ := call
    obtain ⟨hfirst, hrest⟩ := List.forall_mem_cons.1 hopen
    have hpasted : (s.after terminal call).editing.pasted =
        s.editing.pasted ++ call.chunk?.getD [] := by
      cases hchunk : call.chunk? with
      | some chunk =>
        rw [after, run_chunk s terminal hchunk]
        rfl
      | none => exact (pasted_after hchunk hfirst).trans (List.append_nil _).symm
    show ((s.after terminal call).afterAll calls).editing.pasted = _
    rw [ih hrest, hpasted, List.append_assoc, chunks, chunks, List.filterMap_cons]
    cases call.chunk? <;> rfl

/-! ## The result -/

/-- A text that ends a paste is inserted together with what was pasted before, unless that is too much. -/
theorem buffer_after_text {text : Text}
    (hsize : (s.editing.pasted ++ text).size ≤ Editing.maxInsertSize) (terminal : Terminal) :
    (s.after terminal (.text text false)).editing.buffer =
      s.editing.buffer.insert (s.editing.pasted ++ text) := by
  have hcalled : Editing.Called s.editing (.text text false)
      ((Call.text text false).run terminal s).1
      (s.after terminal (.text text false)).editing := Call.run_called _ terminal s
  obtain ⟨-, heq⟩ := hcalled.eq_inserted rfl (by rwa [Nat.mul_one])
  rw [heq]
  show s.editing.buffer.insert (Text.times (s.editing.pasted ++ text) 1) = _
  rw [Text.times_one]

/-- From any session, a paste comes in parts, with other calls between them that do not end it, and then
it ends.  Without the parts, and with all of them put into the call that ends the paste, every other
call gives the same and leaves the same session, but for the text that is being pasted; and so does the
end, after which the two sessions are the same.  A part of a paste is always handled and is put aside,
which changes neither what else is edited, nor what is drawn, nor what was asked of the terminal.

So it does not matter either where the text is parted: a carriage return and a line feed that follow
each other make one line break, also if they come in different parts. -/
theorem paste_comes_in_one_piece (s : Session) (calls : List (Terminal × Call))
    (hopen : ∀ call ∈ calls, ∀ text, call.2 ≠ .text text false) (terminal : Terminal)
    (last : Text) :
    let others := calls.filter fun call => call.2.chunk?.isNone
    let whole := chunks calls ++ last
    let b := (s.afterAll others).editing.buffer
    let b' := ((s.afterAll calls).after terminal (.text last false)).editing.buffer
    ((s.steps calls).filter fun step => step.call.chunk?.isNone).map Step.apartFromPaste =
        (s.steps others).map Step.apartFromPaste ∧
      (Call.text last false).run terminal (s.afterAll calls) =
        (Call.text whole false).run terminal (s.afterAll others) ∧
      (∀ step ∈ s.steps calls, ∀ chunk, step.call.chunk? = some chunk →
        step.result = .ok (.outcome .handled) ∧
          step.after = step.before.pasting (step.before.editing.pasted ++ chunk)) ∧
      ∀ left right : Text, s.editing.pasted ++ whole = left ++ '\r' :: '\n' :: right →
        (s.editing.pasted ++ whole).size ≤ Editing.maxInsertSize →
        b'.before = b.before ++ (left.normalizeBreaks ++ '\n' :: right.normalizeBreaks) ∧
          b'.after = b.after := by
  intro others whole b b'
  obtain ⟨hsteps, hafter⟩ := steps_pasting hopen s s.editing.pasted
  have hpasted : (s.afterAll calls).editing.pasted ++ last = s.editing.pasted ++ whole := by
    rw [pasted_afterAll hopen, List.append_assoc]
  have hothers : s.afterAll others = (s.afterAll calls).pasting s.editing.pasted := hafter
  refine ⟨hsteps, ?_, fun step _ chunk hchunk => ?_, fun left right hpair hsize => ?_⟩
  · have hreceive : (s.afterAll calls).receive (.text last false) =
        (s.afterAll others).receive (.text whole false) := by
      rw [hothers, receive, Editing.received, hpasted]
      rfl
    rw [Call.run_of_action? rfl, Call.run_of_action? rfl, hreceive]
    rfl
  · have hrun := run_chunk step.before step.terminal hchunk
    exact ⟨congrArg Prod.fst hrun, congrArg Prod.snd hrun⟩
  · have hinsert : b' = b.insert (s.editing.pasted ++ whole) := by
      rw [← hpasted] at hsize ⊢
      show (((s.afterAll calls).after terminal _).editing.buffer) =
        (s.afterAll others).editing.buffer.insert _
      rw [buffer_after_text hsize, hothers]
      rfl
    rw [hinsert, hpair, Buffer.insert, Text.normalizeBreaks_append_pair]
    exact ⟨rfl, rfl⟩

/-- A paste is parted between a carriage return and its line feed; in between the cursor goes back over
what was typed before, and the rows are asked for. -/
theorem paste_comes_in_one_piece_over_pair :
    let terminal := Faults.terminal {} 40
    let calls : List (Terminal × Call) :=
      [(terminal, .key { code := .char 'x' }), (terminal, .text "a\r".toList true),
       (terminal, .key { code := .left }), (terminal, .text "\nb".toList true), (terminal, .screen)]
    let others : List (Terminal × Call) :=
      [(terminal, .key { code := .char 'x' }), (terminal, .key { code := .left }), (terminal, .screen)]
    let s := ofConfig {}
    let s' := (s.afterAll calls).after terminal (.text "c".toList false)
    (∀ call ∈ calls, ∀ text, call.2 ≠ .text text false) ∧
      ((s.steps calls).filter fun step => step.call.chunk?.isNone).map Step.apartFromPaste =
        (s.steps others).map Step.apartFromPaste ∧
      s' = (s.afterAll others).after terminal (.text "a\r\nbc".toList false) ∧
      s'.text = "a\nbcx".toList := by
  intro terminal calls others s s'
  have hopen : ∀ call ∈ calls, ∀ text, call.2 ≠ .text text false := by simp [calls]
  have hfilter : (calls.filter fun call => call.2.chunk?.isNone) = others := rfl
  have hresult := paste_comes_in_one_piece s calls hopen terminal "c".toList
  rw [hfilter] at hresult
  obtain ⟨hothers, hlast, -, hpair⟩ := hresult
  obtain ⟨hbefore, hafter⟩ := hpair "a".toList "bc".toList (by decide) (by decide)
  have hleft : (s.afterAll others).editing.buffer.before = [] := by decide +kernel
  have hright : (s.afterAll others).editing.buffer.after = "x".toList := by decide +kernel
  refine ⟨hopen, hothers, congrArg Prod.snd hlast, ?_⟩
  rw [Session.text, Buffer.text, hbefore, hafter, hleft, hright]
  decide

end Session

end LineEditor
