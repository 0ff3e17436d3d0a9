import LineEditor.Proofs.Keyboard
import LineEditor.Proofs.Session.Presentation
import LineEditor.Terminal.Fault

/-!
# Numeric arguments

A number typed before a key that types a text inserts as many copies of it.  The number that can be
typed is so small that this is never turned down as too much.

* Copies.  `insert_replicate` is the insertion of copies of a character, which is a line feed if it was
  a carriage return.
* The keyboard of a session.  `Call.keyboardEvents` is what a call does to the keyboard, and
  `keyboard_afterAll` says that a session has the keyboard that has seen all of it.
* The result.  `typed_number_repeats_key` says what the keyboard makes of any events, and what a key
  that types a text does in any session.
-/

namespace LineEditor

open SessionM

/-! ## Copies -/

theorem Text.times_singleton (c : Char) (n : Nat) : Text.times [c] n = List.replicate n c := by
  rw [Text.times, if_neg (by simp), List.flatten_replicate_singleton]

theorem Text.normalizeBreaks_replicate (c : Char) (n : Nat) :
    Text.normalizeBreaks (List.replicate n c) =
      List.replicate n (if c = '\r' then '\n' else c) := by
  by_cases hc : c = '\r'
  · subst hc
    rw [if_pos rfl]
    induction n with
    | zero => rfl
    | succ n ih =>
      -- no carriage return stands before a line feed
      have hpair : ∀ rest, '\r' = '\r' → List.replicate n '\r' = '\n' :: rest → False := by
        intro rest _ h
        cases n with
        | zero => cases h
        | succ n => exact absurd (List.cons.inj h).1 (by decide)
      rw [List.replicate_succ, Text.normalizeBreaks, if_pos rfl, ih, List.replicate_succ]
      exact hpair
  · rw [if_neg hc]
    refine Text.normalizeBreaks_eq_self fun hmem => hc ?_
    exact (List.eq_of_mem_replicate hmem).symm

/-- To insert copies of a character puts them before the cursor. -/
theorem Buffer.insert_replicate (b : Buffer) (c : Char) (n : Nat) :
    b.insert (Text.times [c] n) =
      { before := b.before ++ List.replicate n (if c = '\r' then '\n' else c)
        after := b.after } := by
  rw [Buffer.insert, Text.times_singleton, Text.normalizeBreaks_replicate]

/-! ## The keyboard of a session -/

namespace Editing

theorem Does.keyboard_eq {e e' : Editing} {times : Nat} {action : Action}
    (h : Does e times action e') : e'.keyboard = e.keyboard := by
  cases h <;> rfl

/-- Only to give up the input changes the keyboard. -/
theorem Applies.keyboard_eq {e e' : Editing} {times : Nat} {action : Action}
    {answer : Outcome × Bool} (h : Applies e times action answer e') :
    (e'.remember action answer).keyboard = if action = .abortLine then {} else e.keyboard := by
  have hremember : (e'.remember action answer).keyboard = e'.keyboard := by
    unfold remember
    split <;> rfl
  rw [hremember]
  cases h with
  | answered haction _ hanswer =>
    have hother : action ≠ .abortLine := by
      rintro rfl
      exact haction (by decide)
    rw [if_neg hother]
    rcases hanswer with ⟨-, heq⟩ | ⟨-, hdoes⟩
    · rw [heq, refused]
      split <;> rfl
    · exact hdoes.keyboard_eq
  | accepted haction =>
    have hother : action ≠ .abortLine := by
      rcases haction with rfl | ⟨rfl, -⟩ <;> decide
    rw [if_neg hother]
  | ended _ => rfl
  | aborted => rfl
  | cleared => rfl

end Editing

/-- What a call does to the keyboard. -/
def Call.keyboardEvents : Call → List Keyboard.Event
  | .key k => [.key k]
  | .reset => [.reset]
  | .action .abortLine _ => [.reset]
  | _ => []

namespace Session

/-- An answered call leaves the keyboard that has seen what it did to it. -/
theorem Step.IsAnswered.keyboard_eq {step : Step} (h : step.IsAnswered) :
    step.after.editing.keyboard =
      step.before.editing.keyboard.afterAll step.call.keyboardEvents := by
  obtain ⟨s, terminal, call⟩ := step
  obtain ⟨answer, hrun⟩ := h
  show (s.after terminal call).editing.keyboard = s.editing.keyboard.afterAll call.keyboardEvents
  cases haction : call.action? s.editing.keyboard with
  | none =>
    obtain ⟨outcome, heffect⟩ := Call.exists_effect_eq_of_none haction
    have hafter : (s.after terminal call).editing = s.editing.received call :=
      congrArg Prod.snd (heffect rfl hrun)
    rw [hafter]
    cases call with
    | action action times => cases haction
    | _ => rfl
  | some action =>
    obtain ⟨action, times⟩ := action
    obtain ⟨step, e, happlies, heffect⟩ := Call.exists_effect_eq haction hrun
    have hafter : (s.after terminal call).editing = e.remember action step :=
      congrArg Prod.snd heffect
    rw [hafter, happlies.keyboard_eq]
    cases call with
    | key k =>
      rw [Call.action?] at haction
      have hused : (s.editing.keyboard.resolve k).2 = {} := by
        rcases s.editing.keyboard.resolve_cases k with
          ⟨-, hresolve⟩ | ⟨-, digit, -, hresolve⟩ | ⟨-, -, hused⟩
        · rw [hresolve] at haction
          cases haction
        · rw [hresolve] at haction
          cases haction
        · exact hused
      show (if action = .abortLine then {} else (s.editing.keyboard.resolve k).2) =
        (s.editing.keyboard.resolve k).2
      rw [hused, ite_self]
    | text text withinPaste =>
      cases withinPaste with
      | true => cases haction
      | false =>
        obtain rfl : Action.addText = action := congrArg Prod.fst (Option.some.inj haction)
        rfl
    | action action' times' =>
      obtain rfl : action' = action := congrArg Prod.fst (Option.some.inj haction)
      cases action' <;> rfl
    | _ => cases haction

/-- Calls that are answered leave the keyboard that has seen all they did to it. -/
theorem keyboard_afterAll {s : Session} {calls : List (Terminal × Call)}
    (hanswered : ∀ step ∈ s.steps calls, step.IsAnswered) :
    (s.afterAll calls).editing.keyboard =
      s.editing.keyboard.afterAll (calls.flatMap fun call => call.2.keyboardEvents) := by
  induction calls generalizing s with
  | nil => rfl
  | cons call calls ih =>
    rw [steps, List.forall_mem_cons] at hanswered
    have hfirst : (s.after call.1 call.2).editing.keyboard =
        s.editing.keyboard.afterAll call.2.keyboardEvents := hanswered.1.keyboard_eq
    show ((s.after call.1 call.2).afterAll calls).editing.keyboard = _
    rw [ih hanswered.2, hfirst, List.flatMap_cons, Keyboard.afterAll, Keyboard.afterAll,
      Keyboard.afterAll, List.foldl_append]

/-! ## Keys that type a text -/

/-- A text that a key types is short enough to be inserted as often as can be typed. -/
theorem size_mul_repeats_le {key : Key} {text : Text} (h : key.text? = some text)
    (events : List Keyboard.Event) :
    text.size * Keyboard.repeats events ≤ Editing.maxInsertSize := by
  obtain ⟨c, rfl, -⟩ := key.exists_text_eq h
  have hsize : Text.size [c] ≤ 4 := c.utf8Size_le_four
  calc Text.size [c] * Keyboard.repeats events ≤ 4 * maxNumericArgument :=
        Nat.mul_le_mul hsize (Keyboard.repeats_le events)
    _ ≤ Editing.maxInsertSize := by decide

/-- A key that types a text inserts it as often as the keyboard says, if that is not too much. -/
theorem after_typing {s : Session} {key : Key} {text : Text} (hpress : key.motion ≠ .release)
    (htext : key.text? = some text)
    (hsize : text.size * s.editing.keyboard.times ≤ Editing.maxInsertSize) (terminal : Terminal) :
    Gives (.outcome .handled) ((Call.key key).run terminal s).1 ∧
      (s.after terminal (.key key)).editing.buffer =
        s.editing.buffer.insert (text.times s.editing.keyboard.times) ∧
      (s.after terminal (.key key)).editing.keyboard = {} := by
  have hresolve := Keyboard.resolve_of_text? hpress htext s.editing.keyboard
  generalize hn : s.editing.keyboard.times = n at hsize hresolve ⊢
  have haction : (Call.key key).action? s.editing.keyboard = some (.addText, n) := by
    rw [Call.action?, hresolve]
  have hreceived : s.editing.received (.key key) =
      { s.editing with keyboard := {}, staged := text } := by
    rw [Editing.received, hresolve]
  have hcalled : Editing.Called s.editing (.key key) ((Call.key key).run terminal s).1
      (s.after terminal (.key key)).editing := (Call.key key).run_called terminal s
  obtain ⟨hgives, heq⟩ := hcalled.eq_inserted haction (by rw [hreceived]; exact hsize)
  rw [heq, hreceived]
  exact ⟨hgives, rfl, rfl⟩

/-! ## The result -/

/-- Whatever happens to a keyboard, the number that it has is the one typed since anything else
happened, cut down once.  A key let go changes nothing; another key that is no digit acts as often as
that number says, but at least once, and uses it up.

So in a session in which the terminal has not failed a key that types a text is handled.  It inserts as
many copies of its character before the cursor, keeps the text after it, and is never turned down as
too much. -/
theorem typed_number_repeats_key :
    (∀ (events : List Keyboard.Event) (key : Key),
      let keyboard := Keyboard.afterAll {} events
      let n := Keyboard.repeats events
      keyboard.argument = (Keyboard.typedNumber events).map (min · 10000) ∧
        (key.motion = .release → keyboard.resolve key = (.ignored, keyboard)) ∧
        (key.motion ≠ .release → key.digit? = none →
          (∀ action, key.action? = some action → keyboard.resolve key = (.action action n, {})) ∧
          (∀ text, key.text? = some text → keyboard.resolve key = (.text text n, {})) ∧
          (key.action? = none → key.text? = none → keyboard.resolve key = (.unbound, {})))) ∧
    ∀ (config : Config) (calls : List (Terminal × Call)),
      (∀ step ∈ (ofConfig config).steps calls, step.IsAnswered) →
      ∀ (key : Key) (text : Text), key.motion ≠ .release → key.text? = some text →
        let s := (ofConfig config).afterAll calls
        let n := Keyboard.repeats (calls.flatMap fun call => call.2.keyboardEvents)
        1 ≤ n ∧ n ≤ 10000 ∧ text.size * n ≤ Editing.maxInsertSize ∧
        ∃ c, key.code.inserted? = some c ∧ ∀ terminal : Terminal,
          let result := ((Call.key key).run terminal s).1
          let e := (s.after terminal (.key key)).editing
          Gives (.outcome .handled) result ∧
            (terminal.Reliable → result = .ok (.outcome .handled)) ∧
            e.buffer.before = s.editing.buffer.before ++ List.replicate n c ∧
            e.buffer.after = s.editing.buffer.after ∧ e.keyboard = {} := by
  refine ⟨fun events key => ?_, fun config calls hanswered key text hpress htext => ?_⟩
  · intro keyboard n
    have htimes : keyboard.times = n := Keyboard.times_afterAll events
    refine ⟨Keyboard.argument_afterAll events, fun hrelease => ?_, fun hpress hdigit =>
      ⟨fun action haction => ?_, fun text htext => ?_, fun haction htext => ?_⟩⟩
    · rw [Keyboard.resolve, if_pos hrelease]
    · rw [Keyboard.resolve, if_neg hpress, hdigit, haction, htimes]
    · rw [Keyboard.resolve_of_text? hpress htext, htimes]
    · rw [Keyboard.resolve, if_neg hpress, hdigit, haction, htext]
  · intro s n
    have hkeyboard : s.editing.keyboard = Keyboard.afterAll {} _ := keyboard_afterAll hanswered
    have htimes : s.editing.keyboard.times = n := by rw [hkeyboard, Keyboard.times_afterAll]
    have hsize : text.size * n ≤ Editing.maxInsertSize := size_mul_repeats_le htext _
    refine ⟨Keyboard.one_le_repeats _, Keyboard.repeats_le _, hsize, ?_⟩
    obtain ⟨c, rfl, hinserted⟩ := key.exists_text_eq htext
    refine ⟨_, hinserted, fun terminal => ?_⟩
    rw [← htimes] at hsize
    obtain ⟨hgives, hbuffer, hused⟩ := after_typing hpress htext hsize terminal
    rw [Buffer.insert_replicate, htimes] at hbuffer
    refine ⟨hgives, fun hreliable => Call.run_eq_ok hreliable hgives, ?_, ?_, hused⟩
    · rw [hbuffer]
    · rw [hbuffer]

/-- A number with a leading zero, and a digit that is held and let go, before a carriage return, before
a motion, and before a key that means nothing. -/
theorem typed_number_repeats_key_with_leading_zero :
    let terminal := Faults.terminal {} 40
    let digit (c : Char) (motion : KeyMotion) : Key :=
      { code := .char c, modifiers := .altOnly, motion }
    let digits : List Key := [digit '0' .press, digit '1' .press, digit '2' .repeat_, digit '2' .release]
    let calls : List (Terminal × Call) :=
      (terminal, .text "ab".toList false) :: (terminal, .key { code := .left }) ::
        digits.map fun key => (terminal, .key key)
    let keyboard := Keyboard.afterAll {} (digits.map .key)
    let left : Key := { code := .left }
    let unbound : Key := { code := .function 5 }
    let key : Key := { code := .char '\r' }
    let s := (ofConfig {}).afterAll calls
    keyboard.argument = some 12 ∧ keyboard.resolve left = (.action .cursorLeft 12, {}) ∧
      keyboard.resolve unbound = (.unbound, {}) ∧
      (∀ step ∈ (ofConfig {}).steps calls, step.IsAnswered) ∧ key.motion ≠ .release ∧
      key.text? = some ['\r'] ∧
      ((Call.key key).run terminal s).1 = .ok (.outcome .handled) ∧
      (s.after terminal (.key key)).text = "a\n\n\n\n\n\n\n\n\n\n\n\nb".toList := by
  intro terminal digit digits calls keyboard left unbound key s
  have hreliable : terminal.Reliable := fun _ _ => rfl
  have hanswered : ∀ step ∈ (ofConfig {}).steps calls, step.IsAnswered :=
    (ofConfig {}).steps_isAnswered (by simp [calls, digits, hreliable])
  have hpress : key.motion ≠ .release := by decide
  have htext : key.text? = some ['\r'] := by decide
  obtain ⟨hargument, -, hleft⟩ := typed_number_repeats_key.1 (digits.map .key) left
  obtain ⟨-, -, hunbound⟩ := typed_number_repeats_key.1 (digits.map .key) unbound
  have hrepeats : Keyboard.repeats (digits.map .key) = 12 := by decide +kernel
  have htyped : Keyboard.typedNumber (digits.map .key) = some 12 := by decide +kernel
  rw [hrepeats] at hleft
  rw [htyped] at hargument
  obtain ⟨-, -, -, c, hc, hresult⟩ := typed_number_repeats_key.2 {} calls hanswered key ['\r'] hpress htext
  obtain rfl : '\n' = c := Option.some.inj hc
  obtain ⟨-, hhandled, hbefore, hafter, -⟩ := hresult terminal
  have hn : Keyboard.repeats (calls.flatMap fun call => call.2.keyboardEvents) = 12 := by
    decide +kernel
  have hleftOf : s.editing.buffer.before = "a".toList := by decide +kernel
  have hrightOf : s.editing.buffer.after = "b".toList := by decide +kernel
  rw [hn, hleftOf] at hbefore
  rw [hrightOf] at hafter
  refine ⟨hargument, (hleft (by decide) (by decide)).1 _ (by decide),
    (hunbound (by decide) (by decide)).2.2 (by decide) (by decide), hanswered, hpress, htext,
    hhandled hreliable, ?_⟩
  rw [Session.text, Buffer.text, hbefore, hafter]
  rfl

end Session

end LineEditor
