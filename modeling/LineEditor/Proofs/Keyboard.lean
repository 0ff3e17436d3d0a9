import LineEditor.Key
import Mathlib.Data.List.Induction
import Mathlib.Data.Nat.Digits.Defs

/-!
# Numbers typed before a key

A keyboard remembers the number typed so far, and cuts it down to the largest one at every digit.  This
comes to the same as reading the digits as one number, however long, and cutting that down once.

* Keys.  A key that types a text is neither a digit of a number nor bound to an action, and it types a
  single character; `text?_cases` lists these keys.
* Events.  `typedNumber` is the number typed in the events of a keyboard, and `typedNumber_concat` says
  what one more event makes of it.
* The keyboard.  `argument_afterAll` says that the keyboard has just that number, cut down, and
  `times_afterAll` how often the next key acts.
-/

namespace LineEditor

/-! ## Keys -/

/-- The character that a key inserts if it types a text. -/
def KeyCode.inserted? : KeyCode → Option Char
  | .char c => some (if c = '\r' then '\n' else c)
  | .tab => some '\t'
  | .enter => some '\n'
  | _ => none

namespace Key

variable {key : Key} {text : Text}

/-- The keys that type a text. -/
theorem text?_cases (h : key.text? = some text) :
    (∃ c, key.code = .char c ∧ text = [c] ∧ key.modifiers.isTyping = true) ∨
      (key.code = .tab ∧ text = ['\t']) ∨
      (key.code = .enter ∧ text = ['\n'] ∧ (key.modifiers.alt || key.modifiers.shift) = true) := by
  rw [text?] at h
  cases hcode : key.code with
  | char c =>
    rw [hcode] at h
    obtain ⟨htyping, htext⟩ := Option.ite_none_right_eq_some.1 h
    exact .inl ⟨c, rfl, (Option.some.inj htext).symm, htyping⟩
  | tab =>
    rw [hcode] at h
    obtain ⟨-, htext⟩ := Option.ite_none_right_eq_some.1 h
    exact .inr (.inl ⟨rfl, (Option.some.inj htext).symm⟩)
  | enter =>
    rw [hcode] at h
    obtain ⟨hheld, htext⟩ := Option.ite_none_right_eq_some.1 h
    exact .inr (.inr ⟨rfl, (Option.some.inj htext).symm, hheld⟩)
  | _ =>
    rw [hcode] at h
    exact absurd h nofun

/-- A key that types a text is no digit of a number. -/
theorem digit?_eq_none (h : key.text? = some text) : key.digit? = none := by
  rcases text?_cases h with ⟨c, hcode, -, htyping⟩ | ⟨hcode, -⟩ | ⟨hcode, -⟩
  · have hother : key.modifiers ≠ .altOnly := fun hmodifiers => by
      rw [hmodifiers] at htyping
      exact absurd htyping (by decide)
    rw [digit?, hcode]
    exact if_neg (by simp [hother])
  · rw [digit?, hcode]
  · rw [digit?, hcode]

/-- A key that types a text is bound to no action. -/
theorem action?_eq_none (h : key.text? = some text) : key.action? = none := by
  rcases text?_cases h with ⟨c, hcode, -, htyping⟩ | ⟨hcode, -⟩ | ⟨hcode, -, hheld⟩
  · have hother : ∀ m : Modifiers, m.isTyping = false → key.modifiers ≠ m := by
      rintro m hm rfl
      exact absurd (htyping.symm.trans hm) nofun
    rw [action?, hcode]
    dsimp only
    rw [letterAction?, if_neg (hother _ (by decide)), if_neg (hother _ (by decide))]
  · rw [action?, hcode]
  · have hother : key.modifiers ≠ .none := fun hmodifiers => by
      rw [hmodifiers] at hheld
      exact absurd hheld (by decide)
    rw [action?, hcode]
    exact if_neg hother

/-- The text is the single character that the key inserts, but for a carriage return. -/
theorem exists_text_eq (h : key.text? = some text) :
    ∃ c, text = [c] ∧ key.code.inserted? = some (if c = '\r' then '\n' else c) := by
  rcases text?_cases h with ⟨c, hcode, htext, -⟩ | ⟨hcode, htext⟩ | ⟨hcode, htext, -⟩
  · exact ⟨c, htext, by rw [hcode]; rfl⟩
  · exact ⟨'\t', htext, by rw [hcode]; rfl⟩
  · exact ⟨'\n', htext, by rw [hcode]; rfl⟩

end Key

/-! ## Events -/

namespace Keyboard

/-- What can happen to a keyboard. -/
inductive Event where
  | key (k : Key)
  /-- The keyboard forgets the number typed so far. -/
  | reset

/-- Whether a key was let go. -/
def Event.isRelease : Event → Bool
  | .key k => k.motion = .release
  | .reset => false

/-- The digit of a number that was typed. -/
def Event.digit? : Event → Option Nat
  | .key k => k.digit?
  | .reset => none

/-- The keyboard after an event. -/
def after (keyboard : Keyboard) : Event → Keyboard
  | .key k => (keyboard.resolve k).2
  | .reset => {}

/-- The keyboard after events. -/
def afterAll (keyboard : Keyboard) (events : List Event) : Keyboard :=
  events.foldl after keyboard

/-- The digits typed since anything else happened, the last one first.  Keys that were let go do not
count. -/
def recentDigits (events : List Event) : List Nat :=
  ((events.filter fun event => !event.isRelease).reverse.takeWhile
    fun event => event.digit?.isSome).filterMap Event.digit?

/-- The number that these digits make. -/
def typedNumber (events : List Event) : Option Nat :=
  match recentDigits events with
  | [] => none
  | digits => some (Nat.ofDigits 10 digits)

theorem recentDigits_concat (events : List Event) (event : Event) :
    recentDigits (events ++ [event]) =
      if event.isRelease then recentDigits events
      else match event.digit? with
        | some digit => digit :: recentDigits events
        | none => [] := by
  unfold recentDigits
  rw [List.filter_append]
  cases hrelease : event.isRelease with
  | true => simp [hrelease]
  | false =>
    cases hdigit : event.digit? with
    | some digit => simp [hrelease, hdigit]
    | none => simp [hrelease, hdigit]

/-- A digit is put behind the number typed so far, and everything else ends it. -/
theorem typedNumber_concat (events : List Event) (event : Event) :
    typedNumber (events ++ [event]) =
      if event.isRelease then typedNumber events
      else event.digit?.map fun digit => (typedNumber events).getD 0 * 10 + digit := by
  unfold typedNumber
  rw [recentDigits_concat]
  by_cases hrelease : event.isRelease = true
  · rw [if_pos hrelease, if_pos hrelease]
  · rw [if_neg hrelease, if_neg hrelease]
    cases event.digit? with
    | none => rfl
    | some digit =>
      dsimp only
      rw [Nat.ofDigits_cons, Option.map_some, Nat.add_comm, Nat.mul_comm]
      cases recentDigits events with
      | nil => rfl
      | cons _ _ => rfl

/-! ## The keyboard -/

/-- A key that is let go does nothing, a digit is put behind the number typed so far, and every other
key uses that number up. -/
theorem resolve_cases (keyboard : Keyboard) (key : Key) :
    (key.motion = .release ∧ keyboard.resolve key = (.ignored, keyboard)) ∨
      (key.motion ≠ .release ∧ ∃ digit, key.digit? = some digit ∧
        keyboard.resolve key = (.pending, keyboard.pushDigit digit)) ∨
      (key.motion ≠ .release ∧ key.digit? = none ∧ (keyboard.resolve key).2 = {}) := by
  unfold resolve
  by_cases hrelease : key.motion = .release
  · exact .inl ⟨hrelease, if_pos hrelease⟩
  · rw [if_neg hrelease]
    cases key.digit? with
    | some digit => exact .inr (.inl ⟨hrelease, digit, rfl, rfl⟩)
    | none =>
      refine .inr (.inr ⟨hrelease, rfl, ?_⟩)
      cases key.action? <;> cases key.text? <;> rfl

theorem argument_pushDigit {keyboard : Keyboard} {typed : Option Nat}
    (h : keyboard.argument = typed.map (min · maxNumericArgument)) (digit : Nat) :
    (keyboard.pushDigit digit).argument =
      some (min (typed.getD 0 * 10 + digit) maxNumericArgument) := by
  rw [pushDigit, h]
  cases typed with
  | none => rfl
  | some n =>
    show some (min (min n maxNumericArgument * 10 + digit) maxNumericArgument) = _
    unfold maxNumericArgument
    rw [Option.getD_some, Option.some.injEq]
    omega

/-- The keyboard has the number that was typed, or the largest one if that is less. -/
theorem argument_afterAll (events : List Event) :
    (afterAll {} events).argument = (typedNumber events).map (min · maxNumericArgument) := by
  induction events using List.reverseRecOn with
  | nil => rfl
  | append_singleton events event ih =>
    rw [afterAll, List.foldl_append, List.foldl_cons, List.foldl_nil, ← afterAll,
      typedNumber_concat]
    cases event with
    | reset => rfl
    | key k =>
      rw [after, Event.isRelease, Event.digit?]
      rcases resolve_cases (afterAll {} events) k with
        ⟨hrelease, hresolve⟩ | ⟨hpress, digit, hdigit, hresolve⟩ | ⟨hpress, hdigit, hused⟩
      · rw [hresolve, if_pos (decide_eq_true hrelease), ih]
      · rw [hresolve, if_neg (by simpa using hpress), hdigit]
        exact argument_pushDigit ih digit
      · rw [hused, if_neg (by simpa using hpress), hdigit]
        rfl

/-- How often a key acts after events: the number typed, cut down, but at least once. -/
def repeats (events : List Event) : Nat :=
  match typedNumber events with
  | none => 1
  | some n => max 1 (min n maxNumericArgument)

theorem times_afterAll (events : List Event) : (afterAll {} events).times = repeats events := by
  rw [times, argument_afterAll, repeats, Nat.max_comm]
  cases typedNumber events <;> rfl

theorem one_le_repeats (events : List Event) : 1 ≤ repeats events := by
  rw [← times_afterAll]
  exact Nat.le_max_right _ 1

theorem repeats_le (events : List Event) : repeats events ≤ maxNumericArgument := by
  have hone : 1 ≤ maxNumericArgument := by decide
  unfold repeats
  cases typedNumber events with
  | none => exact hone
  | some n => exact Nat.max_le.2 ⟨hone, Nat.min_le_right n _⟩

/-- A key that types a text uses up the number typed. -/
theorem resolve_of_text? {key : Key} {text : Text} (hpress : key.motion ≠ .release)
    (htext : key.text? = some text) (keyboard : Keyboard) :
    keyboard.resolve key = (.text text keyboard.times, {}) := by
  rw [resolve, if_neg hpress, Key.digit?_eq_none htext, Key.action?_eq_none htext, htext]

end Keyboard

end LineEditor
