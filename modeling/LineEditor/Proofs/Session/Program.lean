import LineEditor.Session.Call

/-!
# Programs on a session

A program on a session either returns or fails, and in both cases leaves a session behind.
`SessionM.Ends` speaks of both; its rules follow the way programs are put together.

* The rules (`Ends.bind`, `Ends.map`, …).
* Programs that only show the input.  They keep all but the width, the row of the cursor and the
  history (`Session.SameInput`), and they fail only if the terminal does (`OnlyShows`).
* What each of them gives: `screen_ends` says that the rows are those of the session left behind.
-/

namespace LineEditor

/-- The two sessions show an input in the same way. -/
structure Session.SameLook (s s' : Session) : Prop where
  prompts : s'.prompts = s.prompts
  mark : s'.mark = s.mark
  highlighter : s'.highlighter = s.highlighter

theorem Session.SameLook.trans {s s' s'' : Session} (h : s.SameLook s') (h' : s'.SameLook s'') :
    s.SameLook s'' :=
  ⟨h'.prompts.trans h.prompts, h'.mark.trans h.mark, h'.highlighter.trans h.highlighter⟩

/-- The two sessions have the same input, to be shown in the same way. -/
structure Session.SameInput (s s' : Session) : Prop extends s.SameLook s' where
  editing : s'.editing = s.editing

theorem Session.SameInput.refl (s : Session) : s.SameInput s :=
  ⟨⟨rfl, rfl, rfl⟩, rfl⟩

theorem Session.SameInput.trans {s s' s'' : Session} (h : s.SameInput s') (h' : s'.SameInput s'') :
    s.SameInput s'' :=
  ⟨h.toSameLook.trans h'.toSameLook, h'.editing.trans h.editing⟩

namespace SessionM

variable {α β : Type} {terminal : Terminal} {s : Session}

/-! ## Runs -/

/-- The program `x`, run on `s`, ends with a result and a session that fulfil `P`. -/
def Ends (x : SessionM α) (terminal : Terminal) (s : Session)
    (P : Except SessionError α → Session → Prop) : Prop :=
  P (x terminal s).1 (x terminal s).2

theorem bind_apply (x : SessionM α) (f : α → SessionM β) :
    (x >>= f) terminal s = match x terminal s with
      | (.ok a, s') => f a terminal s'
      | (.error e, s') => (.error e, s') := by
  show (match x terminal s with
    | (r, s') => (ExceptT.bindCont (fun a => f a terminal) r) s') = _
  rcases x terminal s with ⟨_ | _, _⟩ <;> rfl

theorem map_apply (f : α → β) (x : SessionM α) :
    (f <$> x) terminal s = ((x terminal s).1.map f, (x terminal s).2) := by
  rw [← bind_pure_comp, bind_apply]
  rcases x terminal s with ⟨_ | _, _⟩ <;> rfl

theorem get_apply : (get : SessionM Session) terminal s = (.ok s, s) :=
  rfl

/-- A change that is no misuse is made. -/
theorem edit_apply {change : Editing → Except Misuse (Bool × Editing)} {answer : Bool × Editing}
    (h : change s.editing = .ok answer) :
    edit change terminal s = (.ok answer.1, { s with editing := answer.2 }) := by
  unfold edit
  rw [bind_apply, get_apply]
  dsimp only
  rw [h]
  rfl

/-- A result that is a failure only if the terminal has failed. -/
def NoMisuse (r : Except SessionError α) : Prop :=
  ∀ e, r = .error e → ∃ error, e = .terminal error

theorem NoMisuse.of_ok (a : α) : NoMisuse (.ok a) :=
  nofun

/-- The failure of a first part is the failure of the whole. -/
theorem NoMisuse.of_error {e : SessionError} (h : NoMisuse (.error e : Except SessionError α)) :
    NoMisuse (.error e : Except SessionError β) := by
  intro e' he
  cases he
  exact h e rfl

theorem NoMisuse.map {r : Except SessionError α} (h : NoMisuse r) (f : α → β) :
    NoMisuse (r.map f) := by
  cases r with
  | ok a => exact .of_ok (f a)
  | error e => exact h.of_error

/-- The result is `a`, unless the terminal has failed. -/
def Gives (a : α) (r : Except SessionError α) : Prop :=
  r = .ok a ∨ ∃ error, r = .error (.terminal error)

theorem Gives.noMisuse {a : α} {r : Except SessionError α} (h : Gives a r) : NoMisuse r := by
  rcases h with rfl | ⟨error, rfl⟩
  · exact .of_ok a
  · exact fun _ he => ⟨error, (Except.error.inj he).symm⟩

theorem Gives.eq_of_ok {a b : α} (h : Gives a (.ok b)) : b = a := by
  rcases h with hok | ⟨error, herror⟩
  · exact Except.ok.inj hok
  · exact absurd herror nofun

theorem Gives.map {a : α} {r : Except SessionError α} (h : Gives a r) (f : α → β) :
    Gives (f a) (r.map f) := by
  rcases h with rfl | ⟨error, rfl⟩
  · exact .inl rfl
  · exact .inr ⟨error, rfl⟩

section Rules

variable {x : SessionM α} {P Q : Except SessionError α → Session → Prop}
  {R : Except SessionError β → Session → Prop}

theorem Ends.of_eq {r : Except SessionError α} {s' : Session} (hrun : x terminal s = (r, s'))
    (h : P r s') : Ends x terminal s P := by
  unfold Ends
  rw [hrun]
  exact h

theorem Ends.of_apply_eq {y : SessionM α} {s₁ : Session} (hrun : x terminal s = y terminal s₁)
    (h : Ends y terminal s₁ P) : Ends x terminal s P := by
  unfold Ends
  rw [hrun]
  exact h

theorem Ends.mono (h : Ends x terminal s P) (hPQ : ∀ r s', P r s' → Q r s') :
    Ends x terminal s Q :=
  hPQ _ _ h

theorem Ends.bind {f : α → SessionM β} (hx : Ends x terminal s P)
    (hok : ∀ a s', P (.ok a) s' → Ends (f a) terminal s' R)
    (herror : ∀ e s', P (.error e) s' → R (.error e) s') : Ends (x >>= f) terminal s R := by
  unfold Ends at hx ⊢
  rw [bind_apply]
  rcases hrun : x terminal s with ⟨e | a, s'⟩
  · rw [hrun] at hx
    exact herror e s' hx
  · rw [hrun] at hx
    exact hok a s' hx

theorem Ends.get_bind {f : Session → SessionM β} (h : Ends (f s) terminal s R) :
    Ends (get >>= f) terminal s R :=
  h

theorem Ends.modify_bind {g : Session → Session} {f : PUnit → SessionM β}
    (h : Ends (f ⟨⟩) terminal (g s) R) : Ends (modify g >>= f) terminal s R :=
  h

theorem Ends.map {f : α → β} (hx : Ends x terminal s P)
    (h : ∀ r s', P r s' → R (r.map f) s') : Ends (f <$> x) terminal s R := by
  unfold Ends at hx ⊢
  rw [map_apply]
  exact h _ _ hx

theorem Ends.ite {c : Prop} [Decidable c] {y : SessionM α} (hx : c → Ends x terminal s P)
    (hy : ¬c → Ends y terminal s P) : Ends (if c then x else y) terminal s P := by
  split
  · next h => exact hx h
  · next h => exact hy h

end Rules

/-! ## Programs that only show the input -/

/-- A program that keeps the input and how it is to be shown, and fails only if the terminal
does. -/
def OnlyShows (x : SessionM α) : Prop :=
  ∀ terminal s, Ends x terminal s fun r s' => s.SameInput s' ∧ NoMisuse r

theorem onlyShows_pure (a : α) : OnlyShows (pure a) :=
  fun _ s => ⟨.refl s, nofun⟩

theorem onlyShows_get : OnlyShows get :=
  fun _ s => ⟨.refl s, nofun⟩

theorem onlyShows_modify {f : Session → Session} (h : ∀ s, Session.SameInput s (f s)) :
    OnlyShows (modify f) :=
  fun _ s => ⟨h s, nofun⟩

theorem onlyShows_onTerminal (program : TerminalM α) : OnlyShows (onTerminal program) := by
  intro terminal s
  refine ⟨⟨⟨rfl, rfl, rfl⟩, rfl⟩, fun e he => ?_⟩
  have hresult : (onTerminal program terminal s).1 =
      (program terminal s.history).1.mapError SessionError.terminal := rfl
  rw [hresult] at he
  cases hprogram : (program terminal s.history).1 with
  | ok a =>
    rw [hprogram] at he
    exact absurd he nofun
  | error error =>
    rw [hprogram] at he
    exact ⟨error, (Except.error.inj he).symm⟩

theorem OnlyShows.bind {x : SessionM α} {f : α → SessionM β} (hx : OnlyShows x)
    (hf : ∀ a, OnlyShows (f a)) : OnlyShows (x >>= f) := by
  intro terminal s
  refine (hx terminal s).bind (fun a s' hs => ?_) (fun e s' hs => ⟨hs.1, hs.2.of_error⟩)
  exact (hf a terminal s').mono fun r s'' hs' => ⟨hs.1.trans hs'.1, hs'.2⟩

/-- A program goes on from the same input after a part that only shows it, or ends with it. -/
theorem OnlyShows.bind_ends {x : SessionM α} {f : α → SessionM β}
    {P : Except SessionError β → Session → Prop} (hx : OnlyShows x)
    (hok : ∀ a s', s.SameInput s' → Ends (f a) terminal s' P)
    (herror : ∀ error s', s.SameInput s' → P (.error (.terminal error)) s') :
    Ends (x >>= f) terminal s P := by
  refine (hx terminal s).bind (fun a s' hs => hok a s' hs.1) (fun e s' hs => ?_)
  obtain ⟨error, rfl⟩ := hs.2 e rfl
  exact herror error s' hs.1

theorem OnlyShows.ite {c : Prop} [Decidable c] {x y : SessionM α} (hx : OnlyShows x)
    (hy : OnlyShows y) : OnlyShows (if c then x else y) := by
  split
  · exact hx
  · exact hy

theorem onlyShows_request (r : Request) : OnlyShows (request r) :=
  onlyShows_onTerminal _

theorem onlyShows_ensureWidth : OnlyShows ensureWidth :=
  onlyShows_get.bind fun _ => .ite
    ((onlyShows_onTerminal _).bind fun _ => onlyShows_modify fun _ => ⟨⟨rfl, rfl, rfl⟩, rfl⟩)
    (onlyShows_pure _)

theorem onlyShows_screen : OnlyShows screen :=
  onlyShows_ensureWidth.bind fun _ => onlyShows_get.bind fun _ => onlyShows_pure _

theorem onlyShows_draw (clearFirst : Bool) : OnlyShows (draw clearFirst) :=
  onlyShows_screen.bind fun _ => onlyShows_get.bind fun _ =>
    (onlyShows_onTerminal _).bind fun _ => onlyShows_modify fun _ => ⟨⟨rfl, rfl, rfl⟩, rfl⟩

theorem onlyShows_redraw : OnlyShows redraw :=
  onlyShows_draw false

theorem onlyShows_resize : OnlyShows resize := by
  refine OnlyShows.bind (onlyShows_modify fun s => ?_) fun _ => onlyShows_redraw
  exact ⟨⟨rfl, rfl, rfl⟩, rfl⟩

theorem onlyShows_belowInput : OnlyShows belowInput :=
  onlyShows_screen.bind fun _ => onlyShows_pure _

theorem onlyShows_start : OnlyShows start :=
  (onlyShows_request _).bind fun _ => onlyShows_redraw

theorem onlyShows_finish : OnlyShows finish :=
  onlyShows_belowInput.bind fun _ => onlyShows_get.bind fun _ =>
    (onlyShows_request _).bind fun _ => onlyShows_modify fun _ => ⟨⟨rfl, rfl, rfl⟩, rfl⟩

/-- The rows on the screen are those of the session that asking for them leaves behind. -/
theorem screen_ends (terminal : Terminal) (s : Session) :
    Ends screen terminal s fun r s' =>
      s.SameInput s' ∧ NoMisuse r ∧ ∀ rows, r = .ok rows → rows = s'.rows := by
  refine (onlyShows_ensureWidth terminal s).bind (fun _ s' hs => ?_)
    (fun e s' hs => ⟨hs.1, hs.2.of_error, nofun⟩)
  exact ⟨hs.1, .of_ok _, fun rows hrows => (Except.ok.inj hrows).symm⟩

end SessionM

end LineEditor
