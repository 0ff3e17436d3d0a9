import LineEditor.Proofs.Session.Calls

/-!
# Where the last yank stands

The place of the last yank is looked at only to exchange its text, so it makes no difference while the
last action was no yank.

* Results (`Related`).
* States.  `SameBut` allows two states to differ in the place of the last yank, as long as nothing can
  be exchanged there; what a call takes in, and what is remembered of other actions, keep it so.
* Actions.  `SameBut.act` says that an action does the same on both states.
-/

namespace LineEditor

/-! ## Results -/

/-- Two results that are the same failure, or related by `R`. -/
inductive Related {ε α β : Type} (R : α → β → Prop) : Except ε α → Except ε β → Prop
  | ok {a : α} {b : β} (h : R a b) : Related R (.ok a) (.ok b)
  | error (e : ε) : Related R (.error e) (.error e)

theorem Related.eq {ε α : Type} {r r' : Except ε α} (h : Related (· = ·) r r') : r = r' := by
  cases h with
  | ok h => rw [h]
  | error e => rfl

theorem Related.map {ε α β γ δ : Type} {R : α → β → Prop} {S : γ → δ → Prop}
    {r : Except ε α} {r' : Except ε β} (h : Related R r r') {f : α → γ} {g : β → δ}
    (hf : ∀ a b, R a b → S (f a) (g b)) : Related S (r.map f) (r'.map g) := by
  cases h with
  | ok h => exact .ok (hf _ _ h)
  | error e => exact .error e

namespace Editing

/-! ## States -/

/-- The two states are the same; or, unless they are to be exactly the same, they differ in where the
last yank stands, and the last action was no yank. -/
def SameBut (exact : Prop) (e e' : Editing) : Prop :=
  e' = e ∨ ¬exact ∧ e.chain ≠ .yanked ∧ ∃ extent, e' = { e with yankExtent := extent }

variable {exact : Prop} {e e' : Editing}

theorem SameBut.buffer (h : SameBut exact e e') : e'.buffer = e.buffer := by
  rcases h with rfl | ⟨-, -, extent, rfl⟩ <;> rfl

theorem SameBut.keyboard (h : SameBut exact e e') : e'.keyboard = e.keyboard := by
  rcases h with rfl | ⟨-, -, extent, rfl⟩ <;> rfl

/-- A change that has nothing to do with the last yank. -/
theorem SameBut.change {f : Editing → Editing}
    (hf : ∀ e extent, f { e with yankExtent := extent } = { f e with yankExtent := extent })
    (hchain : ∀ e, e.chain ≠ .yanked → (f e).chain ≠ .yanked) (h : SameBut exact e e') :
    SameBut exact (f e) (f e') := by
  rcases h with rfl | ⟨hexact, hyank, extent, rfl⟩
  · exact .inl rfl
  · exact .inr ⟨hexact, hchain e hyank, extent, hf e extent⟩

theorem SameBut.record (h : SameBut exact e e') {action : Action} (hyank : action.isYank = false) :
    SameBut exact (e.record action) (e'.record action) := by
  refine h.change (f := (Editing.record · action)) (fun _ _ => rfl) fun e _ => ?_
  show Chain.after action ≠ .yanked
  cases action <;> simp [Chain.after, Action.isKill, Action.isYank] at hyank ⊢

theorem SameBut.received (h : SameBut exact e e') (call : Call) :
    SameBut exact (e.received call) (e'.received call) := by
  refine h.change (f := (Editing.received · call)) (fun e extent => ?_) fun e hchain => ?_
  · cases call <;> rfl
  · cases call with
    | reset => exact nofun
    | _ => exact hchain

/-! ## Actions -/

theorem aside_yankExtent (extent : YankExtent) : Aside ({ · with yankExtent := extent }) :=
  ⟨fun _ => rfl, fun _ => rfl, fun _ => rfl, fun _ => rfl, fun _ _ _ _ => rfl⟩

/-- What an action has given on both states: the same answer, and states that are the same but for the
last yank once the action is remembered, if it is. -/
def ActsAlike (exact : Prop) (action : Action) (a a' : Bool × Editing) : Prop :=
  a'.1 = a.1 ∧ SameBut exact (if a.1 then a.2.record action else a.2)
    (if a.1 then a'.2.record action else a'.2)

/-- An action by itself leaves the chain alone. -/
theorem Answers.chain_eq {times : Nat} {action : Action} {answer : Bool × Editing}
    (h : Answers e times action answer) : answer.2.chain = e.chain := by
  rcases h with ⟨-, heq⟩ | ⟨-, hdoes⟩
  · rw [heq]
    exact (e.refused_agrees action).chain
  · generalize answer.2 = e₁ at hdoes
    cases hdoes <;> rfl

/-- An action does the same on both states. -/
theorem SameBut.act (h : SameBut exact e e') (times : Nat) (action : Action) :
    Related (ActsAlike exact action) (e.act times action) (e'.act times action) := by
  obtain ⟨answer, hact, hanswer⟩ := exists_act_eq e times action
  rcases h with rfl | ⟨hexact, hchain, extent, rfl⟩
  · rw [hact]
    exact .ok ⟨rfl, .inl rfl⟩
  have hdiffers : SameBut exact e { e with yankExtent := extent } :=
    .inr ⟨hexact, hchain, extent, rfl⟩
  cases action with
  | yank =>
    -- a yank says anew where its text stands
    show Related _ (Except.ok (yank e)) (Except.ok (yank { e with yankExtent := extent }))
    unfold yank
    by_cases hempty : e.ring.front.isEmpty = true
    · rw [if_pos hempty, if_pos hempty]
      exact .ok ⟨rfl, hdiffers⟩
    · rw [if_neg hempty, if_neg hempty]
      exact .ok ⟨rfl, .inl rfl⟩
  | popYank =>
    show Related _ (popYank e) (popYank { e with yankExtent := extent })
    rw [popYank, popYank, if_pos hchain, if_pos hchain]
    exact .ok ⟨rfl, hdiffers⟩
  | _ =>
    rw [(aside_yankExtent extent).act rfl e times, hact]
    obtain ⟨done, e₁⟩ := answer
    have hsame : SameBut exact e₁ { e₁ with yankExtent := extent } :=
      .inr ⟨hexact, hanswer.chain_eq ▸ hchain, extent, rfl⟩
    cases done with
    | false => exact .ok ⟨rfl, hsame⟩
    | true => exact .ok ⟨rfl, hsame.record rfl⟩

end Editing

end LineEditor
