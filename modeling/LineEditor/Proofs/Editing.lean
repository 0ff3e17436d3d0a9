import LineEditor.Proofs.Buffer
import LineEditor.Session.Editing

/-!
# Editing

What an action does is said once, as a relation: `Editing.Does` has a case for each kind of action,
with all that is known of its result.  `exists_act_eq` says that an action always gives a result,
never a misuse, and that it either has done what the relation says or leaves the state alone.

* The kill ring: `rotate_perm`, the entries after `push` and `append`, and when there is a front entry
  (`front_ne_nil_iff`) or another one to rotate to (`rotate_ne_nil_iff`).
* Actions: `Does` and `exists_act_eq`.
* What actions leave aside: `Aside.act` says that a change of something that an action does not look at
  can as well be made after the action.
* The invariant `Sound`, which every action keeps (`Does.sound`): no carriage return in the text
  and in the ring, no empty entry in the ring, and a chain that fits the last action.
-/

namespace LineEditor

/-! ## The kill ring -/

namespace KillRing

/-- Rotating loses no entry and adds none. -/
theorem rotate_perm (ring : KillRing) : ring.rotate.2.entries.Perm ring.entries := by
  obtain ⟨entries⟩ := ring
  match entries with
  | [] => exact .refl _
  | [_] => exact .refl _
  | first :: second :: rest => exact List.perm_append_singleton first (second :: rest)

/-- What rotating returns is the new front entry. -/
theorem front_rotate {ring : KillRing} (h : ring.rotate.1 ≠ []) :
    ring.rotate.2.front = ring.rotate.1 := by
  obtain ⟨entries⟩ := ring
  match entries with
  | [] => exact absurd rfl h
  | [_] => exact absurd rfl h
  | _ :: _ :: _ => rfl

/-- The front entry, if there is one, is the first entry. -/
theorem head?_entries {ring : KillRing} (h : ring.front ≠ []) :
    ring.entries.head? = some ring.front := by
  obtain ⟨entries⟩ := ring
  cases entries with
  | nil => exact absurd rfl h
  | cons first rest => rfl

theorem front_mem {ring : KillRing} (h : ring.front ≠ []) : ring.front ∈ ring.entries :=
  List.mem_of_head? (head?_entries h)

/-- Without empty entries there is a front entry exactly if there is any. -/
theorem front_ne_nil_iff {ring : KillRing} (h : ∀ entry ∈ ring.entries, entry ≠ []) :
    ring.front ≠ [] ↔ ring.entries ≠ [] := by
  obtain ⟨entries⟩ := ring
  cases entries with
  | nil => exact ⟨fun hne => absurd rfl hne, fun hne => absurd rfl hne⟩
  | cons first rest =>
    exact ⟨fun _ => List.cons_ne_nil first rest, fun _ => h first List.mem_cons_self⟩

/-- Without empty entries a ring can be rotated exactly if there are two. -/
theorem rotate_ne_nil_iff {ring : KillRing} (h : ∀ entry ∈ ring.entries, entry ≠ []) :
    ring.rotate.1 ≠ [] ↔ 2 ≤ ring.entries.length := by
  obtain ⟨entries⟩ := ring
  match entries with
  | [] => exact ⟨fun hne => absurd rfl hne, fun hle => absurd hle (by decide)⟩
  | [_] => exact ⟨fun hne => absurd rfl hne, fun hle => absurd hle (by simp)⟩
  | first :: second :: rest =>
    exact ⟨fun _ => by simp, fun _ => h second (List.mem_cons_of_mem _ List.mem_cons_self)⟩

theorem mem_push {ring : KillRing} {text entry : Text} (h : entry ∈ (ring.push text).entries) :
    entry = text ∧ text ≠ [] ∨ entry ∈ ring.entries := by
  unfold push at h
  by_cases hempty : text.isEmpty = true
  · rw [if_pos hempty] at h
    exact .inr h
  · rw [if_neg hempty] at h
    rcases List.mem_cons.1 h with rfl | hmem
    · exact .inl ⟨rfl, by simpa using hempty⟩
    · exact .inr hmem

theorem mem_append {ring : KillRing} {text entry : Text} (h : entry ∈ (ring.append text).entries) :
    entry = text ∧ text ≠ [] ∨ (∃ front ∈ ring.entries, entry = front ++ text) ∨
      entry ∈ ring.entries := by
  unfold append at h
  split at h
  · exact (mem_push h).imp_right .inr
  · next front rest hentries =>
    rw [hentries]
    rcases List.mem_cons.1 h with rfl | hmem
    · exact .inr (.inl ⟨front, List.mem_cons_self, rfl⟩)
    · exact .inr (.inr (List.mem_cons_of_mem _ hmem))

end KillRing

namespace Editing

/-! ## What actions do -/

/-- The state after an action that was done `times` times. -/
inductive Does (e : Editing) (times : Nat) : Action → Editing → Prop
  /-- The cursor was moved.  Up or down it may have come to stand where it was. -/
  | moved {action : Action} {b : Buffer}
      (haction : action ∈ [.cursorLeft, .cursorRight, .cursorUp, .cursorDown])
      (htext : b.text = e.buffer.text)
      (hmoved : action ∈ [.cursorLeft, .cursorRight] → b ≠ e.buffer) :
      Does e times action { e with buffer := b }
  /-- Text was erased. -/
  | erased {action : Action} {b : Buffer} {cut : Text}
      (haction : action ∈ [.backspace, .delete]) (hcuts : e.buffer.Cuts cut b) (hcut : cut ≠ []) :
      Does e times action { e with buffer := b }
  /-- Text was moved to the ring. -/
  | killed {action : Action} {b : Buffer} {cut : Text} (haction : action.isKill = true)
      (hcuts : e.buffer.Cuts cut b) (hcut : cut ≠ []) : Does e times action (e.kill cut b)
  /-- The front entry of the ring was inserted. -/
  | yanked (hfront : e.ring.front ≠ []) : Does e times .yank (e.insertYanked e.ring.front)
  /-- The text between the ends of the last yank was exchanged for the new front entry. -/
  | popped {text left cut right : Text} {ring : KillRing} (hchain : e.chain = .yanked)
      (hrotate : e.ring.rotate = (text, ring)) (hne : text ≠ [])
      (htext : e.buffer.text = left ++ cut ++ right)
      (hleft : Position.endOf left =
        min (e.buffer.clamp e.yankExtent.start) (e.buffer.clamp e.yankExtent.stop))
      (hcut : Position.endOf (left ++ cut) =
        max (e.buffer.clamp e.yankExtent.start) (e.buffer.clamp e.yankExtent.stop)) :
      Does e times .popYank
        ({ e with buffer := { before := left, after := right }, ring }.insertYanked text)
  /-- The staged text was inserted. -/
  | inserted (hsize : e.staged.size * times ≤ maxInsertSize) :
      Does e times .addText
        { e with buffer := e.buffer.insert (e.staged.times times), staged := [] }

/-- The state after an action that was not done: an insertion gives up the staged text. -/
def refused (e : Editing) (action : Action) : Editing :=
  if action = .addText then { e with staged := [] } else e

/-- What an action answers fits what it has done. -/
def Answers (e : Editing) (times : Nat) (action : Action) (answer : Bool × Editing) : Prop :=
  (answer.1 = false ∧ answer.2 = e.refused action) ∨
    (answer.1 = true ∧ Does e times action answer.2)

/-- A change of the buffer is answered by the number of its units, and without units there is no
change. -/
theorem answers_changeBuffer {e : Editing} {times : Nat} {action : Action} {change : Nat × Buffer}
    (haction : action ≠ .addText) (hzero : change.1 = 0 → change.2 = e.buffer)
    (hdoes : change.1 ≠ 0 → Does e times action { e with buffer := change.2 }) :
    Answers e times action (e.changeBuffer change) := by
  by_cases h : change.1 = 0
  · left
    rw [refused, if_neg haction, changeBuffer, hzero h, h]
    exact ⟨rfl, rfl⟩
  · right
    exact ⟨decide_eq_true (Nat.pos_of_ne_zero h), hdoes h⟩

theorem answers_killBefore {e : Editing} {times n : Nat} {action : Action}
    (haction : action.isKill = true) (hpos : 0 < n) (hle : n ≤ e.buffer.before.length) :
    Answers e times action (true, e.killBefore n) :=
  .inr ⟨rfl, .killed haction (e.buffer.cuts_cutBefore n) (Buffer.cutBefore_ne_nil hpos hle)⟩

theorem answers_killAfter {e : Editing} {times n : Nat} {action : Action}
    (haction : action.isKill = true) (hpos : 0 < n) (hle : n ≤ e.buffer.after.length) :
    Answers e times action (true, e.killAfter n) :=
  .inr ⟨rfl, .killed haction (e.buffer.cuts_cutAfter n) (Buffer.cutAfter_ne_nil hpos hle)⟩

theorem answers_false {e : Editing} {times : Nat} {action : Action} (haction : action ≠ .addText) :
    Answers e times action (false, e) :=
  .inl ⟨rfl, (if_neg haction).symm⟩

theorem answers_killToLineEnd (e : Editing) (times : Nat) :
    Answers e times .killToLineEnd e.killToLineEnd := by
  obtain ⟨rest, hrest, -⟩ := e.buffer.after.exists_eq_firstLine_append
  have hlength := congrArg List.length hrest
  rw [List.length_append] at hlength
  unfold killToLineEnd
  split
  · exact answers_false nofun
  · next n hn => exact answers_killAfter rfl (Nat.pos_of_ne_zero hn) (by omega)

theorem answers_killToLineStart (e : Editing) (times : Nat) :
    Answers e times .killToLineStart e.killToLineStart := by
  obtain ⟨rest, hrest, -⟩ := e.buffer.before.exists_eq_append_lastLine
  have hlength := congrArg List.length hrest
  rw [List.length_append] at hlength
  unfold killToLineStart
  split
  · exact answers_false nofun
  · next n hn => exact answers_killBefore rfl (Nat.pos_of_ne_zero hn) (by omega)

theorem answers_killNextWord (e : Editing) (times : Nat) :
    Answers e times .killNextWord (e.killNextWord times) := by
  have hle := e.buffer.wordEnd_le times true .alphanumeric
  have hpos : (Buffer.wordWay .alphanumeric (e.buffer.ahead true) times).1 ≠ 0 → _ :=
    Buffer.wordWay_pos (e.buffer.ne_nil_of_mem_ahead true)
  unfold killNextWord
  unfold Buffer.wordEnd at hle ⊢
  cases hway : Buffer.wordWay .alphanumeric (e.buffer.ahead true) times with
  | mk met passed =>
    rw [hway] at hle hpos
    cases met with
    | zero => exact answers_false nofun
    | succ met => exact answers_killAfter rfl (hpos (Nat.succ_ne_zero met)) hle

theorem answers_killPreviousWord (e : Editing) (times : Nat) (cls : WordClass) {action : Action}
    (haction : action.isKill = true) :
    Answers e times action (e.killPreviousWord times cls) := by
  have hle := e.buffer.wordStart_le times true cls
  have hpos : (Buffer.wordWay cls (e.buffer.behind true) times).1 ≠ 0 → _ :=
    Buffer.wordWay_pos (e.buffer.ne_nil_of_mem_behind true)
  have hother : action ≠ .addText := by
    rintro rfl
    exact absurd haction nofun
  unfold killPreviousWord
  unfold Buffer.wordStart at hle ⊢
  cases hway : Buffer.wordWay cls (e.buffer.behind true) times with
  | mk met passed =>
    rw [hway] at hle hpos
    cases met with
    | zero => exact answers_false hother
    | succ met => exact answers_killBefore haction (hpos (Nat.succ_ne_zero met)) hle

theorem answers_yank (e : Editing) (times : Nat) : Answers e times .yank e.yank := by
  unfold yank
  by_cases hempty : e.ring.front = []
  · rw [if_pos (by rw [hempty]; rfl)]
    exact answers_false nofun
  · rw [if_neg (by simpa using hempty)]
    exact .inr ⟨rfl, .yanked hempty⟩

/-- Right after a yank, with another entry to come, the exchange goes through: both ends of the last
yank are put back into the text first, and what is left after the erasure has the position of the
first of them. -/
theorem exists_popYank_eq_true {e : Editing} (hchain : e.chain = .yanked)
    (hne : e.ring.rotate.1 ≠ []) (times : Nat) :
    ∃ e', e.popYank = .ok (true, e') ∧ Does e times .popYank e' := by
  unfold popYank
  rw [if_neg (not_not.2 hchain)]
  cases hrotate : e.ring.rotate with
  | mk text ring =>
    rw [hrotate] at hne
    dsimp only at hne ⊢
    rw [if_neg (by simpa using hne)]
    obtain ⟨left, cut, right, b, herase, htext, htext', hleft, hcut⟩ :=
      Buffer.exists_erase_eq (e.buffer.clamp_inLines e.yankExtent.start)
        (e.buffer.clamp_inLines e.yankExtent.stop)
    have hplace := Buffer.place_endOf htext'
    rw [hleft] at hplace
    let kept : Editing := { e with buffer := { before := left, after := right }, ring }
    refine ⟨kept.insertYanked text, ?_, .popped hchain hrotate hne htext hleft hcut⟩
    rw [herase]
    show (b.place _ >>= fun buffer => _) = _
    rw [hplace]
    rfl

theorem exists_popYank_eq (e : Editing) (times : Nat) :
    ∃ answer, e.popYank = .ok answer ∧ Answers e times .popYank answer := by
  by_cases hchain : e.chain = .yanked
  · by_cases hempty : e.ring.rotate.1 = []
    · refine ⟨(false, e), ?_, answers_false nofun⟩
      rw [popYank, if_neg (not_not.2 hchain)]
      exact if_pos (List.isEmpty_iff.2 hempty)
    · obtain ⟨e', heq, hdoes⟩ := exists_popYank_eq_true hchain hempty times
      exact ⟨(true, e'), heq, .inr ⟨rfl, hdoes⟩⟩
  · exact ⟨(false, e), if_pos hchain, answers_false nofun⟩

theorem answers_insertStaged (e : Editing) (times : Nat) :
    Answers e times .addText (e.insertStaged times) := by
  unfold insertStaged
  by_cases hsize : e.staged.size * times ≤ maxInsertSize
  · rw [if_pos hsize]
    exact .inr ⟨rfl, .inserted hsize⟩
  · rw [if_neg hsize]
    exact .inl ⟨rfl, rfl⟩

/-- An action always gives an answer, and the answer fits what it has done. -/
theorem exists_act_eq (e : Editing) (times : Nat) (action : Action) :
    ∃ answer, e.act times action = .ok answer ∧ Answers e times action answer := by
  cases action with
  | cursorLeft =>
    exact ⟨_, rfl, answers_changeBuffer nofun Buffer.moveLeft_eq_self fun h =>
      .moved (by decide) (Buffer.text_retreat _ _) fun _ => Buffer.moveLeft_ne h⟩
  | cursorRight =>
    exact ⟨_, rfl, answers_changeBuffer nofun Buffer.moveRight_eq_self fun h =>
      .moved (by decide) (Buffer.text_advance _ _) fun _ => Buffer.moveRight_ne h⟩
  | backspace =>
    exact ⟨_, rfl, answers_changeBuffer nofun Buffer.eraseBefore_eq_self fun h =>
      .erased (by decide) (Buffer.cuts_cutBefore _ _) (Buffer.cutBefore_ne_nil
        (Buffer.length_passed_pos (e.buffer.ne_nil_of_mem_behind true) h)
        (e.buffer.length_behind_le times true))⟩
  | delete =>
    exact ⟨_, rfl, answers_changeBuffer nofun Buffer.eraseAfter_eq_self fun h =>
      .erased (by decide) (Buffer.cuts_cutAfter _ _) (Buffer.cutAfter_ne_nil
        (Buffer.length_passed_pos (e.buffer.ne_nil_of_mem_ahead true) h)
        (e.buffer.length_ahead_le times true))⟩
  | killToLineEnd => exact ⟨_, rfl, answers_killToLineEnd e times⟩
  | killToLineStart => exact ⟨_, rfl, answers_killToLineStart e times⟩
  | killNextWord => exact ⟨_, rfl, answers_killNextWord e times⟩
  | killPreviousWord => exact ⟨_, rfl, answers_killPreviousWord e times _ rfl⟩
  | killPreviousSpaceDelimitedWord => exact ⟨_, rfl, answers_killPreviousWord e times _ rfl⟩
  | yank => exact ⟨_, rfl, answers_yank e times⟩
  | popYank => exact exists_popYank_eq e times
  | addText => exact ⟨_, rfl, answers_insertStaged e times⟩
  | idle => exact ⟨_, rfl, answers_false nofun⟩
  | cursorUp => exact ⟨_, rfl, answers_false nofun⟩
  | cursorDown => exact ⟨_, rfl, answers_false nofun⟩
  | acceptInput => exact ⟨_, rfl, answers_false nofun⟩
  | endInput => exact ⟨_, rfl, answers_false nofun⟩
  | abortLine => exact ⟨_, rfl, answers_false nofun⟩
  | clearScreen => exact ⟨_, rfl, answers_false nofun⟩

/-! ## What actions leave aside -/

/-- A change of something that no action but a yank looks at or changes. -/
structure Aside (f : Editing → Editing) : Prop where
  buffer : ∀ e, (f e).buffer = e.buffer
  ring : ∀ e, (f e).ring = e.ring
  staged : ∀ e, (f e).staged = e.staged
  chain : ∀ e, (f e).chain = e.chain
  commutes : ∀ e buffer ring staged,
    f { e with buffer, ring, staged } = { f e with buffer, ring, staged }

section

variable {f : Editing → Editing}

theorem Aside.changeBuffer (h : Aside f) (e : Editing) (change : Nat × Buffer) :
    (f e).changeBuffer change = ((e.changeBuffer change).1, f (e.changeBuffer change).2) := by
  have hcommutes := h.commutes e change.2 e.ring e.staged
  unfold Editing.changeBuffer
  rw [hcommutes, h.ring, h.staged]

theorem Aside.kill (h : Aside f) (e : Editing) (killed : Text) (buffer : Buffer) :
    (f e).kill killed buffer = f (e.kill killed buffer) := by
  have hcommutes := h.commutes e buffer
    (if e.chain = .killing then e.ring.append killed else e.ring.push killed) e.staged
  unfold Editing.kill
  rw [hcommutes]
  dsimp only
  rw [h.chain, h.ring, h.staged]

theorem Aside.killBefore (h : Aside f) (e : Editing) (n : Nat) :
    (f e).killBefore n = f (e.killBefore n) := by
  unfold Editing.killBefore
  rw [h.buffer]
  exact h.kill e _ _

theorem Aside.killAfter (h : Aside f) (e : Editing) (n : Nat) :
    (f e).killAfter n = f (e.killAfter n) := by
  unfold Editing.killAfter
  rw [h.buffer]
  exact h.kill e _ _

theorem Aside.killPreviousWord (h : Aside f) (e : Editing) (times : Nat) (cls : WordClass) :
    (f e).killPreviousWord times cls =
      ((e.killPreviousWord times cls).1, f (e.killPreviousWord times cls).2) := by
  unfold Editing.killPreviousWord
  rw [h.buffer]
  rcases e.buffer.wordStart times true cls with ⟨_ | met, passed⟩
  · rfl
  · exact congrArg (Prod.mk true) (h.killBefore e passed)

theorem Aside.insertStaged (h : Aside f) (e : Editing) (times : Nat) :
    (f e).insertStaged times = ((e.insertStaged times).1, f (e.insertStaged times).2) := by
  have hinserted := h.commutes e (e.buffer.insert (e.staged.times times)) e.ring []
  have hrefused := h.commutes e e.buffer e.ring []
  unfold Editing.insertStaged
  rw [h.staged, h.buffer]
  split
  · rw [hinserted, h.ring]
  · rw [hrefused, h.ring]

/-- Actions other than yanks have nothing to do with what they leave aside. -/
theorem Aside.act (h : Aside f) {action : Action} (hyank : action.isYank = false) (e : Editing)
    (times : Nat) :
    (f e).act times action = (e.act times action).map fun a => (a.1, f a.2) := by
  have hchange : ∀ change : Nat × Buffer, Except.ok (ε := Misuse) ((f e).changeBuffer change) =
      .ok ((e.changeBuffer change).1, f (e.changeBuffer change).2) := fun change =>
    congrArg Except.ok (h.changeBuffer e change)
  cases action with
  | cursorLeft | cursorRight | backspace | delete =>
    unfold Editing.act
    rw [h.buffer]
    exact hchange _
  | killToLineEnd =>
    unfold Editing.act killToLineEnd
    rw [h.buffer]
    cases e.buffer.after.firstLine.length with
    | zero => rfl
    | succ n => exact congrArg (fun e => Except.ok (true, e)) (h.killAfter e _)
  | killToLineStart =>
    unfold Editing.act killToLineStart
    rw [h.buffer]
    cases e.buffer.before.lastLine.length with
    | zero => rfl
    | succ n => exact congrArg (fun e => Except.ok (true, e)) (h.killBefore e _)
  | killNextWord =>
    unfold Editing.act killNextWord
    rw [h.buffer]
    rcases e.buffer.wordEnd times true .alphanumeric with ⟨_ | met, passed⟩
    · rfl
    · exact congrArg (fun e => Except.ok (true, e)) (h.killAfter e _)
  | killPreviousWord => exact congrArg Except.ok (h.killPreviousWord e times _)
  | killPreviousSpaceDelimitedWord => exact congrArg Except.ok (h.killPreviousWord e times _)
  | addText => exact congrArg Except.ok (h.insertStaged e times)
  | yank => simp [Action.isYank] at hyank
  | popYank => simp [Action.isYank] at hyank
  | _ => rfl

end

/-! ## The invariant -/

/-- What holds of what is edited, and of what is remembered, whatever has been done. -/
structure Sound (e : Editing) : Prop where
  text : '\r' ∉ e.buffer.text
  ring : ∀ entry ∈ e.ring.entries, entry ≠ [] ∧ '\r' ∉ entry
  chain : e.chain = .after e.lastAction

theorem Sound.front_ne_nil_iff {e : Editing} (h : e.Sound) :
    e.ring.front ≠ [] ↔ e.ring.entries ≠ [] :=
  KillRing.front_ne_nil_iff fun entry hentry => (h.ring entry hentry).1

theorem Sound.rotate_ne_nil_iff {e : Editing} (h : e.Sound) :
    e.ring.rotate.1 ≠ [] ↔ 2 ≤ e.ring.entries.length :=
  KillRing.rotate_ne_nil_iff fun entry hentry => (h.ring entry hentry).1

theorem Sound.return_notMem_front {e : Editing} (h : e.Sound) : '\r' ∉ e.ring.front := by
  by_cases hfront : e.ring.front = []
  · rw [hfront]
    exact List.not_mem_nil
  · exact (h.ring _ (KillRing.front_mem hfront)).2

theorem Sound.return_notMem_rotate {e : Editing} (h : e.Sound) : '\r' ∉ e.ring.rotate.1 := by
  by_cases hnext : e.ring.rotate.1 = []
  · rw [hnext]
    exact List.not_mem_nil
  · have hfront : e.ring.rotate.2.front = e.ring.rotate.1 := KillRing.front_rotate hnext
    have hmem : e.ring.rotate.1 ∈ e.ring.rotate.2.entries := by
      rw [← hfront] at hnext ⊢
      exact KillRing.front_mem hnext
    exact (h.ring _ (e.ring.rotate_perm.mem_iff.1 hmem)).2

theorem sound_initial : initial.Sound where
  text := nofun
  ring := nofun
  chain := rfl

theorem Sound.reset {e : Editing} (h : e.Sound) : e.reset.Sound where
  text := nofun
  ring := h.ring
  chain := rfl

theorem Sound.record {e : Editing} (h : e.Sound) (action : Action) : (e.record action).Sound where
  text := h.text
  ring := h.ring
  chain := rfl

theorem Sound.insertYanked {e : Editing} (h : e.Sound) (text : Text) :
    (e.insertYanked text).Sound where
  text := Buffer.return_notMem_insert h.text text
  ring := h.ring
  chain := h.chain

theorem Sound.kill {e : Editing} (h : e.Sound) {b : Buffer} {cut : Text}
    (hcuts : e.buffer.Cuts cut b) : (e.kill cut b).Sound where
  text := fun hmem => h.text (hcuts.mem_of_mem_text hmem)
  ring := by
    have hcut : '\r' ∉ cut := fun hmem => h.text (hcuts.mem_of_mem_cut hmem)
    intro entry hentry
    by_cases hchain : e.chain = .killing
    · rw [Editing.kill, if_pos hchain] at hentry
      rcases KillRing.mem_append hentry with ⟨rfl, hne⟩ | ⟨front, hfront, rfl⟩ | hold
      · exact ⟨hne, hcut⟩
      · obtain ⟨hne, hclean⟩ := h.ring front hfront
        exact ⟨List.append_ne_nil_of_left_ne_nil hne cut, by simp [hclean, hcut]⟩
      · exact h.ring entry hold
    · rw [Editing.kill, if_neg hchain] at hentry
      rcases KillRing.mem_push hentry with ⟨rfl, hne⟩ | hold
      · exact ⟨hne, hcut⟩
      · exact h.ring entry hold
  chain := h.chain

theorem Sound.refused {e : Editing} (h : e.Sound) (action : Action) : (e.refused action).Sound := by
  unfold Editing.refused
  split
  · exact ⟨h.text, h.ring, h.chain⟩
  · exact h

/-- Every action keeps the invariant. -/
theorem Does.sound {e e' : Editing} {times : Nat} {action : Action} (h : Does e times action e')
    (hsound : e.Sound) : e'.Sound := by
  cases h with
  | moved _ htext _ => exact ⟨by rw [htext]; exact hsound.text, hsound.ring, hsound.chain⟩
  | erased _ hcuts _ =>
    exact ⟨fun hmem => hsound.text (hcuts.mem_of_mem_text hmem), hsound.ring, hsound.chain⟩
  | killed _ hcuts _ => exact hsound.kill hcuts
  | yanked _ => exact hsound.insertYanked _
  | @popped text left cut right ring _ hrotate _ htext _ _ =>
    have hkept : Sound { e with buffer := { before := left, after := right }, ring } := by
      refine ⟨fun hmem => hsound.text ?_, fun entry hentry => hsound.ring entry ?_, hsound.chain⟩
      · rw [htext]
        exact (List.mem_append.1 hmem).elim
          (fun hleft => List.mem_append_left _ (List.mem_append_left _ hleft))
          (fun hright => List.mem_append_right _ hright)
      · have hperm := e.ring.rotate_perm
        rw [hrotate] at hperm
        exact hperm.mem_iff.1 hentry
    exact hkept.insertYanked text
  | inserted _ =>
    exact ⟨Buffer.return_notMem_insert hsound.text _, hsound.ring, hsound.chain⟩

theorem Answers.sound {e : Editing} {times : Nat} {action : Action} {answer : Bool × Editing}
    (h : Answers e times action answer) (hsound : e.Sound) : answer.2.Sound := by
  rcases h with ⟨-, heq⟩ | ⟨-, hdoes⟩
  · rw [heq]
    exact hsound.refused action
  · exact hdoes.sound hsound

end Editing

end LineEditor
