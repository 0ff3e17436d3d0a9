import LineEditor.Proofs.Clamp
import LineEditor.Proofs.Session.Soundness
import LineEditor.Terminal.Fault

/-!
# Yanked text

A yank remembers only two positions, and an exchange trusts them.  Between the two calls the host may
ask for anything that leaves the chain alone, so what the positions stand for is an invariant of
runs.

* What a yank does.  `Editing.Yanks` and `Editing.Exchanges` say what a yank and an exchange do to
  what is edited, and `Called.yank_cases` and `Called.popYank_cases` when they are done.
* The invariant.  `Editing.FrontStands` says that the front entry of the ring stands between the two
  positions, right before the cursor; `Called.frontStands` says that a call keeps it while the text
  just yanked may be exchanged, unless the call replaces the input.
* The results.  `yanked_front_stands` says both for all runs.  `popYank_exchanges` says what an exchange
  does to the text: it puts both positions back to the start of their cluster, so it takes out just
  the text that was yanked only if both lie between two clusters.  `popYank_takes_typed_text` is an
  exchange that takes out more.
-/

namespace LineEditor

open SessionM

theorem Action.isYank_iff {action : Action} :
    action.isYank = true ↔ action = .yank ∨ action = .popYank := by
  cases action <;> decide

theorem Chain.after_eq_yanked_iff {action : Action} :
    Chain.after action = .yanked ↔ action.isYank = true := by
  cases action <;> decide

namespace Editing

variable {e e' e'' : Editing} {call : Call} {action : Action} {times : Nat}
  {r : Except SessionError Answer}

/-! ## What a yank does -/

/-- The front entry of the ring is inserted, and it is remembered where it stands. -/
structure Yanks (e e' : Editing) : Prop where
  front : e.ring.front ≠ []
  ring : e'.ring = e.ring
  buffer : e'.buffer = e.buffer.insert e.ring.front
  yankExtent : e'.yankExtent = { start := e.buffer.cursor, stop := e'.buffer.cursor }

/-- The text between the ends of the last yank, both put back into the text, is exchanged for the
next entry of the ring, and it is remembered where that stands. -/
structure Exchanges (e e' : Editing) : Prop where
  chain : e.chain = .yanked
  next : e.ring.rotate.1 ≠ []
  ring : e'.ring = e.ring.rotate.2
  parts : ∃ left cut right, e.buffer.text = left ++ cut ++ right ∧
    Position.endOf left =
      min (e.buffer.clamp e.yankExtent.start) (e.buffer.clamp e.yankExtent.stop) ∧
    Position.endOf (left ++ cut) =
      max (e.buffer.clamp e.yankExtent.start) (e.buffer.clamp e.yankExtent.stop) ∧
    e'.buffer = Buffer.insert { before := left, after := right } e.ring.rotate.1 ∧
    e'.yankExtent = { start := .endOf left, stop := e'.buffer.cursor }

theorem Agrees.yanks (h : e.Agrees e') (hyanks : e'.Yanks e'') : e.Yanks e'' := by
  obtain ⟨hfront, hring, hbuffer, hextent⟩ := hyanks
  rw [h.ring] at hfront hring hbuffer
  rw [h.buffer] at hbuffer hextent
  exact ⟨hfront, hring, hbuffer, hextent⟩

theorem Agrees.exchanges (h : e.Agrees e') (hexchanges : e'.Exchanges e'') : e.Exchanges e'' := by
  obtain ⟨hchain, hnext, hring, hparts⟩ := hexchanges
  rw [h.chain] at hchain
  rw [h.ring] at hnext hring hparts
  rw [h.buffer, h.yankExtent] at hparts
  exact ⟨hchain, hnext, hring, hparts⟩

theorem Does.yanks (h : Does e times .yank e') : e.Yanks e' := by
  cases h with
  | yanked hfront => exact ⟨hfront, rfl, rfl, rfl⟩
  | moved hmem _ _ => exact absurd hmem (by decide)
  | erased hmem _ _ => exact absurd hmem (by decide)
  | killed hkill _ _ => exact absurd hkill nofun

theorem Does.exchanges (h : Does e times .popYank e') : e.Exchanges e' := by
  cases h with
  | popped hchain hrotate hne htext hleft hcut =>
    refine ⟨hchain, ?_, ?_, _, _, _, htext, hleft, hcut, ?_, rfl⟩
    all_goals rw [hrotate]
    · exact hne
    · rfl
    · rfl
  | moved hmem _ _ => exact absurd hmem (by decide)
  | erased hmem _ _ => exact absurd hmem (by decide)
  | killed hkill _ _ => exact absurd hkill nofun

/-- A yank is turned down if there is no front entry, and done otherwise. -/
theorem Called.yank_cases (h : Called e call r e')
    (haction : call.action? e.keyboard = some (.yank, times)) :
    (e.ring.front = [] ∧ Gives (.outcome .couldNotPerform) r ∧ e.Agrees e') ∨
      (e.Yanks e' ∧ Gives (.outcome .handled) r ∧ e'.chain = .yanked) := by
  have hreceived := received_agrees_of_action? haction
  rcases h.refused_or_done haction nofun with ⟨hact, ⟨outcome, hmem, hr⟩, hagrees⟩ |
    ⟨e₁, hdoes, hr, rfl⟩
  · rw [List.mem_singleton.1 hmem] at hr
    refine .inl ⟨by_contra fun hfront => ?_, hr, hagrees⟩
    have hyank : (e.received call).act times .yank =
        .ok (true, (e.received call).insertYanked e.ring.front) := by
      rw [act, yank, hreceived.ring, if_neg (by simpa using hfront)]
    have hanswer : true = false := congrArg Prod.fst (Except.ok.inj (hyank.symm.trans hact))
    cases hanswer
  · obtain ⟨hfront, hring, hbuffer, hextent⟩ := hreceived.yanks hdoes.yanks
    exact .inr ⟨⟨hfront, hring, hbuffer, hextent⟩, hr, rfl⟩

/-- An exchange is turned down unless text was just yanked and there is another entry to come, and
done otherwise. -/
theorem Called.popYank_cases (h : Called e call r e')
    (haction : call.action? e.keyboard = some (.popYank, times)) :
    (¬(e.chain = .yanked ∧ e.ring.rotate.1 ≠ []) ∧ Gives (.outcome .couldNotPerform) r ∧
        e.Agrees e') ∨
      (e.Exchanges e' ∧ Gives (.outcome .handled) r ∧ e'.chain = .yanked) := by
  have hreceived := received_agrees_of_action? haction
  rcases h.refused_or_done haction nofun with ⟨hact, ⟨outcome, hmem, hr⟩, hagrees⟩ |
    ⟨e₁, hdoes, hr, rfl⟩
  · rw [List.mem_singleton.1 hmem] at hr
    refine .inl ⟨fun ⟨hchain, hnext⟩ => ?_, hr, hagrees⟩
    rw [← hreceived.chain] at hchain
    rw [← hreceived.ring] at hnext
    obtain ⟨e₁, hpop, -⟩ := exists_popYank_eq_true hchain hnext times
    have hanswer : true = false := congrArg Prod.fst (Except.ok.inj (hpop.symm.trans hact))
    cases hanswer
  · obtain ⟨hchain, hnext, hring, hparts⟩ := hreceived.exchanges hdoes.exchanges
    exact .inr ⟨⟨hchain, hnext, hring, hparts⟩, hr, rfl⟩

/-! ## The invariant -/

/-- The front entry of the ring stands right before the cursor, between the ends of the last
yank. -/
def FrontStands (e : Editing) : Prop :=
  e.ring.front ≠ [] ∧ ∃ left, e.buffer.before = left ++ e.ring.front ∧
    e.yankExtent = { start := .endOf left, stop := e.buffer.cursor }

theorem Agrees.frontStands (h : e.Agrees e') (hstands : e.FrontStands) : e'.FrontStands := by
  unfold FrontStands at hstands ⊢
  rw [h.ring, h.buffer, h.yankExtent]
  exact hstands

theorem Yanks.frontStands (h : e.Yanks e') (hclean : '\r' ∉ e.ring.front) : e'.FrontStands := by
  refine ⟨?_, e.buffer.before, ?_, h.yankExtent⟩
  · rw [h.ring]
    exact h.front
  · rw [h.buffer, Buffer.insert_eq hclean, h.ring]

theorem Exchanges.frontStands (h : e.Exchanges e') (hclean : '\r' ∉ e.ring.rotate.1) :
    e'.FrontStands := by
  obtain ⟨left, -, right, -, -, -, hbuffer, hextent⟩ := h.parts
  have hfront : e'.ring.front = e.ring.rotate.1 := by
    rw [h.ring, KillRing.front_rotate h.next]
  refine ⟨?_, left, ?_, hextent⟩
  · rw [hfront]
    exact h.next
  · rw [hbuffer, Buffer.insert_eq hclean, hfront]

/-- A yank and an exchange leave the front entry where they have put it. -/
theorem Does.frontStands (h : Does e times action e') (haction : action.isYank = true)
    (hsound : e.Sound) : e'.FrontStands := by
  rcases Action.isYank_iff.1 haction with rfl | rfl
  · exact h.yanks.frontStands hsound.return_notMem_front
  · exact h.exchanges.frontStands hsound.return_notMem_rotate

/-- A call keeps the front entry where it stands, as long as the text just yanked may be
exchanged. -/
theorem Called.frontStands (h : Called e call r e') (hset : ∀ text, call ≠ .setText text)
    (hsound : e.Sound) (hstands : e.chain = .yanked → e.FrontStands)
    (hchain : e'.chain = .yanked) : e'.FrontStands := by
  cases h with
  | received _ _ _ =>
    have hreset : call ≠ .reset := by
      rintro rfl
      exact absurd hchain nofun
    have hagrees := e.received_agrees hset hreset
    exact hagrees.frontStands (hstands (hagrees.chain.symm.trans hchain))
  | @refused action _ _ haction _ _ =>
    have hagrees := (received_agrees_of_action? haction).trans (refused_agrees _ action)
    exact hagrees.frontStands (hstands (hagrees.chain.symm.trans hchain))
  | aborted _ _ => exact absurd hchain nofun
  | @done action _ _ _ _ hdoes _ =>
    have hyank : action.isYank = true := Chain.after_eq_yanked_iff.1 hchain
    exact hdoes.frontStands hyank (hsound.received call)

/-- The call has this action, and there is something to do for it. -/
def Acts (e : Editing) (call : Call) (action : Action) : Prop :=
  ∃ times, call.action? e.keyboard = some (action, times) ∧
    ((e.received call).act times action).map Prod.fst = .ok true

/-- After a yank or an exchange the front entry stands where it was put. -/
theorem Called.frontStands_of_acts (h : Called e call r e') (hacts : e.Acts call action)
    (hyank : action.isYank = true) (hsound : e.Sound) : e'.FrontStands := by
  obtain ⟨times, haction, hact⟩ := hacts
  have hother : action ≠ .abortLine := by
    rintro rfl
    exact absurd hyank nofun
  rcases h.refused_or_done haction hother with ⟨hfalse, -, -⟩ | ⟨e₂, hdoes, -, rfl⟩
  · rw [hfalse] at hact
    exact absurd (Except.ok.inj hact) nofun
  · exact hdoes.frontStands hyank (hsound.received call)

/-- Where the front entry stands, said by positions. -/
theorem FrontStands.positions (h : e.FrontStands) :
    e.buffer.isValid e.yankExtent.start = true ∧ e.buffer.isValid e.yankExtent.stop = true ∧
      e.yankExtent.start < e.yankExtent.stop ∧ e.buffer.cursor = e.yankExtent.stop ∧
      e.buffer.text.between? e.yankExtent.start e.yankExtent.stop = some e.ring.front := by
  obtain ⟨hfront, left, hbefore, hextent⟩ := h
  have htext : e.buffer.text = left ++ e.ring.front ++ e.buffer.after := by
    rw [Buffer.text, hbefore]
  have hstop : e.buffer.cursor = .endOf (left ++ e.ring.front) := by
    rw [Buffer.cursor, hbefore]
  rw [hextent]
  refine ⟨?_, ?_, ?_, rfl, ?_⟩
  · show (e.buffer.text.offset? (.endOf left)).isSome = true
    rw [htext, List.append_assoc, Text.offset?_append]
    rfl
  · exact (Buffer.isValid_iff _ _).2 e.buffer.cursor_inLines
  · rw [hstop]
    exact Text.endOf_lt_append left hfront
  · rw [hstop, htext]
    exact Text.between?_append left e.ring.front e.buffer.after

/-- An exchange keeps the text before the earlier of the two places that the ends of the last yank are
put back to, and the text after the later one; the new front entry stands between them. -/
theorem Exchanges.kept (h : e.Exchanges e') (hclean : '\r' ∉ e.ring.rotate.1) :
    ∃ left right,
      e.buffer.text.before?
          (min (e.buffer.clamp e.yankExtent.start) (e.buffer.clamp e.yankExtent.stop)) = some left ∧
        e.buffer.text.after?
          (max (e.buffer.clamp e.yankExtent.start) (e.buffer.clamp e.yankExtent.stop)) = some right ∧
        e'.buffer = { before := left ++ e.ring.rotate.1, after := right } ∧
        e'.yankExtent = { start := .endOf left, stop := e'.buffer.cursor } := by
  obtain ⟨left, cut, right, htext, hleft, hcut, hbuffer, hextent⟩ := h.parts
  refine ⟨left, right, ?_, ?_, ?_, hextent⟩
  · rw [← hleft, htext, List.append_assoc]
    exact Text.before?_append left _
  · rw [← hcut, htext]
    exact Text.after?_append _ right
  · rw [hbuffer, Buffer.insert_eq hclean]

/-- What an exchange does to the text, said by positions. -/
theorem Exchanges.positions (h : e.Exchanges e') (hstands : e.FrontStands)
    (hclean : '\r' ∉ e.ring.rotate.1) :
    e'.buffer.text.before? e'.yankExtent.start =
        e.buffer.text.before? (e.buffer.clamp e.yankExtent.start) ∧
      e'.buffer.text.after? e'.yankExtent.stop =
        e.buffer.text.after? (e.buffer.clamp e.yankExtent.stop) := by
  obtain ⟨-, hstop, hlt, -, -⟩ := hstands.positions
  rw [Buffer.isValid_iff] at hstop
  have hle : e.buffer.clamp e.yankExtent.start ≤ e.buffer.clamp e.yankExtent.stop :=
    Buffer.clamp_le_clamp hstop (Position.le_of_lt hlt)
  obtain ⟨left, right, hleft, hright, hbuffer, hextent⟩ := h.kept hclean
  rw [Position.min_eq_left hle] at hleft
  rw [Position.max_eq_right hle] at hright
  rw [hleft, hright, hextent, hbuffer]
  constructor
  · show Text.before? (left ++ e.ring.rotate.1 ++ right) (.endOf left) = _
    rw [List.append_assoc, Text.before?_append]
  · exact Text.after?_append _ right

end Editing

namespace Session

/-! ## The results -/

/-- As long as no call replaces the input, a run of calls keeps the front entry where it stands. -/
theorem Sound.frontStands_afterAll {s : Session} (h : s.Sound)
    (hstands : s.editing.chain = .yanked → s.editing.FrontStands)
    (calls : List (Terminal × Call)) (hset : ∀ step ∈ calls, ∀ text, step.2 ≠ .setText text) :
    (s.afterAll calls).editing.chain = .yanked → (s.afterAll calls).editing.FrontStands := by
  let P : Session → Prop := fun s =>
    s.Sound ∧ (s.editing.chain = .yanked → s.editing.FrontStands)
  have hstep : ∀ s terminal call, (terminal, call) ∈ calls → P s → P (s.after terminal call) := by
    intro s terminal call hmem hs
    have hcalled := call.run_called terminal s
    exact ⟨(call.run_sound terminal hs.1).1,
      hcalled.frontStands (hset (terminal, call) hmem) hs.1.editing hs.2⟩
  have hrun : P (s.afterAll calls) := afterAll_induction ⟨h, hstands⟩ calls hstep
  exact hrun.2

/-- After any run of calls that do not replace the input, while the text just yanked may be exchanged:
the ends of the last yank are positions of the text in their order, the cursor is at the second one,
and the text between them is the first entry of the ring.  A yank is done exactly if the ring has
entries.  An exchange is done exactly if text was just yanked and the ring has two entries, and if it
is not done, the ring stays as it is. -/
theorem yanked_front_stands (config : Config) (calls : List (Terminal × Call))
    (hset : ∀ step ∈ calls, ∀ text, step.2 ≠ .setText text) :
    let s := (ofConfig config).afterAll calls
    let e := s.editing
    (e.chain = .yanked →
      e.buffer.isValid e.yankExtent.start = true ∧ e.buffer.isValid e.yankExtent.stop = true ∧
        e.yankExtent.start < e.yankExtent.stop ∧ e.buffer.cursor = e.yankExtent.stop ∧
        ∃ front, e.buffer.text.between? e.yankExtent.start e.yankExtent.stop = some front ∧
          e.ring.entries.head? = some front) ∧
      (∀ terminal call times, call.action? e.keyboard = some (.yank, times) →
        let e' := (s.after terminal call).editing
        let result := (call.run terminal s).1
        (e.ring.entries ≠ [] → e.Yanks e' ∧ Gives (.outcome .handled) result) ∧
          (e.ring.entries = [] → e.Agrees e' ∧ Gives (.outcome .couldNotPerform) result)) ∧
      ∀ terminal call times, call.action? e.keyboard = some (.popYank, times) →
        let e' := (s.after terminal call).editing
        let result := (call.run terminal s).1
        (e.chain = .yanked ∧ 2 ≤ e.ring.entries.length →
            e.Exchanges e' ∧ Gives (.outcome .handled) result) ∧
          (¬(e.chain = .yanked ∧ 2 ≤ e.ring.entries.length) →
            e.Agrees e' ∧ Gives (.outcome .couldNotPerform) result) := by
  intro s e
  have hsound : s.Sound := (sound_ofConfig config).afterAll calls
  have hentries : ∀ entry ∈ e.ring.entries, entry ≠ [] :=
    fun entry hentry => (hsound.editing.ring entry hentry).1
  refine ⟨fun hchain => ?_, fun terminal call times haction => ?_,
    fun terminal call times haction => ?_⟩
  · have hstands : e.FrontStands :=
      (sound_ofConfig config).frontStands_afterAll nofun calls hset hchain
    obtain ⟨hstart, hstop, hlt, hcursor, hbetween⟩ := hstands.positions
    exact ⟨hstart, hstop, hlt, hcursor, _, hbetween, KillRing.head?_entries hstands.1⟩
  · have hiff := KillRing.front_ne_nil_iff hentries
    rcases Editing.Called.yank_cases (call.run_called terminal s) haction with
      ⟨hfront, hr, hagrees⟩ | ⟨hyanks, hr, -⟩
    · exact ⟨fun hne => absurd hfront (hiff.2 hne), fun _ => ⟨hagrees, hr⟩⟩
    · exact ⟨fun _ => ⟨hyanks, hr⟩, fun hnil => absurd hnil (hiff.1 hyanks.front)⟩
  · have hiff := KillRing.rotate_ne_nil_iff hentries
    rcases Editing.Called.popYank_cases (call.run_called terminal s) haction with
      ⟨hnot, hr, hagrees⟩ | ⟨hexchanges, hr, -⟩
    · refine ⟨fun hdone => absurd ?_ hnot, fun _ => ⟨hagrees, hr⟩⟩
      exact ⟨hdone.1, hiff.2 hdone.2⟩
    · refine ⟨fun _ => ⟨hexchanges, hr⟩, fun hnot => absurd ?_ hnot⟩
      exact ⟨hexchanges.chain, hiff.1 hexchanges.next⟩

/-- Some text is killed and yanked again. -/
theorem yanked_front_stands_after_yank :
    let terminal := Faults.terminal {} 40
    let calls : List (Terminal × Call) :=
      [(terminal, .text "one\ntwo".toList false), (terminal, .action .killPreviousWord 2),
       (terminal, .action .yank 1), (terminal, .screen)]
    let e := ((ofConfig {}).afterAll calls).editing
    e.chain = .yanked ∧ e.buffer.isValid e.yankExtent.start = true ∧
      e.buffer.isValid e.yankExtent.stop = true ∧ e.yankExtent.start < e.yankExtent.stop ∧
      e.buffer.cursor = e.yankExtent.stop ∧
      ∃ front, e.buffer.text.between? e.yankExtent.start e.yankExtent.stop = some front ∧
        e.ring.entries.head? = some front := by
  intro terminal calls
  have hset : ∀ step ∈ calls, ∀ text, step.2 ≠ .setText text := by simp [calls]
  have hchain : ((ofConfig {}).afterAll calls).editing.chain = .yanked := by decide +kernel
  obtain ⟨hstands, -⟩ := yanked_front_stands {} calls hset
  exact ⟨hchain, hstands hchain⟩

/-- After a yank, and any calls after it that do not replace the input, an exchange that is done keeps
the text before the start of the cluster that the yanked text begins in, and the text from the start
of the cluster that it ends in; between them it puts the new front entry.  So it takes out just the
yanked text exactly if that lies between two clusters. -/
theorem popYank_exchanges (config : Config) {earlier later : List (Terminal × Call)}
    {terminal terminal' : Terminal} {yank pop : Call} {action : Action} {times : Nat} {s : Session}
    (hs : s = (ofConfig config).afterAll (earlier ++ (terminal, yank) :: later))
    (hyank : action.isYank = true ∧ ((ofConfig config).afterAll earlier).editing.Acts yank action)
    (hlater : ∀ step ∈ later, ∀ text, step.2 ≠ .setText text)
    (hpop : pop.action? s.editing.keyboard = some (.popYank, times))
    (hr : (pop.run terminal' s).1 = .ok (.outcome .handled)) :
    let b := s.editing.buffer
    let extent := s.editing.yankExtent
    let b' := (s.after terminal' pop).editing.buffer
    let extent' := (s.after terminal' pop).editing.yankExtent
    b.text.between? extent.start extent.stop = some s.editing.ring.front ∧
      b'.text.between? extent'.start extent'.stop =
        some (s.after terminal' pop).editing.ring.front ∧
      b'.text.before? extent'.start = b.text.before? (b.clamp extent.start) ∧
      b'.text.after? extent'.stop = b.text.after? (b.clamp extent.stop) ∧
      (b'.text.before? extent'.start = b.text.before? extent.start ↔
        extent.start.BetweenClusters b.lines) ∧
      (b'.text.after? extent'.stop = b.text.after? extent.stop ↔
        extent.stop.BetweenClusters b.lines) := by
  intro b extent b' extent'
  -- the run up to the yank, with it, and after it
  let s₀ := (ofConfig config).afterAll earlier
  let s₁ := s₀.after terminal yank
  have hsound₀ : s₀.Sound := (sound_ofConfig config).afterAll earlier
  have hsound₁ : s₁.Sound := (yank.run_sound terminal hsound₀).1
  have hrun : s = s₁.afterAll later := by
    rw [hs, afterAll_append]
    rfl
  have hsound : s.Sound := by
    rw [hrun]
    exact hsound₁.afterAll later
  have hstands₁ : s₁.editing.FrontStands := by
    have hcalled := yank.run_called terminal s₀
    exact hcalled.frontStands_of_acts hyank.2 hyank.1 hsound₀.editing
  have hcalled : Editing.Called s.editing pop (pop.run terminal' s).1
      (s.after terminal' pop).editing := pop.run_called terminal' s
  rcases hcalled.popYank_cases hpop with
    ⟨-, hgives, -⟩ | ⟨hexchanges, -, -⟩
  · rcases hgives with hok | ⟨error, herror⟩
    · exact absurd (hr.symm.trans hok) (by simp)
    · exact absurd (hr.symm.trans herror) nofun
  · have hstands : s.editing.FrontStands := by
      have hchain := hexchanges.chain
      rw [hrun] at hchain ⊢
      exact hsound₁.frontStands_afterAll (fun _ => hstands₁) later hlater hchain
    have hclean := hsound.editing.return_notMem_rotate
    obtain ⟨hstart, hstop, -, -, hbetween⟩ := hstands.positions
    rw [Buffer.isValid_iff] at hstart hstop
    obtain ⟨hbefore, hafter⟩ := hexchanges.positions hstands hclean
    refine ⟨hbetween, (hexchanges.frontStands hclean).positions.2.2.2.2, hbefore, hafter, ?_, ?_⟩
    · rw [hbefore]
      exact Buffer.before?_clamp_eq_iff hstart
    · rw [hafter]
      exact Buffer.after?_clamp_eq_iff hstop

/-- A word that was yanked is exchanged for an older one. -/
theorem popYank_exchanges_word :
    let terminal := Faults.terminal {} 40
    let earlier : List (Terminal × Call) :=
      [(terminal, .text "one".toList false), (terminal, .action .killToLineStart 1),
       (terminal, .text "a two".toList false), (terminal, .action .killPreviousWord 1)]
    let s := (ofConfig {}).afterAll
      (earlier ++ (terminal, .action .yank 1) :: [(terminal, .redraw)])
    let b := s.editing.buffer
    let extent := s.editing.yankExtent
    let b' := (s.after terminal (.action .popYank 1)).editing.buffer
    let extent' := (s.after terminal (.action .popYank 1)).editing.yankExtent
    b.text = "a two".toList ∧ b'.text = "a one".toList ∧
      b.text.between? extent.start extent.stop = some s.editing.ring.front ∧
      b'.text.between? extent'.start extent'.stop =
        some (s.after terminal (.action .popYank 1)).editing.ring.front ∧
      b'.text.before? extent'.start = b.text.before? (b.clamp extent.start) ∧
      b'.text.after? extent'.stop = b.text.after? (b.clamp extent.stop) ∧
      (b'.text.before? extent'.start = b.text.before? extent.start ↔
        extent.start.BetweenClusters b.lines) ∧
      (b'.text.after? extent'.stop = b.text.after? extent.stop ↔
        extent.stop.BetweenClusters b.lines) := by
  intro terminal earlier s b extent b' extent'
  have hacts : ((ofConfig {}).afterAll earlier).editing.Acts (.action .yank 1) .yank :=
    ⟨1, by decide +kernel⟩
  have hr : (Call.run (.action .popYank 1) terminal s).1 = .ok (.outcome .handled) := by
    decide +kernel
  refine ⟨by decide +kernel, by decide +kernel, ?_⟩
  exact popYank_exchanges {} rfl ⟨rfl, hacts⟩ (by simp) rfl hr

/-- An exchange that takes out typed text.  The accent that is yanked joins the letter typed before
it, so its start is put back to the start of the letter, and the letter is lost. -/
theorem popYank_takes_typed_text :
    let terminal := Faults.terminal {} 40
    let calls : List (Terminal × Call) :=
      [(terminal, .text "x".toList false), (terminal, .action .killToLineStart 1),
       (terminal, .text "\u0301".toList false), (terminal, .action .killToLineStart 1),
       (terminal, .text "e".toList false), (terminal, .action .yank 1)]
    let s := (ofConfig {}).afterAll calls
    let s' := s.after terminal (.action .popYank 1)
    s.editing.chain = .yanked ∧
      (Call.run (.action .popYank 1) terminal s).1 = .ok (.outcome .handled) ∧
      s.editing.buffer.text.before? s.editing.yankExtent.start = some "e".toList ∧
      s'.editing.buffer.text.before? s'.editing.yankExtent.start = some [] := by
  decide +kernel

-- A letter that is yanked before an accent stays in the text: its end is put back to its start.
example :
    let terminal := Faults.terminal {} 40
    let calls : List (Terminal × Call) :=
      [(terminal, .text "x".toList false), (terminal, .action .killToLineStart 1),
       (terminal, .text "e".toList false), (terminal, .action .killToLineStart 1),
       (terminal, .text "\u0301".toList false), (terminal, .action .cursorLeft 1),
       (terminal, .action .yank 1), (terminal, .action .popYank 1)]
    ((ofConfig {}).afterAll calls).editing.buffer.text = "xe\u0301".toList := by
  decide +kernel

end Session

end LineEditor
