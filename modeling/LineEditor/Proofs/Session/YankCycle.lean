import LineEditor.Proofs.Session.KillRuns
import LineEditor.Proofs.Session.Reliable
import LineEditor.Proofs.Session.Yank
import Mathlib.Data.List.Rotate

/-!
# Going through the ring

After a yank each exchange puts the next entry of the ring where the last one stood, so that any
entry can be brought up by as many exchanges as it takes, and one more than the last entry is the
first one again.

* The ring.  `KillRing.rotate_entries` says that bringing up the next entry is a rotation.
* Calls.  `Step.IsAside` are the calls that may come in between, and `Step.IsCleanExchange` the
  exchanges of text that lies between two clusters.
* The invariant.  `Editing.Offers` says what is edited after a yank and `k` exchanges.  A yank
  establishes it for no exchanges (`Yanks.offers`), an exchange counts one more
  (`Exchanges.offers`), and `Offers.after` is the step for any call.
* The result.  `offers_afterAll` is the induction over the calls after the yank, and `yank_cycles` the
  result for all sessions.
-/

namespace LineEditor

open SessionM

/-! ## The ring -/

/-- The next entry is brought up by a rotation.  A ring of fewer than two entries stays as it is. -/
theorem KillRing.rotate_entries (ring : KillRing) :
    ring.rotate.2.entries = ring.entries.rotate 1 := by
  obtain ⟨entries⟩ := ring
  match entries with
  | [] => rfl
  | [entry] => exact (List.rotate_singleton entry 1).symm
  | _ :: _ :: _ => rfl

/-! ## Calls -/

namespace Session

/-- The call takes in something typed or pasted at most: it leaves a run of kills as it is, and does
not replace the input. -/
def Step.IsAside (step : Step) : Prop :=
  step.before.editing.IsAside step.call step.result ∧ ∀ text, step.call ≠ .setText text

/-- Whether the call is to exchange the text just yanked. -/
def Step.isExchange (step : Step) : Bool :=
  step.action?.any fun action => action.1 = .popYank

/-- The call is to exchange the text just yanked, and both ends of that text lie between two
clusters. -/
structure Step.IsCleanExchange (step : Step) : Prop where
  isExchange : step.isExchange = true
  start : step.before.editing.yankExtent.start.BetweenClusters step.before.editing.buffer.lines
  stop : step.before.editing.yankExtent.stop.BetweenClusters step.before.editing.buffer.lines

theorem Step.isExchange_iff {step : Step} :
    step.isExchange = true ↔ ∃ times, step.action? = some (.popYank, times) := by
  unfold isExchange
  cases step.action? with
  | none => simp
  | some action =>
    obtain ⟨action, times⟩ := action
    simp

end Session

/-! ## The invariant -/

namespace Editing

variable {e e' : Editing} {b : Buffer} {entries : List Text} {k : Nat}

/-- What is edited after a yank into `b` and `k` exchanges, with the given entries in the ring before
them: the ring is rotated so many times, and its front entry stands where the cursor was. -/
structure Offers (e : Editing) (b : Buffer) (entries : List Text) (k : Nat) : Prop where
  chain : e.chain = .yanked
  ring : e.ring.entries = entries.rotate k
  buffer : e.buffer = { b with before := b.before ++ e.ring.front }
  yankExtent : e.yankExtent = { start := b.cursor, stop := e.buffer.cursor }

theorem Agrees.offers (h : e.Agrees e') (hoffers : e.Offers b entries k) :
    e'.Offers b entries k := by
  obtain ⟨hchain, hring, hbuffer, hextent⟩ := hoffers
  rw [← h.chain] at hchain
  rw [← h.ring] at hring hbuffer
  rw [← h.buffer] at hbuffer hextent
  rw [← h.yankExtent] at hextent
  exact ⟨hchain, hring, hbuffer, hextent⟩

theorem Yanks.offers (h : e.Yanks e') (hclean : '\r' ∉ e.ring.front) (hchain : e'.chain = .yanked) :
    e'.Offers e.buffer e.ring.entries 0 where
  chain := hchain
  ring := by rw [h.ring, List.rotate_zero]
  buffer := by rw [h.buffer, Buffer.insert_eq hclean, h.ring]
  yankExtent := h.yankExtent

/-- An exchange of text that lies between two clusters takes out just that text. -/
theorem Exchanges.offers (h : e.Exchanges e') (hclean : '\r' ∉ e.ring.rotate.1)
    (hchain : e'.chain = .yanked) (hoffers : e.Offers b entries k)
    (hstart : e.yankExtent.start.BetweenClusters e.buffer.lines)
    (hstop : e.yankExtent.stop.BetweenClusters e.buffer.lines) :
    e'.Offers b entries (k + 1) := by
  have hfront : e'.ring.front = e.ring.rotate.1 := by
    rw [h.ring, KillRing.front_rotate h.next]
  obtain ⟨left, right, hleft, hright, hbuffer, hextent⟩ := h.kept hclean
  rw [Buffer.clamp_eq_self_iff.2 hstart, Buffer.clamp_eq_self_iff.2 hstop,
    hoffers.yankExtent] at hleft hright
  have hcursor : e.buffer.cursor = .endOf (b.before ++ e.ring.front) := by
    rw [hoffers.buffer]
    rfl
  have hle : b.cursor ≤ e.buffer.cursor := by
    rw [hcursor]
    exact Position.endOf_le_append b.before e.ring.front
  have htext : e.buffer.text = b.before ++ e.ring.front ++ b.after := by
    rw [hoffers.buffer]
    rfl
  have hleft' : left = b.before := by
    rw [Position.min_eq_left hle, htext, List.append_assoc] at hleft
    exact Option.some.inj (hleft.symm.trans (Text.before?_append b.before _))
  have hright' : right = b.after := by
    rw [Position.max_eq_right hle, htext, hcursor] at hright
    exact Option.some.inj (hright.symm.trans (Text.after?_append _ b.after))
  subst hleft' hright'
  refine ⟨hchain, ?_, ?_, hextent⟩
  · rw [h.ring, KillRing.rotate_entries, hoffers.ring, List.rotate_rotate]
  · rw [hbuffer, hfront]

/-- The entry in front is the one with the number of the exchanges, counted over and over again. -/
theorem Offers.getElem?_entries (h : e.Offers b entries k) (hentries : entries ≠ []) :
    entries[k % entries.length]? = some e.ring.front := by
  have hlt : k % entries.length < entries.length :=
    Nat.mod_lt k (List.length_pos_iff.2 hentries)
  have hne : e.ring.entries ≠ [] := by
    rw [h.ring, ne_eq, List.rotate_eq_nil_iff]
    exact hentries
  obtain ⟨front, rest, hcons⟩ := List.exists_cons_of_ne_nil hne
  calc entries[k % entries.length]? = (entries.rotate k).head? := by
        rw [← List.head?_rotate hlt, List.rotate_mod]
    _ = e.ring.entries.head? := by rw [h.ring]
    _ = some e.ring.front := by rw [KillRing.front, hcons]; rfl

/-- A call that comes in between changes nothing, and an exchange is done and brings up the next
entry. -/
theorem Offers.after {step : Session.Step} (h : step.before.editing.Offers b entries k)
    (hsound : step.before.Sound) (hentries : 2 ≤ entries.length)
    (hstep : step.IsAside ∨ step.IsCleanExchange) :
    (step.isExchange = true → Gives (.outcome .handled) step.result) ∧
      step.after.editing.Offers b entries (k + if step.isExchange then 1 else 0) := by
  have hlength : step.before.editing.ring.entries.length = entries.length := by
    rw [h.ring, List.length_rotate]
  have hnext : step.before.editing.ring.rotate.1 ≠ [] :=
    hsound.editing.rotate_ne_nil_iff.2 (by omega)
  rcases hstep with ⟨haside, hset⟩ | hclean
  · have hno : step.isExchange = false := by
      refine Bool.eq_false_iff.2 fun hasks => ?_
      obtain ⟨times, haction⟩ := Session.Step.isExchange_iff.1 hasks
      rcases step.called.popYank_cases haction with ⟨hnot, -, -⟩ | ⟨-, hgives, -⟩
      · exact hnot ⟨h.chain, hnext⟩
      · exact absurd (haside.mem_of_gives haction hgives) (by decide)
    obtain ⟨hreset, hagrees⟩ := step.called.received_agrees_of_isAside haside
    rw [hno]
    exact ⟨nofun, ((received_agrees _ hset hreset).trans hagrees).offers h⟩
  · obtain ⟨times, haction⟩ := Session.Step.isExchange_iff.1 hclean.isExchange
    rcases step.called.popYank_cases haction with ⟨hnot, -, -⟩ | ⟨hexchanges, hgives, hchain⟩
    · exact absurd ⟨h.chain, hnext⟩ hnot
    · rw [hclean.isExchange]
      exact ⟨fun _ => hgives, hexchanges.offers hsound.editing.return_notMem_rotate hchain h
        hclean.start hclean.stop⟩

end Editing

namespace Session

/-! ## The result -/

/-- The invariant goes along a run: it counts the exchanges, and all of them are done. -/
theorem offers_afterAll {s : Session} {b : Buffer} {entries : List Text} {k : Nat}
    (hsound : s.Sound) (h : s.editing.Offers b entries k) (hentries : 2 ≤ entries.length)
    (calls : List (Terminal × Call))
    (hcalls : ∀ step ∈ s.steps calls, step.IsAside ∨ step.IsCleanExchange) :
    (∀ step ∈ s.steps calls, step.isExchange = true → Gives (.outcome .handled) step.result) ∧
      (s.afterAll calls).editing.Offers b entries (k + (s.steps calls).countP Step.isExchange) := by
  induction calls generalizing s k with
  | nil => exact ⟨fun _ hstep => absurd hstep List.not_mem_nil, h⟩
  | cons call calls ih =>
    let first : Step := { before := s, terminal := call.1, call := call.2 }
    have hsteps : s.steps (call :: calls) = first :: first.after.steps calls := rfl
    have hfirst : first.before.editing.Offers b entries k := h
    rw [hsteps, List.forall_mem_cons] at hcalls
    obtain ⟨hdone, hafter⟩ := hfirst.after hsound hentries hcalls.1
    have hsound' : first.after.Sound := (call.2.run_sound call.1 hsound).1
    obtain ⟨hrest, hrun⟩ := ih hsound' hafter hcalls.2
    rw [hsteps, List.forall_mem_cons, List.countP_cons]
    refine ⟨⟨hdone, hrest⟩, ?_⟩
    rw [Nat.add_comm (List.countP _ _), ← Nat.add_assoc]
    exact hrun

/-- After any run of calls that leaves two entries or more in the ring: a yank, and then exchanges in
any number, with calls in between that are turned down, or show the input, or clear the screen.
The yank and the exchanges are all done, and answered so on terminals that are reliable.  If each
exchange finds its text between two clusters, then `k` exchanges leave the ring rotated `k` times, and
what was the entry with that number, counted from the front over and over again, stands where the
cursor was at first; the rest of the text is as it was, and the cursor is at the end of the entry. -/
theorem yank_cycles (config : Config) (calls : List (Terminal × Call)) {s : Session}
    (hs : s = (ofConfig config).afterAll calls) {terminal : Terminal} {yank : Call} {times : Nat}
    (hyank : yank.action? s.editing.keyboard = some (.yank, times))
    (hentries : 2 ≤ s.editing.ring.entries.length) {later : List (Terminal × Call)}
    (hlater : ∀ step ∈ (s.after terminal yank).steps later, step.IsAside ∨ step.IsCleanExchange) :
    let b := s.editing.buffer
    let entries := s.editing.ring.entries
    let first : Step := { before := s, terminal, call := yank }
    let steps := (s.after terminal yank).steps later
    let k := steps.countP Step.isExchange
    let e := ((s.after terminal yank).afterAll later).editing
    (∀ step ∈ first :: steps, step = first ∨ step.isExchange = true →
        Gives (.outcome .handled) step.result ∧
          (step.terminal.Reliable → step.result = .ok (.outcome .handled))) ∧
      (∃ entry, entries[k % entries.length]? = some entry ∧
        e.buffer.text = b.before ++ entry ++ b.after) ∧
      e.ring.entries = entries.rotate k ∧ e.yankExtent.start = b.cursor ∧
      e.buffer.cursor = e.yankExtent.stop := by
  intro b entries first steps k e
  have hsound : s.Sound := by
    rw [hs]
    exact (sound_ofConfig config).afterAll calls
  have hne : entries ≠ [] := List.length_pos_iff.1 (Nat.lt_of_lt_of_le Nat.two_pos hentries)
  -- the yank puts the front entry where the cursor is
  have hfront : s.editing.ring.front ≠ [] := hsound.editing.front_ne_nil_iff.2 hne
  obtain ⟨hyanked, hoffers⟩ : Gives (.outcome .handled) first.result ∧
      first.after.editing.Offers b entries 0 := by
    rcases first.called.yank_cases hyank with ⟨hnone, -, -⟩ | ⟨hyanks, hgives, hchain⟩
    · exact absurd hnone hfront
    · exact ⟨hgives, hyanks.offers hsound.editing.return_notMem_front hchain⟩
  -- the exchanges bring up one entry after the other
  have hsound₁ : (s.after terminal yank).Sound := (yank.run_sound terminal hsound).1
  obtain ⟨hexchanged, hrun⟩ := offers_afterAll hsound₁ hoffers hentries later hlater
  rw [Nat.zero_add] at hrun
  refine ⟨fun step hstep hasks => ?_, ⟨e.ring.front, hrun.getElem?_entries hne, ?_⟩,
    hrun.ring, congrArg YankExtent.start hrun.yankExtent,
    (congrArg YankExtent.stop hrun.yankExtent).symm⟩
  · have hgives : Gives (.outcome .handled) step.result := by
      rcases List.mem_cons.1 hstep with rfl | hmem
      · exact hyanked
      · rcases hasks with rfl | hexchange
        · exact hyanked
        · exact hexchanged step hmem hexchange
    exact ⟨hgives, fun hreliable => Call.run_eq_ok hreliable hgives⟩
  · show e.buffer.text = _
    rw [hrun.buffer]
    rfl

/-- Three texts are killed, and the ring is gone through once and one entry more, with a redraw, a kill
that finds no text and a cleared screen on the way. -/
theorem yank_cycles_once_around :
    let terminal := Faults.terminal {} 40
    let calls : List (Terminal × Call) :=
      [(terminal, .text "one".toList false), (terminal, .action .killToLineStart 1),
       (terminal, .text "two\nlines".toList false), (terminal, .action .killPreviousWord 2),
       (terminal, .text "a\nend".toList false), (terminal, .action .killToLineStart 1),
       (terminal, .action .cursorLeft 1)]
    let later : List (Terminal × Call) :=
      [(terminal, .redraw), (terminal, .action .popYank 1), (terminal, .action .killToLineEnd 1),
       (terminal, .action .popYank 1), (terminal, .action .clearScreen 1),
       (terminal, .action .popYank 1), (terminal, .action .popYank 1)]
    let s := (ofConfig {}).afterAll calls
    let b := s.editing.buffer
    let entries := s.editing.ring.entries
    let yank : Call := .action .yank 1
    let first : Step := { before := s, terminal, call := yank }
    let steps := (s.after terminal yank).steps later
    let k := steps.countP Step.isExchange
    let e := ((s.after terminal yank).afterAll later).editing
    entries = ["end".toList, "two\nlines".toList, "one".toList] ∧ k = 4 ∧
      (∀ step ∈ first :: steps, step = first ∨ step.isExchange = true →
        Gives (.outcome .handled) step.result ∧
          (step.terminal.Reliable → step.result = .ok (.outcome .handled))) ∧
      (∃ entry, entries[k % entries.length]? = some entry ∧
        e.buffer.text = b.before ++ entry ++ b.after) ∧
      e.ring.entries = entries.rotate k ∧ e.yankExtent.start = b.cursor ∧
      e.buffer.cursor = e.yankExtent.stop := by
  intro terminal calls later s b entries yank first steps k e
  have hring : entries = ["end".toList, "two\nlines".toList, "one".toList] := by decide +kernel
  have hcount : k = 4 := by decide +kernel
  have hbetween : ∀ step ∈ steps, step.isExchange = true →
      step.before.editing.buffer.clamp step.before.editing.yankExtent.start =
          step.before.editing.yankExtent.start ∧
        step.before.editing.buffer.clamp step.before.editing.yankExtent.stop =
          step.before.editing.yankExtent.stop := by
    decide +kernel
  have hrefused : ∀ step ∈ steps, step.isExchange = true ∨ step.call = .redraw ∨
      step.call = .action .clearScreen 1 ∨
      step.call = .action .killToLineEnd 1 ∧ step.result = .ok (.outcome .couldNotPerform) := by
    decide +kernel
  have hlater : ∀ step ∈ steps, step.IsAside ∨ step.IsCleanExchange := by
    intro step hstep
    rcases hrefused step hstep with hexchange | hcall | hcall | ⟨hcall, hresult⟩
    · obtain ⟨hstart, hstop⟩ := hbetween step hstep hexchange
      exact .inr ⟨hexchange, Buffer.clamp_eq_self_iff.1 hstart, Buffer.clamp_eq_self_iff.1 hstop⟩
    · left
      rw [Step.IsAside, hcall]
      exact ⟨.inr (.inl ⟨rfl, nofun⟩), nofun⟩
    · left
      rw [Step.IsAside, hcall]
      exact ⟨.inr (.inr ⟨.clearScreen, 1, rfl, by decide⟩), nofun⟩
    · left
      rw [Step.IsAside, hcall]
      exact ⟨.inl ⟨.couldNotPerform, hresult, nofun⟩, nofun⟩
  have hentries : 2 ≤ entries.length := by
    rw [hring]
    decide
  have hyank : yank.action? s.editing.keyboard = some (.yank, 1) := rfl
  have hs : s = (ofConfig {}).afterAll calls := rfl
  -- the run is not to be evaluated once more
  clear_value s
  have hcycles := yank_cycles {} calls hs hyank hentries hlater
  dsimp only [b, entries, first, e, k, steps] at hcycles ⊢
  exact ⟨hring, hcount, hcycles⟩

end Session

end LineEditor
