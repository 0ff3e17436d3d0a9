import LineEditor.Proofs.InRange
import LineEditor.Proofs.Session.Calls

/-!
# Soundness of sessions

Whatever a host asks of a session, and however the terminal behaves meanwhile, the session stays
sound: the invariant `Session.Sound` holds of a new session, one call keeps it (`Call.run_sound`),
and so any run does (`Session.Sound.afterAll`).  `afterAll_sound` spells out what that means for the
text, the cursor, the kill ring and the memory of earlier actions.
-/

namespace LineEditor

namespace Editing

/-! ## Staged text -/

/-- Only an insertion takes the staged text, and it leaves none. -/
theorem Does.staged_eq {e e' : Editing} {times : Nat} {action : Action}
    (h : Does e times action e') : e'.staged = if action = .addText then [] else e.staged := by
  cases h with
  | moved haction _ _ =>
    rw [if_neg]
    rintro rfl
    exact absurd haction (by decide)
  | erased haction _ _ =>
    rw [if_neg]
    rintro rfl
    exact absurd haction (by decide)
  | killed haction _ _ =>
    rw [if_neg]
    · rfl
    · rintro rfl
      exact absurd haction (by decide)
  | yanked _ => rfl
  | popped _ _ _ _ _ _ => rfl
  | inserted _ => rfl

/-! ## Calls -/

theorem Sound.received {e : Editing} (h : e.Sound) (call : Call) : (e.received call).Sound := by
  cases call with
  | setText text =>
    have hempty : '\r' ∉ Buffer.empty.text := by decide
    exact ⟨Buffer.return_notMem_insert hempty text, h.ring, h.chain⟩
  | reset => exact h.reset
  | _ => exact ⟨h.text, h.ring, h.chain⟩

theorem Called.sound {e e' : Editing} {call : Call} {r : Except SessionError Answer}
    (h : Called e call r e') (hsound : e.Sound) : e'.Sound := by
  cases h with
  | received _ _ _ => exact hsound.received call
  | refused _ _ _ => exact (hsound.received call).refused _
  | aborted _ _ => exact (hsound.received call).reset
  | done _ hdoes _ => exact (hdoes.sound (hsound.received call)).record _

/-- A call leaves no staged text: it takes in text only for an insertion. -/
theorem Called.staged_eq_nil {e e' : Editing} {call : Call} {r : Except SessionError Answer}
    (h : Called e call r e') (hstaged : e.staged = []) : e'.staged = [] := by
  have hreceived : ∀ {action times}, call.action? e.keyboard = some (action, times) →
      (if action = .addText then [] else (e.received call).staged) = [] := by
    intro action times haction
    split
    · rfl
    · next hother =>
      rw [received_staged, hstaged]
      intro times' hadds
      rw [haction] at hadds
      exact hother (congrArg Prod.fst (Option.some.inj hadds))
  cases h with
  | received haction _ _ =>
    rw [received_staged fun times => by rw [haction]; exact nofun]
    exact hstaged
  | @refused action _ _ haction _ _ =>
    rw [Editing.refused]
    have hnil := hreceived haction
    split
    · rfl
    · next hother => rwa [if_neg hother] at hnil
  | aborted haction _ => exact hreceived haction
  | done haction hdoes _ =>
    have hnil := hreceived haction
    rwa [← hdoes.staged_eq] at hnil

theorem Called.noMisuse {e e' : Editing} {call : Call} {r : Except SessionError Answer}
    (h : Called e call r e') : SessionM.NoMisuse r := by
  cases h with
  | received _ _ hmisuse => exact hmisuse
  | refused _ _ hr =>
    obtain ⟨_, -, hgives⟩ := hr
    exact hgives.noMisuse
  | aborted _ hr => exact hr.noMisuse
  | done _ _ hr => exact hr.noMisuse

end Editing

/-! ## The invariant of sessions -/

/-- What holds of a session between two calls. -/
structure Session.Sound (s : Session) : Prop where
  editing : s.editing.Sound
  staged : s.editing.staged = []

open SessionM

/-- A call keeps a session sound, whether it succeeds or fails, and it fails only if the terminal
does. -/
theorem Call.run_sound (call : Call) (terminal : Terminal) {s : Session} (h : s.Sound) :
    Ends call.run terminal s fun r s' => s'.Sound ∧ NoMisuse r :=
  (call.run_called terminal s).mono fun _ _ hcalled =>
    ⟨⟨hcalled.sound h.editing, hcalled.staged_eq_nil h.staged⟩, hcalled.noMisuse⟩

namespace Session

theorem sound_ofConfig (config : Config) : (ofConfig config).Sound :=
  ⟨Editing.sound_initial, rfl⟩

/-- Any run of calls keeps a session sound. -/
theorem Sound.afterAll {s : Session} (h : s.Sound) (calls : List (Terminal × Call)) :
    (s.afterAll calls).Sound :=
  afterAll_induction h calls fun _ terminal call _ hsound => (call.run_sound terminal hsound).1

/-- After any run of calls, however the terminals behave: the text has lines without line breaks in
them; the cursor is on one of the lines, between two characters or at an end; no entry of the kill
ring is empty or has a carriage return; no text is staged; the chain is that of the last action.
The next call fails only if its terminal does, never for a misuse of the buffer; and no buffer on
the way gives a line, a cut or a row that is out of range. -/
theorem afterAll_sound (config : Config) (calls : List (Terminal × Call)) :
    let s := (ofConfig config).afterAll calls
    let b := s.editing.buffer
    b.lines ≠ [] ∧
      (∀ line ∈ b.lines, '\n' ∉ line ∧ '\r' ∉ line) ∧
      (∃ line, b.lines[b.cursor.line]? = some line ∧ b.cursor.offset ≤ line.size ∧
        (line.splitAt? b.cursor.offset).isSome = true) ∧
      (∀ entry ∈ s.editing.ring.entries, entry ≠ [] ∧ '\r' ∉ entry) ∧
      s.editing.staged = [] ∧
      s.editing.chain = .after s.editing.lastAction ∧
      (∀ terminal call misuse, (Call.run call terminal s).1 ≠ .error (.misuse misuse)) ∧
      ∀ b : Buffer, b.InRange := by
  intro s b
  have hsound : s.Sound := (sound_ofConfig config).afterAll calls
  refine ⟨b.text.lines_ne_nil, fun line hline => ⟨Text.newline_notMem_of_mem_lines hline, ?_⟩, ?_,
    hsound.editing.ring, hsound.staged, hsound.editing.chain, fun terminal call misuse hfail => ?_,
    Buffer.inRange⟩
  · exact fun hmem => hsound.editing.text (Text.mem_of_mem_lines hline hmem)
  · have hcut := b.splitAt?_cursor
    refine ⟨b.currentLine, b.lines_cursor, Text.le_size_of_splitAt? hcut, ?_⟩
    rw [hcut]
    rfl
  · obtain ⟨error, herror⟩ := (call.run_sound terminal hsound).2 _ hfail
    exact absurd herror nofun

end Session

end LineEditor
