import LineEditor.Proofs.Session.Perform
import LineEditor.Proofs.Truncation

/-!
# Where moving up and down goes

A motion up or down goes to the row that many rows away, or to the last one on the way, and there as
many cells to the right as the cursor is now.  Cells are counted in whole clusters, so the place it goes
to is one of the text, whatever is on the rows.

* The row.  `cast_rowBelow` says which row it is, in integers.
* The place.  `positionOnRow_eq` says where on the row it is.
* The result.  `vertical_motion_goes_to` says so for every layout of a buffer, and that sessions can
  put the cursor there.
-/

namespace LineEditor

/-- Rows are counted from the cursor without a bound, and only the result is put between the first row
and the last. -/
theorem cast_rowBelow {count : Nat} (h : 0 < count) (current : Nat) (amount : Int) :
    (rowBelow count current amount : Int) = max 0 (min (current + amount) (count - 1)) := by
  unfold rowBelow
  omega

/-- From a row with the cursor, the place on another row is after the longest part of it that fits in
the cells between the prompt and the cursor. -/
theorem positionOnRow_eq {source : Row} {place : RowCursor} (h : source.cursor = some place)
    (target : Row) :
    ∃ part, target.text.LongestFit (place.cell - source.promptWidth) part ∧
      positionOnRow source target =
        { offset := target.offset + part.size, line := target.line } := by
  refine ⟨_, Text.longestFit_iff.2 rfl, ?_⟩
  rw [positionOnRow, h]

/-- Between two rows there is a place to go to unless they are the same row. -/
theorem verticalTarget_eq {rows : List Row} {amount : Int} {source target : Row}
    (hsource : rows[cursorRow rows]? = some source)
    (htarget : rows[rowBelow rows.length (cursorRow rows) amount]? = some target) :
    verticalTarget rows amount =
      if rowBelow rows.length (cursorRow rows) amount = cursorRow rows then none
      else some (positionOnRow source target) := by
  unfold verticalTarget
  dsimp only
  rw [hsource, htarget]

/-- An action fails because of its terminal only. -/
theorem SessionM.perform_ne_misuse (action : Action) (times : Nat) (terminal : Terminal) (s : Session)
    (misuse : Misuse) : (perform action times terminal s).1 ≠ .error (.misuse misuse) := by
  obtain ⟨-, hperformed⟩ := perform_ends action times terminal s
  intro heq
  rw [heq] at hperformed
  cases hperformed

/-- On any screen a motion up or down by any number of rows does nothing if that leaves the cursor on
its row.  Otherwise it goes to the other row, there as far as the longest part of the row's text that
fits in the cells between the prompt and the cursor; the cursor can be put there, and so in a session
it is never put outside the text. -/
theorem vertical_motion_goes_to (b : Buffer) (prompts : Prompts) (width : Nat) (amount : Int) :
    let rows := layout b.lines b.cursor prompts width
    let row : Int := max 0 (min (cursorRow rows + amount) (rows.length - 1))
    (∃ source target place part,
      rows[cursorRow rows]? = some source ∧ source.cursor = some place ∧
      rows[row.toNat]? = some target ∧
      target.text.LongestFit (place.cell - source.promptWidth) part ∧
      let p : Position := { offset := target.offset + part.size, line := target.line }
      verticalTarget rows amount = (if row = cursorRow rows then none else some p) ∧
      b.isValid p = true ∧ ∃ b', b.place p = .ok b' ∧ b'.text = b.text ∧ b'.cursor = p) ∧
    ∀ times terminal s misuse,
      (SessionM.perform .cursorUp times terminal s).1 ≠ .error (.misuse misuse) ∧
      (SessionM.perform .cursorDown times terminal s).1 ≠ .error (.misuse misuse) := by
  intro rows row
  refine ⟨?_, fun times terminal s misuse =>
    ⟨SessionM.perform_ne_misuse _ times terminal s misuse,
      SessionM.perform_ne_misuse _ times terminal s misuse⟩⟩
  obtain ⟨_, source, -, hsource, htakes, -⟩ := exists_cursorRow_takes b.cursor_inLines prompts width
  obtain ⟨place, hplace⟩ := Option.isSome_iff_exists.1 htakes.isSome_cursor
  -- the row that it goes to
  have hcount : cursorRow rows < rows.length := (List.getElem?_eq_some_iff.1 hsource).1
  have hrow : (rowBelow rows.length (cursorRow rows) amount : Int) = row :=
    cast_rowBelow (Nat.zero_lt_of_lt hcount) _ _
  have htoNat : row.toNat = rowBelow rows.length (cursorRow rows) amount := by
    rw [← hrow, Int.toNat_natCast]
  obtain ⟨target, htarget⟩ : ∃ target, rows[row.toNat]? = some target :=
    ⟨_, List.getElem?_eq_getElem (by omega)⟩
  -- the place on it
  obtain ⟨part, hfit, hpart⟩ := positionOnRow_eq hplace target
  have hvalid : b.isValid (positionOnRow source target) = true :=
    (b.isValid_iff _).2 (positionOnRow_inLines source (List.mem_of_getElem? htarget))
  rw [hpart] at hvalid
  refine ⟨source, target, place, part, hsource, hplace, htarget, hfit, ?_, hvalid,
    Buffer.exists_place_eq hvalid⟩
  rw [htoNat] at htarget
  rw [verticalTarget_eq hsource htarget, hpart, ← hrow]
  exact if_congr Int.natCast_inj.symm rfl rfl

end LineEditor
