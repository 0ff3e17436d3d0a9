import LineEditor.LineBuffer.Basic

/-!
# Motion by clusters, line by line

The cursor moves over the clusters of its line, which are found anew each time it comes to a line, and
from the edge of a line to the next one.  Each round of a motion does at least one unit of it, so the
motion ends.

* clusters of one line (`stepBack`, `stepOn`), which do at least one unit (`lt_of_stepBack`,
  `lt_of_stepOn`);
* motion (`moveLeft`, `moveRight`);
* erasure of what a motion goes over (`eraseBefore`, `eraseAfter`).
-/

namespace LineEditor

theorem Text.clusters_ne_nil {text : Text} (h : text ≠ []) : text.clusters ≠ [] := by
  have hfrom (tail : Tail) (current text : Text) : clustersFrom tail current text ≠ [] := by
    induction text generalizing tail current with
    | nil => exact List.cons_ne_nil _ _
    | cons c text ih =>
      rw [clustersFrom]
      split
      · exact ih _ _
      · exact List.cons_ne_nil _ _
  cases text with
  | nil => exact absurd rfl h
  | cons c rest => exact hfrom _ _ _

namespace LineBuffer

/-! ## Clusters of one line -/

/-- Goes back over clusters, the nearest first, until `amount` units are done.  Returns the offset and the
units done. -/
def stepBack (amount : Nat) : List Text → Nat → Nat → Except Panic (Nat × Nat)
  | [], offset, moved => .ok (offset, moved)
  | cluster :: rest, offset, moved =>
    if moved = amount then .ok (offset, moved)
    else do stepBack amount rest (← minus offset cluster.size) (moved + 1)

/-- Goes on over clusters, the nearest first, until `amount` units are done.  Returns the offset and the
units done. -/
def stepOn (amount : Nat) : List Text → Nat → Nat → Nat × Nat
  | [], offset, moved => (offset, moved)
  | cluster :: rest, offset, moved =>
    if moved = amount then (offset, moved)
    else stepOn amount rest (offset + cluster.size) (moved + 1)

theorem le_of_stepBack {amount offset moved : Nat} {clusters : List Text} {result : Nat × Nat}
    (h : stepBack amount clusters offset moved = .ok result) : moved ≤ result.2 := by
  induction clusters generalizing offset moved with
  | nil =>
    cases h
    exact Nat.le_refl _
  | cons cluster rest ih =>
    rw [stepBack] at h
    split at h
    · cases h
      exact Nat.le_refl _
    · cases hminus : minus offset cluster.size with
      | error e =>
        rw [hminus] at h
        cases h
      | ok next =>
        rw [hminus] at h
        exact Nat.le_of_succ_le (ih h)

theorem lt_of_stepBack {amount offset moved : Nat} {clusters : List Text} {result : Nat × Nat}
    (hne : clusters ≠ []) (hmoved : moved < amount)
    (h : stepBack amount clusters offset moved = .ok result) : moved < result.2 := by
  cases clusters with
  | nil => exact absurd rfl hne
  | cons cluster rest =>
    rw [stepBack, if_neg (Nat.ne_of_lt hmoved)] at h
    cases hminus : minus offset cluster.size with
    | error e =>
      rw [hminus] at h
      cases h
    | ok next =>
      rw [hminus] at h
      exact le_of_stepBack h

theorem le_stepOn (amount : Nat) (clusters : List Text) (offset moved : Nat) :
    moved ≤ (stepOn amount clusters offset moved).2 := by
  induction clusters generalizing offset moved with
  | nil => exact Nat.le_refl _
  | cons cluster rest ih =>
    rw [stepOn]
    split
    · exact Nat.le_refl _
    · exact Nat.le_of_succ_le (ih _ _)

theorem lt_of_stepOn {amount offset moved : Nat} {clusters : List Text} {result : Nat × Nat}
    (hne : clusters ≠ []) (hmoved : moved < amount)
    (h : stepOn amount clusters offset moved = result) : moved < result.2 := by
  cases clusters with
  | nil => exact absurd rfl hne
  | cons cluster rest =>
    rw [← h, stepOn, if_neg (Nat.ne_of_lt hmoved)]
    exact le_stepOn amount rest _ _

/-- The two parts of a cut have the bytes up to it and those after it. -/
theorem size_of_cutAt {line front back : Text} {n : Nat} (h : cutAt line n = .ok (front, back)) :
    front.size = n ∧ front.size + back.size = line.size := by
  have hsplit : line.splitAt? n = some (front, back) := by
    rw [cutAt] at h
    split at h
    · next parts hparts => rw [hparts, Except.ok.inj h]
    · cases h
  clear h
  induction line generalizing n front with
  | nil =>
    rw [Text.splitAt?] at hsplit
    split at hsplit
    · next hn =>
      cases hsplit
      exact ⟨hn.symm, rfl⟩
    · cases hsplit
  | cons c rest ih =>
    rw [Text.splitAt?] at hsplit
    split at hsplit
    · next hn =>
      cases hsplit
      exact ⟨hn.symm, Nat.zero_add _⟩
    · split at hsplit
      · next hle =>
        obtain ⟨⟨left, right⟩, hrest, heq⟩ := Option.map_eq_some_iff.1 hsplit
        obtain ⟨rfl, rfl⟩ := Prod.mk.inj heq
        obtain ⟨hleft, hright⟩ := ih hrest
        rw [Text.size, Text.size]
        omega
      · cases hsplit

theorem clusters_front_ne_nil {line front back : Text} {n : Nat}
    (h : cutAt line n = .ok (front, back)) (hn : n ≠ 0) : front.clusters.reverse ≠ [] := by
  have hfront : front ≠ [] := by
    rintro rfl
    exact hn (size_of_cutAt h).1.symm
  simpa using Text.clusters_ne_nil hfront

theorem clusters_back_ne_nil {line front back : Text} {n : Nat}
    (h : cutAt line n = .ok (front, back)) (hn : ¬ line.size ≤ n) : back.clusters ≠ [] := by
  have hback : back ≠ [] := by
    rintro rfl
    obtain ⟨hfront, hline⟩ := size_of_cutAt h
    exact hn (Nat.le_of_eq (hline.symm.trans hfront))
  exact Text.clusters_ne_nil hback

/-! ## Motion -/

/-- Moves back until `amount` units are done, of which `moved` are done.  Returns the units done and where
the cursor is. -/
def moveLeftFrom (lines : List Text) (amount : Nat) (across : Bool) (cursor : Position)
    (moved : Nat) : Except Panic (Nat × Position) :=
  if hmoved : moved < amount then
    if hoffset : cursor.offset = 0 then
      if !across || cursor.line = 0 then .ok (moved, cursor)
      else do
        let line := cursor.line - 1
        moveLeftFrom lines amount across { offset := (← lineAt lines line).size, line } (moved + 1)
    else
      match lineAt lines cursor.line with
      | .error panic => .error panic
      | .ok line =>
        match hcut : cutAt line cursor.offset with
        | .error panic => .error panic
        | .ok (front, _) =>
          match hstep : stepBack amount front.clusters.reverse cursor.offset moved with
          | .error panic => .error panic
          | .ok (offset, done) =>
            have : moved < done :=
              lt_of_stepBack (clusters_front_ne_nil hcut hoffset) hmoved hstep
            moveLeftFrom lines amount across { cursor with offset } done
  else .ok (moved, cursor)
  termination_by amount - moved

/-- Moves on until `amount` units are done, of which `moved` are done.  Returns the units done and where
the cursor is. -/
def moveRightFrom (lines : List Text) (amount : Nat) (across : Bool) (cursor : Position)
    (moved : Nat) : Except Panic (Nat × Position) :=
  if hmoved : moved < amount then
    match lineAt lines cursor.line with
    | .error panic => .error panic
    | .ok line =>
      if hoffset : line.size ≤ cursor.offset then
        if !across || cursor.line + 1 = lines.length then .ok (moved, cursor)
        else moveRightFrom lines amount across { offset := 0, line := cursor.line + 1 } (moved + 1)
      else
        match hcut : cutAt line cursor.offset with
        | .error panic => .error panic
        | .ok (_, back) =>
          match hstep : stepOn amount back.clusters cursor.offset moved with
          | (offset, done) =>
            have : moved < done := lt_of_stepOn (clusters_back_ne_nil hcut hoffset) hmoved hstep
            moveRightFrom lines amount across { cursor with offset } done
  else .ok (moved, cursor)
  termination_by amount - moved

/-- Moves back over at most `amount` clusters and line breaks; how many it were. -/
def moveLeft (b : LineBuffer) (amount : Nat) (across : Bool) : Except Panic (Nat × LineBuffer) := do
  let (moved, cursor) ← moveLeftFrom b.lines amount across b.cursor 0
  return (moved, { b with cursor })

/-- Moves on over at most `amount` clusters and line breaks; how many it were. -/
def moveRight (b : LineBuffer) (amount : Nat) (across : Bool) : Except Panic (Nat × LineBuffer) := do
  let (moved, cursor) ← moveRightFrom b.lines amount across b.cursor 0
  return (moved, { b with cursor })

/-! ## Erasure -/

/-- Erases at most `amount` clusters and line breaks before the cursor; how many it were. -/
def eraseBefore (b : LineBuffer) (amount : Nat) (across : Bool) :
    Except Panic (Nat × LineBuffer) := do
  let (moved, b') ← b.moveLeft amount across
  if 0 < moved then
    let (_, b') ← b'.erase b'.cursor b.cursor
    return (moved, b')
  else return (moved, b')

/-- Erases at most `amount` clusters and line breaks after the cursor; how many it were. -/
def eraseAfter (b : LineBuffer) (amount : Nat) (across : Bool) :
    Except Panic (Nat × LineBuffer) := do
  let (moved, b') ← b.moveRight amount across
  if 0 < moved then
    let (_, b') ← b'.erase b.cursor b'.cursor
    return (moved, b')
  else return (moved, b')

end LineBuffer

end LineEditor
