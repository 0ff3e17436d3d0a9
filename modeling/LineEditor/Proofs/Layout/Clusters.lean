import LineEditor.Proofs.Clusters
import LineEditor.Proofs.Layout.Vertical

/-!
# Rows and clusters

A line without escape sequences has its clusters for pieces, so its rows are cut between clusters, and
a motion up or down goes to a place between clusters.

* Lines without escape sequences.  `joins_textOf` says that their pieces part as clusters do.
* Rows.  `exists_row_parts` says that a row begins and ends between clusters of its line.
* The result.  `verticalTarget_betweenClusters`, wherever the cursor was.
-/

namespace LineEditor

/-! ## Lines without escape sequences -/

namespace Text

/-- Pieces of a text without escape sequences part as its clusters do. -/
theorem joins_textOf {text : Text} (h : escapeChar ∉ text) {left right : List Piece}
    (hpieces : text.pieces = left ++ right) :
    joins (Piece.textOf left) (Piece.textOf right) = false := by
  rw [pieces_eq_map_clusters h] at hpieces
  obtain ⟨before, after, hclusters, rfl, rfl⟩ := List.map_eq_append_iff.1 hpieces
  have hjoins := joins_take_clusters text before.length
  rw [hclusters, List.take_left, List.drop_left] at hjoins
  rwa [Piece.textOf_map_cluster, Piece.textOf_map_cluster]

/-- A text without escape sequences is truncated between clusters. -/
theorem joins_truncate {text : Text} (h : escapeChar ∉ text) (room : Nat) :
    ∃ rest, text = (text.truncate room).1 ++ rest ∧ joins (text.truncate room).1 rest = false := by
  have hpieces := (Piece.fit_append room text.pieces).symm
  refine ⟨Piece.textOf (Piece.fit room text.pieces).2, ?_, joins_textOf h hpieces⟩
  rw [truncate, ← Piece.textOf_append, Piece.fit_append, textOf_pieces]

end Text

/-! ## Rows -/

/-- A row of a line without escape sequences begins and ends between clusters of the line. -/
theorem exists_row_parts {width line : Nat} {text : Text} {prompt : Prompt} {row : Row}
    (h : row ∈ Row.ofLine width line text prompt) (hescape : escapeChar ∉ text) :
    ∃ left right, text = left ++ (row.text ++ right) ∧ left.size = row.offset ∧
      Text.joins left (row.text ++ right) = false ∧
      Text.joins (left ++ row.text) right = false := by
  obtain ⟨before, after, hrows⟩ := List.append_of_mem h
  have hchained := Row.ofLine_chained width line text prompt
  rw [hrows] at hchained
  have hoffset := hchained.offset_eq
  -- the groups of pieces of the rows before it, of the row and of the rows after it
  have htexts := Row.map_text_ofLine width line text prompt
  have hflatten := Piece.flatten_wrap (width - prompt.width) width text.pieces
  generalize Piece.wrap (width - prompt.width) width text.pieces = groups at htexts hflatten
  rw [hrows, List.map_append, List.map_cons] at htexts
  obtain ⟨groupsBefore, groups', rfl, hbefore, htexts'⟩ := List.map_eq_append_iff.1 htexts.symm
  obtain ⟨group, groupsAfter, rfl, hrow, -⟩ := List.map_eq_cons_iff.1 htexts'
  have hleft : Piece.textOf groupsBefore.flatten = Row.shown before := by
    rw [Piece.textOf_flatten, hbefore]
    rfl
  rw [List.flatten_append, List.flatten_cons] at hflatten
  have hbegin := Text.joins_textOf hescape hflatten.symm
  have hend := Text.joins_textOf hescape (hflatten.symm.trans (List.append_assoc _ _ _).symm)
  rw [Piece.textOf_append, hleft, hrow] at hbegin hend
  refine ⟨Row.shown before, Piece.textOf groupsAfter.flatten, ?_, ?_, hbegin, hend⟩
  · rw [← hleft, ← hrow, ← Piece.textOf_append, ← Piece.textOf_append, hflatten,
      Text.textOf_pieces]
  · rw [hoffset, Nat.zero_add]

/-- The place on a row without escape sequences lies between clusters of the row's text. -/
theorem exists_positionOnRow_joins (source : Row) {target : Row}
    (h : escapeChar ∉ target.text) :
    ∃ passed rest, target.text = passed ++ rest ∧ Text.joins passed rest = false ∧
      positionOnRow source target =
        { offset := target.offset + passed.size, line := target.line } := by
  obtain ⟨room, hroom⟩ : ∃ room, positionOnRow source target =
      { offset := target.offset + (target.text.truncate room).1.size, line := target.line } := by
    unfold positionOnRow
    cases source.cursor <;> exact ⟨_, rfl⟩
  obtain ⟨rest, htext, hjoins⟩ := Text.joins_truncate h room
  exact ⟨_, rest, htext, hjoins, hroom⟩

/-! ## The result -/

/-- Over lines without escape sequences a motion up or down goes to a place between two
clusters. -/
theorem verticalTarget_betweenClusters {lines : List Text} {cursor p : Position}
    {prompts : Prompts} {width : Nat} {amount : Int} (hcursor : cursor.InLines lines)
    (hescape : ∀ line ∈ lines, escapeChar ∉ line)
    (h : verticalTarget (layout lines cursor prompts width) amount = some p) :
    p.BetweenClusters lines := by
  obtain ⟨-, -, -, -, -, hother⟩ := exists_cursorRow_takes hcursor prompts width
  obtain ⟨source, target, hne, -, htarget, rfl⟩ := verticalTarget_eq_some h
  -- the row that it goes to is a row of its line
  have hnone : target.cursor = none := hother _ _ htarget hne
  obtain ⟨text, htext, hrow⟩ := bare_mem_ofLine (List.mem_of_getElem? htarget) (.inr hnone)
  rw [Row.bare_eq_self hnone] at hrow
  have hclean := hescape text (List.mem_of_getElem? htext)
  obtain ⟨left, right, hparts, hsize, hbegin, hend⟩ := exists_row_parts hrow hclean
  have hclean' : escapeChar ∉ target.text := by
    intro hmem
    rw [hparts] at hclean
    exact hclean (List.mem_append_right _ (List.mem_append_left _ hmem))
  obtain ⟨passed, rest, hrest, hpassed, hplace⟩ := exists_positionOnRow_joins source hclean'
  rw [hrest] at hparts hbegin hend
  rw [List.append_assoc] at hparts hbegin
  have hwithin := Text.joins_within hbegin hpassed hend
  obtain ⟨n, hn⟩ := Text.exists_take_clusters_iff.2 hwithin
  rw [List.append_assoc, ← hparts] at hn
  rw [hplace]
  refine ⟨text, htext, n, ?_⟩
  rw [hn, Text.size_append, hsize]

end LineEditor
