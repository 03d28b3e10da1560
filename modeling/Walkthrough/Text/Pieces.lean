/-!
# Pieces between separators

A text cut at every separator has one piece more than separators.  Main statements: with the
separators put back the pieces are the text (`join_pieces`), and with a margin in front of every
piece they are the text with the margin behind every separator as well (`join_map_pieces`).  The
other way round, texts without a separator are the pieces of what they are joined to
(`pieces_join`).
-/

namespace Walkthrough.Text

/-- The pieces of a text between separators, the first piece apart from the others. -/
def piecesFrom (separator : Char) : List Char → List Char × List (List Char)
  | [] => ([], [])
  | c :: rest =>
    let (first, more) := piecesFrom separator rest
    if c = separator then ([], first :: more) else (c :: first, more)

/-- The pieces of a text between separators. -/
def pieces (separator : Char) (text : List Char) : List (List Char) :=
  (piecesFrom separator text).1 :: (piecesFrom separator text).2

/-- A list joined is its first text and each of the others behind a separator. -/
theorem join_cons (separator : Char) (first : List Char) (more : List (List Char)) :
    [separator].intercalate (first :: more) =
      first ++ more.flatMap (fun piece => separator :: piece) := by
  induction more generalizing first with
  | nil => simp
  | cons next more ih => simp [List.intercalate_cons_cons, ih]

theorem join_piecesFrom (separator : Char) (margin text : List Char) :
    (piecesFrom separator text).1 ++
        (piecesFrom separator text).2.flatMap (fun piece => separator :: (margin ++ piece)) =
      text.flatMap fun c => if c = separator then c :: margin else [c] := by
  induction text with
  | nil => rfl
  | cons c rest ih =>
    rw [List.flatMap_cons, ← ih, piecesFrom]
    by_cases same : c = separator
    · simp [same]
    · simp [same]

/-- The pieces, each behind a margin, with the separators between them. -/
theorem join_map_pieces (separator : Char) (margin text : List Char) :
    [separator].intercalate ((pieces separator text).map fun piece => margin ++ piece) =
      margin ++ text.flatMap fun c => if c = separator then c :: margin else [c] := by
  rw [pieces, List.map_cons, join_cons, List.flatMap_map, List.append_assoc, join_piecesFrom]

/-- The pieces with the separators between them are the text. -/
theorem join_pieces (separator : Char) (text : List Char) :
    [separator].intercalate (pieces separator text) = text := by
  simpa using join_map_pieces separator [] text

/-- No piece holds a separator. -/
theorem separator_notMem_of_mem_pieces {separator : Char} {text : List Char} :
    ∀ piece ∈ pieces separator text, separator ∉ piece := by
  induction text with
  | nil => simp [pieces, piecesFrom]
  | cons c rest ih =>
    obtain ⟨first, more⟩ := List.forall_mem_cons.mp ih
    intro piece mem
    by_cases same : c = separator
    · simp only [pieces, piecesFrom, if_pos same, List.mem_cons] at mem
      rcases mem with rfl | rfl | later
      · exact List.not_mem_nil
      · exact first
      · exact more piece later
    · simp only [pieces, piecesFrom, if_neg same, List.mem_cons] at mem
      rcases mem with rfl | later
      · rw [List.mem_cons, not_or]
        exact ⟨Ne.symm same, first⟩
      · exact more piece later

/-- The pieces are those that the standard library splits a text into. -/
theorem pieces_eq_splitOn (separator : Char) (text : List Char) :
    pieces separator text = text.splitOn separator := by
  induction text with
  | nil => simp [pieces, piecesFrom]
  | cons c rest ih =>
    rw [List.splitOn_eq_splitOnP, List.splitOnP_cons_eq_if_modifyHead, ← List.splitOn_eq_splitOnP,
      ← ih]
    by_cases same : c = separator
    · simp [pieces, piecesFrom, same]
    · simp [pieces, piecesFrom, same]

/-- Texts without a separator are the pieces of what they are joined to. -/
theorem pieces_join {separator : Char} {parts : List (List Char)}
    (h : ∀ part ∈ parts, separator ∉ part) (nonempty : parts ≠ []) :
    pieces separator ([separator].intercalate parts) = parts := by
  rw [pieces_eq_splitOn, List.splitOn_intercalate separator h nonempty]

end Walkthrough.Text
