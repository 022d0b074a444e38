import ScopedMarkup.Markup.Reader
import ScopedMarkup.Proofs.Markup.Piece

/-! # Runs of reading

What reading a source comes to, piece by piece. A run that fails does so at one of
these points, with the fault of the piece that should begin there.
-/

namespace ScopedMarkup.Markup

variable {config : Config} {source text rest : Text} {piece : Piece} {progress : Progress}

theorem readFrom_eq (nonempty : text.trimStart ≠ []) :
    readFrom config progress text =
      match readPiece config progress.openTags text.trimStart with
      | .error fault => .error fault
      | .ok (piece, following) => readFrom config (progress.add piece) following := by
  rw [readFrom, dif_neg nonempty]
  split
  · rename_i failed
    rw [failed]
  · rename_i readOne
    rw [readOne]

theorem read_eq_ok_iff {tree : Node Css.Selector} :
    read config source = .ok tree ↔ readFrom config .start source = .ok tree := by
  rw [read]
  cases readFrom config .start source <;> simp

theorem read_eq_error_iff {error : Error} :
    read config source = .error error ↔
      ∃ fault, readFrom config .start source = .error fault ∧ .ofFault source fault = error := by
  rw [read]
  cases readFrom config .start source <;> simp

/-- Reading a source has come to this progress and has this text left. -/
inductive Reached (config : Config) (source : Text) : Progress → Text → Prop where
  | start : Reached config source .start source
  | piece {progress : Progress} {text : Text} {piece : Piece} {rest : Text} :
      Reached config source progress text → text.trimStart ≠ [] →
      readPiece config progress.openTags text.trimStart = .ok (piece, rest) →
      Reached config source (progress.add piece) rest

namespace Reached

theorem suffix (reached : Reached config source progress text) : text <:+ source := by
  induction reached with
  | start => exact List.suffix_refl source
  | piece _ _ readOne induction =>
      exact ((readPiece_suffix readOne).trans (List.dropWhile_suffix isBlank)).trans induction

/-- Reading goes on from where it has come to. -/
theorem readFrom_eq (reached : Reached config source progress text) :
    readFrom config .start source = readFrom config progress text := by
  induction reached with
  | start => rfl
  | piece _ nonempty readOne induction =>
      rw [induction, Markup.readFrom_eq nonempty, readOne]

/-- A run that succeeds has come to the end, with no element open. -/
theorem exists_of_ok {tree : Node Css.Selector} (reached : Reached config source progress text)
    (read : readFrom config progress text = .ok tree) :
    ∃ last rest, Reached config source last rest ∧ rest.trimStart = [] ∧ last.around = [] ∧
      tree = .ofTop last.inside := by
  fun_induction readFrom config progress text with
  | case1 progress text trimmed empty closed =>
      cases read
      exact ⟨progress, text, reached, empty, List.isEmpty_iff.mp closed, rfl⟩
  | case2 | case3 => cases read
  | case4 progress text trimmed nonempty piece following readOne induction =>
      exact induction (reached.piece nonempty readOne) read

/-- A run that fails has come to where no further piece can be read. -/
theorem exists_of_error {fault : Fault} (reached : Reached config source progress text)
    (failed : readFrom config progress text = .error fault) :
    ∃ last rest, Reached config source last rest ∧
      (rest.trimStart = [] ∧ fault = .unexpected [] ∨
        rest.trimStart ≠ [] ∧ readPiece config last.openTags rest.trimStart = .error fault) := by
  fun_induction readFrom config progress text with
  | case1 => cases failed
  | case2 progress text trimmed empty unclosed =>
      cases failed
      exact ⟨progress, text, reached, .inl ⟨empty, congrArg Fault.unexpected empty⟩⟩
  | case3 progress text trimmed nonempty fault readOne =>
      cases failed
      exact ⟨progress, text, reached, .inr ⟨nonempty, readOne⟩⟩
  | case4 progress text trimmed nonempty piece following readOne induction =>
      exact induction (reached.piece nonempty readOne) failed

end Reached

/-- The tree of a source is made of the nodes that reading has come to at its end. -/
theorem exists_reached_of_read {tree : Node Css.Selector} (found : read config source = .ok tree) :
    ∃ last rest, Reached config source last rest ∧ last.around = [] ∧
      tree = .ofTop last.inside := by
  rcases Reached.start.exists_of_ok (read_eq_ok_iff.mp found) with
    ⟨last, rest, reached, -, closed, equal⟩
  exact ⟨last, rest, reached, closed, equal⟩

end ScopedMarkup.Markup
