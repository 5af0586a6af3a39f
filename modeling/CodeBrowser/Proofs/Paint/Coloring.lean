import CodeBrowser.Paint.Coloring
import Mathlib.Data.List.Basic

/-!
# Colour buffers

## Main results

* `ColorBuffer.colorAt?_fill`: what filling a range of units changes.
* `ColorBuffer.size_build`: a buffer has a colour for each unit of its file.
-/

namespace CodeBrowser

namespace ColorBuffer

/-- Filling keeps the number of units. -/
theorem size_fill (buffer : ColorBuffer) (start count : Nat) (color : Color) :
    (buffer.fill start count color).size = buffer.size := by
  unfold fill size
  induction List.range' start count generalizing buffer with
  | nil => rfl
  | cons i rest ih => simpa using ih ⟨buffer.colors.setIfInBounds i color⟩

/-- Filling gives the colour to the units that are filled, and leaves the others. -/
theorem colorAt?_fill (buffer : ColorBuffer) (start count : Nat) (color : Color) (offset : Nat) :
    (buffer.fill start count color).colorAt? offset =
      if start ≤ offset ∧ offset < start + count ∧ offset < buffer.size then some color
      else buffer.colorAt? offset := by
  induction count generalizing start buffer with
  | zero =>
    rw [if_neg (by omega)]
    rfl
  | succ count ih =>
    have hstep : buffer.fill start (count + 1) color =
        fill ⟨buffer.colors.setIfInBounds start color⟩ (start + 1) count color := rfl
    have hsize : size ⟨buffer.colors.setIfInBounds start color⟩ = buffer.size :=
      Array.size_setIfInBounds
    have hget : colorAt? ⟨buffer.colors.setIfInBounds start color⟩ offset =
        if start = offset ∧ offset < buffer.size then some color else buffer.colorAt? offset := by
      unfold colorAt? size
      rw [Array.getElem?_setIfInBounds]
      split_ifs <;> simp_all
    rw [hstep, ih, hsize, hget]
    by_cases hrest : start + 1 ≤ offset ∧ offset < start + 1 + count ∧ offset < buffer.size
    · rw [if_pos hrest, if_pos (by omega)]
    · rw [if_neg hrest]
      exact if_congr (by omega) rfl rfl

theorem size_paintRef (buffer : ColorBuffer) (file : SourceFile) (ref : Ref) (color : Color) :
    (buffer.paintRef file ref color).size = buffer.size := by
  unfold paintRef
  dsimp only
  split_ifs
  · exact size_fill ..
  · rfl

/-- The lexer's kinds are made to fit, whatever their number. -/
theorem length_fitKinds (file : SourceFile) (lexer : Lexer) :
    (fitKinds file lexer).length = file.unitCount := by
  simp only [fitKinds, List.length_append, List.length_take, List.length_replicate]
  omega

theorem size_lexical (file : SourceFile) (lexer : Lexer) (theme : Theme) :
    (lexical file lexer theme).size = file.unitCount := by
  simp [lexical, size, length_fitKinds]

/-- **One colour for each unit.** -/
theorem size_build (file : SourceFile) (lexer : Lexer) (symbols : SymbolSource) (theme : Theme) :
    (build file lexer symbols theme).size = file.unitCount := by
  unfold build
  dsimp only
  split_ifs
  · exact size_lexical ..
  · rw [← size_lexical file lexer theme]
    generalize lexical file lexer theme = buffer
    induction symbols.fileRefs file generalizing buffer with
    | nil => rfl
    | cons ref rest ih =>
      rw [List.foldl_cons, ih]
      split
      · exact size_paintRef ..
      · rfl

theorem exists_colorAt?_of_lt {buffer : ColorBuffer} {offset : Nat} (h : offset < buffer.size) :
    ∃ color, buffer.colorAt? offset = some color :=
  ⟨buffer.colors[offset], Array.getElem?_eq_getElem h⟩

end ColorBuffer

end CodeBrowser
