import CodeBrowser.Font.Measuring
import CodeBrowser.Layout.Line

/-!
# Walking along a line

A walk along a line measures one character after another and shows each box to a visitor. It goes
only as far as the visitor wants.

## Main definitions

* `walkUnits`: the walk along a row of code units.
* `SourceFile.walkLine`: the walk along a line of a file.
* `SourceFile.blankLayout`: what is known of a line before the walk.
-/
namespace CodeBrowser

variable {α σ : Type} [Scalar α]

/-- Measures a character of one unit. -/
def measureUnit (tabWidth leftMargin : α) (column : Nat) (offset : α) (u : CodeUnit) :
    Measuring α (CharBox α) :=
  if u = 9 then pure ⟨column, leftMargin + offset, tabAdvance tabWidth offset, []⟩
  else do
    let text := [unitChar u]
    let width ← Measuring.width (String.ofList text)
    return ⟨column, leftMargin + offset, width, text⟩

/-- Shows a box to a visitor and goes on unless that is enough for the visitor. -/
def visitThen (visit : CharBox α → σ → ForInStep σ) (box : CharBox α) (state : σ)
    (next : σ → Measuring α σ) : Measuring α σ :=
  match visit box state with
  | .done state => pure state
  | .yield state => next state

/-- Walks along the units, the first of which stands at `column` and is `offset` away from the left
margin. -/
def walkUnits (visit : CharBox α → σ → ForInStep σ) (tabWidth leftMargin : α) (column : Nat)
    (offset : α) (state : σ) : List CodeUnit → Measuring α σ
  | [] => pure state
  | [u] => do
    let box ← measureUnit tabWidth leftMargin column offset u
    visitThen visit box state pure
  | u :: v :: rest =>
    if isPair u v then do
      let text := [pairChar u v]
      let width ← Measuring.width (String.ofList text)
      visitThen visit ⟨column, leftMargin + offset, width, text⟩ state fun state =>
        walkUnits visit tabWidth leftMargin (column + 2) (offset + width) state rest
    else do
      let box ← measureUnit tabWidth leftMargin column offset u
      visitThen visit box state fun state =>
        walkUnits visit tabWidth leftMargin (column + 1) (offset + box.width) state (v :: rest)

namespace SourceFile

/-- Walks along a line. The width of a tab stop is measured first. -/
def walkLine (file : SourceFile) (margins : Margins α) (tabStop line : Nat)
    (visit : CharBox α → σ → ForInStep σ) (state : σ) : Measuring α σ := do
  let space ← Measuring.width " "
  walkUnits visit (space * Scalar.ofNat tabStop) margins.left 0 (Scalar.ofNat 0) state
    (file.lineContent line)

/-- The layout of a line before any of its characters is measured. -/
def blankLayout (file : SourceFile) (metrics : LineMetrics α) (margins : Margins α) (line : Nat) :
    LineLayout α :=
  let top := margins.top + Scalar.ofNat line * metrics.spacing
  { start := file.lineStart line
    leftMargin := margins.left
    top := top
    height := metrics.spacing
    textTop := top + metrics.inset
    boxes := [] }

end SourceFile

end CodeBrowser
