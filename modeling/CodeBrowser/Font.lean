import CodeBrowser.Geometry.Scalar

/-!
# Fonts and their measures

## Main definitions

* `Font`: a family and a size. Fonts are told apart by `Font.key`.
* `Measurer`: what is known of every font.
* `Metrics`, `LineMetrics`: what is known of one font, and what of it does not depend on a text.
-/
namespace CodeBrowser

/-- A family of fonts. -/
inductive FontFamily where
  /-- Every character has one width. -/
  | monospace
  | proportional
  /-- A family that has been registered under a name. -/
  | named (name : String)
  deriving DecidableEq, Repr

/-- A font. -/
structure Font where
  family : FontFamily
  size : Float32

/-- Identifies a font. Two sizes are one if their bits are. -/
structure FontKey where
  family : FontFamily
  sizeBits : UInt32
  deriving DecidableEq, Repr

/-- The key of a font. -/
def Font.key (font : Font) : FontKey := ⟨font.family, font.size.toBits⟩

/-- What is known of every font. -/
structure Measurer (α : Type) where
  /-- The width of a text. -/
  width : Font → String → α
  /-- The distance between the tops of consecutive lines. -/
  spacing : Font → α
  /-- How far below the top of its line a text is drawn. -/
  inset : Font → α

/-- What is known of one font. -/
structure Metrics (α : Type) where
  width : String → α
  spacing : α
  inset : α

/-- What is known of the lines in one font. -/
structure LineMetrics (α : Type) where
  spacing : α
  inset : α

variable {α : Type}

/-- The metrics of a font. -/
def Measurer.metrics (measurer : Measurer α) (font : Font) : Metrics α :=
  ⟨measurer.width font, measurer.spacing font, measurer.inset font⟩

/-- What the metrics of a font tell of its lines. -/
def Metrics.lineMetrics (metrics : Metrics α) : LineMetrics α := ⟨metrics.spacing, metrics.inset⟩

@[simp] theorem Metrics.spacing_lineMetrics (metrics : Metrics α) :
    metrics.lineMetrics.spacing = metrics.spacing := rfl

/-- The width of a tab stop: that of one space for each of its columns. -/
def Metrics.tabWidth [Scalar α] (metrics : Metrics α) (tabStop : Nat) : α :=
  metrics.width " " * Scalar.ofNat tabStop

end CodeBrowser
