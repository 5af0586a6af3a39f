import CodeBrowser.Font

/-!
# The width cache

Measuring a text is slow and the same characters occur again and again, so each width is measured
once and kept until its font is evicted.

## Main definitions

* `WidthCache`: the widths that are known, font by font.
* `WidthCache.ask`: a width, measured only if it is not known.
* `WidthCache.metrics`: the metrics of a font, with the known widths taken from the cache.
* `WidthCache.serve`, `WidthCache.run`: requests, their answers and the measurements they cause.
-/
namespace CodeBrowser

/-- The widths that are known, font by font. -/
structure WidthCache (α : Type) where
  fonts : List (FontKey × List (String × α))

/-- A text measured in a font. -/
structure Measurement where
  font : FontKey
  text : String
  deriving DecidableEq, Repr

namespace WidthCache

variable {α : Type}

/-- The cache that knows nothing. -/
def empty : WidthCache α := ⟨[]⟩

/-- The known widths of a font. -/
def known (cache : WidthCache α) (font : Font) : List (String × α) :=
  (cache.fonts.lookup font.key).getD []

/-- The width of a text, if it is known. -/
def find? (cache : WidthCache α) (font : Font) (text : String) : Option α :=
  (cache.known font).lookup text

/-- The number of widths known of a font. -/
def count (cache : WidthCache α) (font : Font) : Nat := (cache.known font).length

/-- The cache without the widths of a font. -/
def evict (cache : WidthCache α) (font : Font) : WidthCache α :=
  ⟨cache.fonts.filter (·.1 ≠ font.key)⟩

/-- The cache that also knows a width. -/
def insert (cache : WidthCache α) (font : Font) (text : String) (width : α) : WidthCache α :=
  ⟨(font.key, (text, width) :: cache.known font) :: (cache.evict font).fonts⟩

/-- The outcome of asking for a width: the width, the measurements it took and the cache it left. -/
structure Asked (α : Type) where
  width : α
  measured : List Measurement
  cache : WidthCache α

/-- Asks for the width of a text. It is measured if it is not known, and known from then on. -/
def ask (cache : WidthCache α) (measurer : Measurer α) (font : Font) (text : String) : Asked α :=
  match cache.find? font text with
  | some width => ⟨width, [], cache⟩
  | none =>
    let width := measurer.width font text
    ⟨width, [⟨font.key, text⟩], cache.insert font text width⟩

/-- The metrics of a font as they are read through the cache. -/
def metrics (cache : WidthCache α) (measurer : Measurer α) (font : Font) : Metrics α :=
  ⟨fun text => (cache.ask measurer font text).width, measurer.spacing font, measurer.inset font⟩

/-! ### Requests -/

/-- What can be asked of a cache. -/
inductive Request where
  | width (font : Font) (text : String)
  | tabWidth (font : Font) (tabStop : Nat)
  | metrics (font : Font)
  | evict (font : Font)
  | clear

/-- What a request is answered. -/
inductive Reply (α : Type) where
  | width (width : α)
  | metrics (spacing inset : α)
  | done

/-- The outcome of a request: its answer, the measurements it caused and the cache it left. -/
structure Served (α : Type) where
  reply : Reply α
  measured : List Measurement
  cache : WidthCache α

/-- Answers one request. -/
def serve [Scalar α] (measurer : Measurer α) (cache : WidthCache α) : Request → Served α
  | .width font text =>
    let asked := cache.ask measurer font text
    ⟨.width asked.width, asked.measured, asked.cache⟩
  | .tabWidth font tabStop =>
    let asked := cache.ask measurer font " "
    ⟨.width (asked.width * Scalar.ofNat tabStop), asked.measured, asked.cache⟩
  | .metrics font => ⟨.metrics (measurer.spacing font) (measurer.inset font), [], cache⟩
  | .evict font => ⟨.done, [], cache.evict font⟩
  | .clear => ⟨.done, [], empty⟩

/-- Answers requests one after another. -/
def run [Scalar α] (measurer : Measurer α) (cache : WidthCache α) : List Request → List (Served α)
  | [] => []
  | request :: rest =>
    let served := serve measurer cache request
    served :: run measurer served.cache rest

end WidthCache

end CodeBrowser
