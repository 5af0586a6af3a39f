import CodeBrowser.Font.WidthCache

/-!
# Computations that measure

A computation that lays out text asks for one width after another, and what it asks next may depend
on the answers it had. The widths may come from the metrics of a font or through a cache.

## Main definitions

* `Measuring`: computations that ask for widths.
* `Measuring.eval`: the result if the metrics of a font answer.
* `Measuring.through`: the result if a cache answers, and the cache that is left.
-/
namespace CodeBrowser

/-- A computation that asks for the widths of texts. -/
inductive Measuring (α β : Type) where
  | done (result : β)
  | ask (text : String) (next : α → Measuring α β)

namespace Measuring

variable {α β γ : Type}

/-- Goes on with another computation. -/
def bind : Measuring α β → (β → Measuring α γ) → Measuring α γ
  | .done result, next => next result
  | .ask text rest, next => .ask text fun width => (rest width).bind next

instance : Monad (Measuring α) where
  pure := .done
  bind := bind

/-- The width of a text. -/
def width (text : String) : Measuring α α := .ask text .done

/-- The result if the metrics of a font answer. -/
def eval (metrics : Metrics α) : Measuring α β → β
  | .done result => result
  | .ask text next => (next (metrics.width text)).eval metrics

/-- The result if each width comes from a cache or else from the measurer, and the cache that is
left. -/
def through (measurer : Measurer α) (font : Font) (cache : WidthCache α) :
    Measuring α β → β × WidthCache α
  | .done result => (result, cache)
  | .ask text next =>
    let asked := cache.ask measurer font text
    (next asked.width).through measurer font asked.cache

end Measuring

end CodeBrowser
