import CodeBrowser.Font.Measuring
import Mathlib.Data.List.Forall2

/-!
# The cache of widths

A cache that is filled by a measurer, and emptied font by font or as a whole, never holds a width
that the measurer would not give (`WidthCache.Sound`): fonts are told apart by their keys, and fonts
with one key are one font. So its answers are those of the measurer.

Whether the width of a text is known changes only when it is asked for or forgotten. A width that is
not known is measured when it is asked for and known from then on, and so it is measured once from
one eviction of its font to the next.

A computation that measures is answered through such a cache as it is by the metrics of the font,
for each answer is right and leaves such a cache behind.

## Main definitions

* `WidthCache.Request.asked?`, `WidthCache.Request.forgets`: what a request asks for and evicts.
* `WidthCache.Request.answer`: the answer without a cache.
* `WidthCache.after`: the cache that requests leave.
* `WidthCache.Sound`: all that is known is as the measurer has it.
* `Measuring.asks`: the texts whose widths a computation asks for.

## Main results

* `WidthCache.known_evict`: an eviction leaves all other fonts alone.
* `WidthCache.Sound.serve`, `WidthCache.Sound.after`: what is known stays right.
* `WidthCache.Sound.answers_run`: the answers are those of the measurer.
* `WidthCache.count_measured_run`: each width is measured once between evictions.
* `WidthCache.Sound.through_eq`: computations come out the same through the cache.
-/

namespace CodeBrowser

/-- A font is known by its family and the bits of its size. -/
theorem Font.key_injective : Function.Injective Font.key := by
  rintro ⟨family, ⟨⟨bits, hbits⟩⟩⟩ ⟨family', ⟨⟨bits', hbits'⟩⟩⟩ h
  obtain ⟨rfl, rfl⟩ := FontKey.mk.inj h
  rfl

namespace WidthCache

variable {α : Type} {cache : WidthCache α} {measurer : Measurer α} {font other : Font}
  {text : String}

/-! ### What is known -/

theorem find?_empty : (empty : WidthCache α).find? font text = none := rfl

theorem lookup_filter_self (removed : FontKey) (fonts : List (FontKey × List (String × α))) :
    (fonts.filter (·.1 ≠ removed)).lookup removed = none := by
  refine List.lookup_eq_none_iff.2 fun entry hentry => ?_
  have hkey : entry.1 ≠ removed := by simpa using (List.mem_filter.1 hentry).2
  simpa using hkey.symm

theorem lookup_filter_ne {key removed : FontKey} (hkey : key ≠ removed)
    (fonts : List (FontKey × List (String × α))) :
    (fonts.filter (·.1 ≠ removed)).lookup key = fonts.lookup key := by
  induction fonts with
  | nil => rfl
  | cons entry fonts ih =>
    obtain ⟨first, widths⟩ := entry
    by_cases hfirst : first = removed
    · have hne : (key == first) = false := by simpa [hfirst] using hkey
      rw [List.filter_cons_of_neg (by simpa using hfirst), List.lookup_cons, hne, ih]
    · rw [List.filter_cons_of_pos (by simpa using hfirst), List.lookup_cons, List.lookup_cons, ih]

/-- **An eviction leaves all other fonts alone.** -/
theorem known_evict (cache : WidthCache α) (font other : Font) :
    (cache.evict font).known other = if other.key = font.key then [] else cache.known other := by
  unfold known evict
  split_ifs with hkey
  · rw [hkey, lookup_filter_self, Option.getD_none]
  · rw [lookup_filter_ne hkey]

theorem known_insert (cache : WidthCache α) (font other : Font) (text : String) (width : α) :
    (cache.insert font text width).known other =
      if other.key = font.key then (text, width) :: cache.known font else cache.known other := by
  by_cases hkey : other.key = font.key
  · simp [known, insert, hkey]
  · have hne : (other.key == font.key) = false := by simpa using hkey
    have hevict := known_evict cache font other
    rw [if_neg hkey] at hevict ⊢
    rw [← hevict]
    simp only [known, insert, List.lookup_cons, hne]

theorem find?_evict :
    (cache.evict font).find? other text =
      if other.key = font.key then none else cache.find? other text := by
  rw [find?, known_evict]
  split_ifs <;> rfl

theorem find?_insert {width : α} {asked : String} :
    (cache.insert font asked width).find? other text =
      if other.key = font.key ∧ text = asked then some width else cache.find? other text := by
  rw [find?, known_insert]
  by_cases hkey : other.key = font.key
  · have hknown : cache.known other = cache.known font := by rw [known, known, hkey]
    by_cases htext : text = asked
    · simp [hkey, htext]
    · have hne : (text == asked) = false := by simpa using htext
      simp [hkey, htext, hne, find?, hknown, List.lookup_cons]
  · simp [hkey, find?]

theorem ask_of_some {width : α} (h : cache.find? font text = some width) :
    cache.ask measurer font text = ⟨width, [], cache⟩ := by
  rw [ask, h]

theorem ask_of_none (h : cache.find? font text = none) :
    cache.ask measurer font text =
      ⟨measurer.width font text, [⟨font.key, text⟩],
        cache.insert font text (measurer.width font text)⟩ := by
  rw [ask, h]

/-- What has been asked for is known, and nothing else has changed. -/
theorem find?_ask {asked : String} :
    (cache.ask measurer font asked).cache.find? other text =
      if other.key = font.key ∧ text = asked then
        some (cache.ask measurer font asked).width else cache.find? other text := by
  cases hfind : cache.find? font asked with
  | none => rw [ask_of_none hfind, find?_insert]
  | some width =>
    rw [ask_of_some hfind]
    split_ifs with h
    · obtain ⟨hkey, rfl⟩ := h
      rw [Font.key_injective hkey, hfind]
    · rfl

/-! ### What is known is right -/

/-- All that is known is as the measurer has it. -/
def Sound (measurer : Measurer α) (cache : WidthCache α) : Prop :=
  ∀ font text width, cache.find? font text = some width → width = measurer.width font text

theorem sound_empty : (empty : WidthCache α).Sound measurer := fun _ _ _ h => nomatch h

namespace Sound

variable (h : cache.Sound measurer)

include h

theorem width_ask (font : Font) (text : String) :
    (cache.ask measurer font text).width = measurer.width font text := by
  cases hfind : cache.find? font text with
  | none => rw [ask_of_none hfind]
  | some width =>
    rw [ask_of_some hfind]
    exact h font text width hfind

theorem evict (font : Font) : (cache.evict font).Sound measurer := by
  intro other text width hfind
  rw [find?_evict] at hfind
  split_ifs at hfind
  exact h other text width hfind

theorem ask (font : Font) (text : String) :
    (cache.ask measurer font text).cache.Sound measurer := by
  intro other asked width hfind
  rw [find?_ask] at hfind
  split_ifs at hfind with heq
  · obtain ⟨hkey, rfl⟩ := heq
    rw [← Option.some.inj hfind, h.width_ask, Font.key_injective hkey]
  · exact h other asked width hfind

end Sound

variable [Scalar α]

/-- **A request leaves what is known right.** -/
theorem Sound.serve (h : cache.Sound measurer) (request : Request) :
    (serve measurer cache request).cache.Sound measurer := by
  cases request with
  | width font text => exact h.ask font text
  | tabWidth font tabStop => exact h.ask font " "
  | metrics font => exact h
  | evict font => exact h.evict font
  | clear => exact sound_empty

/-! ### Runs -/

/-- The cache that requests leave. -/
def after (measurer : Measurer α) (cache : WidthCache α) (requests : List Request) :
    WidthCache α :=
  requests.foldl (fun cache request => (serve measurer cache request).cache) cache

theorem after_append (requests more : List Request) :
    cache.after measurer (requests ++ more) = (cache.after measurer requests).after measurer more :=
  List.foldl_append

/-- **Whatever is asked, all that is known stays right.** -/
theorem Sound.after (h : cache.Sound measurer) (requests : List Request) :
    (cache.after measurer requests).Sound measurer := by
  induction requests generalizing cache with
  | nil => exact h
  | cons request requests ih => exact ih (h.serve request)

namespace Request

/-- What a request asks the width of. -/
def asked? : Request → Option Measurement
  | .width font text => some ⟨font.key, text⟩
  | .tabWidth font _ => some ⟨font.key, " "⟩
  | _ => none

/-- Whether a request makes the cache forget a font. -/
def forgets (request : Request) (font : Font) : Bool :=
  match request with
  | .evict evicted => font.key = evicted.key
  | .clear => true
  | _ => false

theorem asked?_of_forgets (request : Request) (h : request.forgets font = true) :
    request.asked? = none := by
  cases request with
  | evict evicted => rfl
  | clear => rfl
  | width font text => exact nomatch h
  | tabWidth font tabStop => exact nomatch h
  | metrics font => exact nomatch h

/-- The answer to a request without a cache. -/
def answer (measurer : Measurer α) : Request → Reply α
  | .width font text => .width (measurer.width font text)
  | .tabWidth font tabStop => .width (measurer.width font " " * Scalar.ofNat tabStop)
  | .metrics font => .metrics (measurer.spacing font) (measurer.inset font)
  | _ => .done

end Request

theorem Sound.reply_serve (h : cache.Sound measurer) (request : Request) :
    (WidthCache.serve measurer cache request).reply = request.answer measurer := by
  cases request with
  | width font text => exact congrArg Reply.width (h.width_ask font text)
  | tabWidth font tabStop =>
    exact congrArg (fun width => Reply.width (width * Scalar.ofNat tabStop)) (h.width_ask font " ")
  | metrics font => rfl
  | evict font => rfl
  | clear => rfl

theorem measured_serve_subset (cache : WidthCache α) (request : Request) :
    (serve measurer cache request).measured ⊆ request.asked?.toList := by
  have hasked (font : Font) (text : String) :
      (cache.ask measurer font text).measured ⊆ [⟨font.key, text⟩] := by
    cases hfind : cache.find? font text with
    | none => rw [ask_of_none hfind]; exact List.Subset.refl _
    | some width => rw [ask_of_some hfind]; exact List.nil_subset _
  cases request with
  | width font text => exact hasked font text
  | tabWidth font tabStop => exact hasked font " "
  | metrics font => exact List.Subset.refl _
  | evict font => exact List.Subset.refl _
  | clear => exact List.Subset.refl _

/-- **The answers are those of the measurer**, and nothing is measured but what is asked for. -/
theorem Sound.answers_run (h : cache.Sound measurer) (requests : List Request) :
    List.Forall₂ (fun request served => served.reply = request.answer measurer ∧
      served.measured ⊆ request.asked?.toList) requests (run measurer cache requests) := by
  induction requests generalizing cache with
  | nil => exact .nil
  | cons request requests ih =>
    exact .cons ⟨h.reply_serve request, measured_serve_subset cache request⟩ (ih (h.serve request))

/-! ### What is measured -/

/-- A width is unknown after a request if it was not asked for, and if it was unknown before or has
been forgotten. -/
theorem find?_serve_eq_none_iff (request : Request) :
    (serve measurer cache request).cache.find? font text = none ↔
      request.asked? ≠ some ⟨font.key, text⟩ ∧
        (cache.find? font text = none ∨ request.forgets font = true) := by
  have hasked (asking : Font) (asked : String) :
      (cache.ask measurer asking asked).cache.find? font text = none ↔
        some (⟨asking.key, asked⟩ : Measurement) ≠ some ⟨font.key, text⟩ ∧
          cache.find? font text = none := by
    rw [find?_ask, ne_eq, Option.some.injEq, Measurement.mk.injEq, eq_comm (a := asking.key),
      eq_comm (a := asked)]
    split_ifs with heq <;> simp [heq]
  cases request with
  | width asking asked => simpa [serve, Request.asked?, Request.forgets] using hasked asking asked
  | tabWidth asking tabStop =>
    simpa [serve, Request.asked?, Request.forgets] using hasked asking " "
  | metrics asking => simp [serve, Request.asked?, Request.forgets]
  | evict evicted =>
    by_cases hkey : font.key = evicted.key <;>
      simp [serve, find?_evict, Request.asked?, Request.forgets, hkey]
  | clear => simp [serve, find?_empty, Request.asked?, Request.forgets]

/-- A width is measured if it is unknown and asked for. -/
theorem count_measured_serve (request : Request) :
    (serve measurer cache request).measured.count ⟨font.key, text⟩ =
      if cache.find? font text = none ∧ request.asked? = some ⟨font.key, text⟩ then 1 else 0 := by
  have hasked (asking : Font) (asked : String) :
      (cache.ask measurer asking asked).measured.count ⟨font.key, text⟩ =
        if cache.find? font text = none ∧
          some (⟨asking.key, asked⟩ : Measurement) = some ⟨font.key, text⟩ then 1 else 0 := by
    simp only [Option.some.injEq]
    by_cases heq : (⟨asking.key, asked⟩ : Measurement) = ⟨font.key, text⟩
    · obtain ⟨hkey, rfl⟩ := Measurement.mk.inj heq
      obtain rfl := Font.key_injective hkey
      cases hfind : cache.find? asking asked with
      | none => simp [ask_of_none hfind]
      | some width => simp [ask_of_some hfind]
    · cases hfind : cache.find? asking asked with
      | none => simp [ask_of_none hfind, heq]
      | some width => simp [ask_of_some hfind, heq]
  cases request with
  | width asking asked => exact hasked asking asked
  | tabWidth asking tabStop => exact hasked asking " "
  | metrics asking => simp [serve, Request.asked?]
  | evict evicted => simp [serve, Request.asked?]
  | clear => simp [serve, Request.asked?]

/-- **Each width is measured once.** As long as its font is not forgotten, a width is measured once
if it is asked for and was not known, and else never. -/
theorem count_measured_run {requests : List Request}
    (hforgets : ∀ request ∈ requests, request.forgets font = false) :
    ((run measurer cache requests).flatMap (·.measured)).count ⟨font.key, text⟩ =
      if cache.find? font text = none ∧
        some ⟨font.key, text⟩ ∈ requests.map Request.asked? then 1 else 0 := by
  induction requests generalizing cache with
  | nil => simp [run]
  | cons request requests ih =>
    obtain ⟨hkeeps, hforgets⟩ := List.forall_mem_cons.1 hforgets
    -- Once the first request has asked for the width, it is known to the others.
    rw [run, List.flatMap_cons, List.count_append, count_measured_serve, ih hforgets]
    simp only [find?_serve_eq_none_iff, hkeeps, List.map_cons, List.mem_cons]
    by_cases hasked : request.asked? = some ⟨font.key, text⟩
    · simp [hasked]
    · simp [hasked, Ne.symm hasked]

/-- Nothing is known of any font at the start, nor of a font that has just been forgotten. -/
theorem find?_after_eq_none {requests : List Request}
    (hlast : ∀ request ∈ requests.getLast?, request.forgets font = true) :
    ((empty : WidthCache α).after measurer requests).find? font text = none := by
  rcases List.eq_nil_or_concat requests with rfl | ⟨init, last, rfl⟩
  · exact find?_empty
  · have hforgets : last.forgets font = true := hlast last (by simp)
    have hasked : last.asked? = none := last.asked?_of_forgets hforgets
    rw [List.concat_eq_append, after_append]
    refine (find?_serve_eq_none_iff last).2 ⟨?_, Or.inr hforgets⟩
    simp [hasked]

end WidthCache

/-! ### Computations through the cache -/

namespace Measuring

variable {α β : Type}

/-- The texts whose widths a computation asks for if the metrics of a font answer. -/
def asks (metrics : Metrics α) : Measuring α β → List String
  | .done _ => []
  | .ask text next => text :: (next (metrics.width text)).asks metrics

end Measuring

/-- **Computations come out the same through the cache.** The cache that is left is the one that
requests for the same widths leave. -/
theorem WidthCache.Sound.through_eq {α β : Type} [Scalar α] {measurer : Measurer α}
    {cache : WidthCache α} (h : cache.Sound measurer) (font : Font)
    (computation : Measuring α β) :
    computation.through measurer font cache =
      (computation.eval (measurer.metrics font),
        cache.after measurer ((computation.asks (measurer.metrics font)).map (.width font))) := by
  induction computation generalizing cache with
  | done result => rfl
  | ask text next ih =>
    have hwidth : (cache.ask measurer font text).width = (measurer.metrics font).width text :=
      h.width_ask font text
    rw [Measuring.through, hwidth, ih _ (h.ask font text)]
    rfl

end CodeBrowser
