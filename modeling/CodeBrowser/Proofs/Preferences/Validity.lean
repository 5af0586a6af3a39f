import CodeBrowser.Preferences.Store
import CodeBrowser.Proofs.Text.Utf8
import CodeBrowser.Session.Start
import Mathlib.Logic.Basic

/-!
# Valid preferences

Whatever is stored, the preferences that the viewer runs with are valid: each number is in its
range, both built-in themes are present, and the chosen theme is one of those present, unless it is
that of the desktop. So there is a theme to start with on every desktop. Being valid is the same as
being left alone when the built-in themes are added and the values are brought into their ranges.

A built-in theme is added between themes that keep their order, and only if none has its name, so
that a name which led to a theme leads to the same theme afterwards. This is said once, in `Adds`,
for both of them.

## Main definitions

* `Preferences.InRange`, `Preferences.MarginsInRange`: the ranges of numbers and margins.
* `Preferences.Adds`: a theme is added to some themes unless its name is taken.
* `Preferences.IsValid`: preferences that the viewer can run with.

## Main results

* `Preferences.isValid_sanitized`: what any preferences become.
* `Preferences.isValid_iff`: valid preferences, and no others, stay as they are.
* `Preferences.load_eq_of_read`: what a file that can be understood gives.
* `Preferences.isValid_load`: the preferences to run with are valid, whatever is on disk.
-/

namespace CodeBrowser.Preferences

/-! ### Ranges -/

/-- A finite number of the interval from `low` to `high`. -/
structure InRange (low high x : Float32) : Prop where
  isFinite : x.isFinite = true
  low_le : low ≤ x
  le_high : x ≤ high

section Fit

variable {low high fallback x : Float32}

/-- A number in range is the closest one to itself. -/
theorem fit_of_inRange (h : InRange low high x) : fit low high fallback x = x := by
  rw [fit, if_pos h.isFinite, if_pos h.low_le, if_pos h.le_high]

/-- Any number is brought into a range that has its two ends and the fallback in it. -/
theorem inRange_fit (hlow : InRange low high low) (hhigh : InRange low high high)
    (hfallback : InRange low high fallback) : InRange low high (fit low high fallback x) := by
  unfold fit
  split_ifs with hfinite hle hge
  · exact ⟨hfinite, hle, hge⟩
  · exact hhigh
  · exact hlow
  · exact hfallback

end Fit

/-- A font of 6 to 72 points. -/
theorem inRange_fit_fontSize (x : Float32) : InRange 6 72 (fit 6 72 14 x) := by
  refine inRange_fit ?_ ?_ ?_ <;> constructor <;> decide

/-- A margin of 0 to 64 points. -/
theorem inRange_fit_margin (x : Float32) : InRange 0 64 (fit 0 64 0 x) := by
  refine inRange_fit ?_ ?_ ?_ <;> constructor <;> decide

/-- Margins of 0 to 64 points. -/
structure MarginsInRange (m : Margins Float32) : Prop where
  left : InRange 0 64 m.left
  top : InRange 0 64 m.top
  right : InRange 0 64 m.right
  bottom : InRange 0 64 m.bottom

theorem marginsInRange_fitMargins (m : Margins Float32) : MarginsInRange (fitMargins m) :=
  ⟨inRange_fit_margin m.left, inRange_fit_margin m.top, inRange_fit_margin m.right,
    inRange_fit_margin m.bottom⟩

theorem fitMargins_of_inRange {m : Margins Float32} (h : MarginsInRange m) : fitMargins m = m := by
  rw [fitMargins, fit_of_inRange h.left, fit_of_inRange h.top, fit_of_inRange h.right,
    fit_of_inRange h.bottom]

/-! ### Themes -/

section Themes

variable {themes more : List Theme} {builtin : Theme} {name : String}

/-- A name is that of a theme if and only if it leads to one. -/
theorem hasTheme_iff :
    hasTheme themes name = true ↔ ∃ theme, Theme.find? themes name = some theme := by
  rw [← Option.isSome_iff_exists, Theme.find?, List.find?_isSome, hasTheme, List.any_eq_true]

/-- `more` are the themes with `builtin` added to them, unless its name is taken. -/
inductive Adds (builtin : Theme) : List Theme → List Theme → Prop
  | taken (themes : List Theme) (htaken : hasTheme themes builtin.name = true) :
      Adds builtin themes themes
  | between (before behind : List Theme)
      (hfree : hasTheme (before ++ behind) builtin.name = false) :
      Adds builtin (before ++ behind) (before ++ builtin :: behind)

theorem adds_withLight (themes : List Theme) : Adds .light themes (withLight themes) := by
  unfold withLight
  split_ifs with h
  · exact .taken _ h
  · exact .between [] themes (eq_false_of_ne_true h)

theorem adds_withDark (themes : List Theme) : Adds .dark themes (withDark themes) := by
  cases themes with
  | nil => exact .between [] [] rfl
  | cons first rest =>
    rw [withDark]
    split_ifs with h
    · exact .taken _ h
    · exact .between [first] rest (eq_false_of_ne_true h)

/-- The themes keep their order, and none is lost. -/
theorem Adds.sublist (h : Adds builtin themes more) : themes.Sublist more := by
  cases h with
  | taken => exact List.Sublist.refl themes
  | between before behind =>
    exact (List.Sublist.refl before).append (List.sublist_cons_self builtin behind)

/-- A name that is there leads to the theme that it led to. -/
theorem Adds.find?_eq (h : Adds builtin themes more) (hname : hasTheme themes name = true) :
    Theme.find? more name = Theme.find? themes name := by
  cases h with
  | taken => rfl
  | between before behind hfree =>
    have hother : (builtin.name == name) = false := by
      refine beq_false_of_ne fun heq => ?_
      rw [heq, hname] at hfree
      exact Bool.false_ne_true hfree.symm
    simp only [Theme.find?, List.find?_append, List.find?_cons, hother]

theorem Adds.hasTheme_of_hasTheme (h : Adds builtin themes more)
    (hname : hasTheme themes name = true) : hasTheme more name = true := by
  rw [hasTheme_iff, h.find?_eq hname, ← hasTheme_iff]
  exact hname

/-- Afterwards the name of the built-in theme is that of a theme. -/
theorem Adds.hasTheme_name (h : Adds builtin themes more) :
    hasTheme more builtin.name = true := by
  cases h with
  | taken _ htaken => exact htaken
  | between before behind => simp [hasTheme]

theorem Adds.eq_self (h : Adds builtin themes more) (hname : hasTheme themes builtin.name = true) :
    more = themes := by
  cases h with
  | taken => rfl
  | between before behind hfree => exact absurd (hname.symm.trans hfree) (by decide)

end Themes

section Merging

variable (p : Preferences)

theorem sublist_withBuiltins : p.themes.Sublist p.withBuiltins.themes :=
  (adds_withLight p.themes).sublist.trans (adds_withDark _).sublist

theorem find?_withBuiltins {name : String} (h : hasTheme p.themes name = true) :
    Theme.find? p.withBuiltins.themes name = Theme.find? p.themes name :=
  ((adds_withDark _).find?_eq ((adds_withLight p.themes).hasTheme_of_hasTheme h)).trans
    ((adds_withLight p.themes).find?_eq h)

theorem hasTheme_light_withBuiltins : hasTheme p.withBuiltins.themes "Light" = true :=
  (adds_withDark _).hasTheme_of_hasTheme (adds_withLight p.themes).hasTheme_name

theorem hasTheme_dark_withBuiltins : hasTheme p.withBuiltins.themes "Dark" = true :=
  (adds_withDark (withLight p.themes)).hasTheme_name

end Merging

/-! ### Validity -/

/-- Preferences that the viewer can run with. -/
structure IsValid (p : Preferences) : Prop where
  fontSize : InRange 6 72 p.fontSize
  one_le_tabStop : 1 ≤ p.tabStop
  tabStop_le : p.tabStop ≤ 32
  viewMargins : MarginsInRange p.viewMargins
  gutterMargins : MarginsInRange p.gutterMargins
  light : hasTheme p.themes "Light" = true
  dark : hasTheme p.themes "Dark" = true
  themeName : p.themeName = systemTheme ∨ hasTheme p.themes p.themeName = true

variable {p : Preferences}

/-- The chosen theme is that of the desktop or one of those present. -/
theorem themeName_sanitized (p : Preferences) :
    p.sanitized.themeName = systemTheme ∨ hasTheme p.themes p.sanitized.themeName = true := by
  by_cases h : p.themeName ≠ systemTheme ∧ ¬ hasTheme p.themes p.themeName = true
  · exact .inl (if_pos h)
  · have hname : p.sanitized.themeName = p.themeName := if_neg h
    rw [hname]
    exact (eq_or_ne _ _).imp_right (not_and_not_right.1 h)

/-- **Any preferences become valid**, once the built-in themes are among theirs. The chosen theme is
looked for after that, so it may be one of those. -/
theorem isValid_sanitized (p : Preferences) : p.withBuiltins.sanitized.IsValid where
  fontSize := inRange_fit_fontSize p.fontSize
  one_le_tabStop := show 1 ≤ min (max p.tabStop 1) 32 by omega
  tabStop_le := show min (max p.tabStop 1) 32 ≤ 32 by omega
  viewMargins := marginsInRange_fitMargins p.viewMargins
  gutterMargins := marginsInRange_fitMargins p.gutterMargins
  light := p.hasTheme_light_withBuiltins
  dark := p.hasTheme_dark_withBuiltins
  themeName := p.withBuiltins.themeName_sanitized

theorem IsValid.withBuiltins_eq (h : p.IsValid) : p.withBuiltins = p := by
  have hlight : withLight p.themes = p.themes := (adds_withLight p.themes).eq_self h.light
  have hdark : withDark p.themes = p.themes := (adds_withDark p.themes).eq_self h.dark
  rw [withBuiltins, hlight, hdark]

theorem IsValid.sanitized_eq (h : p.IsValid) : p.sanitized = p := by
  have hname : ¬ (p.themeName ≠ systemTheme ∧ ¬ hasTheme p.themes p.themeName = true) := by
    exact not_and_not_right.2 h.themeName.resolve_left
  have htab : min (max p.tabStop 1) 32 = p.tabStop := by
    have := h.one_le_tabStop
    have := h.tabStop_le
    omega
  rw [sanitized, if_neg hname, fit_of_inRange h.fontSize, htab,
    fitMargins_of_inRange h.viewMargins, fitMargins_of_inRange h.gutterMargins]

/-- **Valid preferences, and no others, stay as they are.** -/
theorem isValid_iff : p.IsValid ↔ p.withBuiltins.sanitized = p :=
  ⟨fun h => by rw [h.withBuiltins_eq, h.sanitized_eq], fun h => h ▸ isValid_sanitized p⟩

theorem isValid_standard : standard.IsValid where
  fontSize := by constructor <;> decide
  one_le_tabStop := by decide
  tabStop_le := by decide
  viewMargins := by constructor <;> constructor <;> decide
  gutterMargins := by constructor <;> constructor <;> decide
  light := by decide
  dark := by decide
  themeName := .inl rfl

/-- The chosen theme is there on every desktop. -/
theorem IsValid.exists_find?_resolve (h : p.IsValid) (desktop : Desktop) :
    ∃ theme, Theme.find? p.themes ((ThemeChoice.ofName p.themeName).resolve desktop) =
      some theme := by
  refine hasTheme_iff.1 ?_
  unfold ThemeChoice.ofName
  split_ifs with hsystem
  · cases desktop with
    | light => exact h.light
    | dark => exact h.dark
    | neutral => exact h.dark
  · exact h.themeName.resolve_left hsystem

/-! ### Stored preferences -/

/-- What a file gives whose text can be read as preferences. -/
theorem load_eq_of_read {disk : Disk} {path : Path} {text : List Char} {stored : Preferences}
    (hread : disk.read path = .ok (Utf8.encode text))
    (hparse : Json.read readJson (String.ofList text) = .ok stored) :
    load disk path = (stored.withBuiltins.sanitized, disk) := by
  have hexists : disk.pathExists path = true := by
    unfold Disk.read at hread
    unfold Disk.pathExists
    split at hread
    · contradiction
    · rename_i hfind
      rw [hfind]
      rfl
    · contradiction
  have hbytes : parse? (Utf8.encode text) = some stored.withBuiltins.sanitized := by
    simp only [parse?, Utf8.decode_encode, hparse]
  rw [load, if_pos hexists, hread]
  simp only [hbytes, Option.getD_some]

/-- Anything else on disk gives the defaults. -/
theorem load_cases (disk : Disk) (path : Path) :
    (load disk path).1 = standard ∨
      ∃ stored : Preferences, (load disk path).1 = stored.withBuiltins.sanitized := by
  unfold load
  split_ifs
  · split
    · rename_i bytes _
      show (parse? bytes).getD standard = _ ∨ ∃ stored, (parse? bytes).getD standard = _
      unfold parse?
      split
      · exact .inl rfl
      · split
        · exact .inl rfl
        · exact .inr ⟨_, rfl⟩
    · exact .inl rfl
  · split <;> exact .inl rfl

theorem load_isValid (disk : Disk) (path : Path) : (load disk path).1.IsValid := by
  rcases load_cases disk path with h | ⟨stored, h⟩ <;> rw [h]
  · exact isValid_standard
  · exact isValid_sanitized stored

/-- **The preferences to run with are valid, whatever is on disk.** Adding the built-in themes and
bringing the values into their ranges once more changes nothing, and the chosen theme is found, so
that on no desktop another one takes its place. A file that can be understood gives what is stored
in it, with the built-in themes added and the values brought into their ranges: valid preferences
unchanged, and of any others the themes in their order, each name leading to the theme that it led
to. -/
theorem isValid_load (disk : Disk) (path : Path) :
    let p := (load disk path).1
    p.IsValid ∧ p.withBuiltins.sanitized = p ∧
      (∀ desktop, ∃ theme,
        Theme.find? p.themes ((ThemeChoice.ofName p.themeName).resolve desktop) = some theme ∧
          Session.themeFor p.themes (.ofName p.themeName) desktop =
            (.ofName p.themeName, theme)) ∧
      (∀ text stored, disk.read path = .ok (Utf8.encode text) →
        Json.read readJson (String.ofList text) = .ok stored →
          p = stored.withBuiltins.sanitized ∧ (stored.IsValid → p = stored)) ∧
      ∀ stored : Preferences, stored.themes.Sublist stored.withBuiltins.themes ∧
        ∀ name, hasTheme stored.themes name = true →
          Theme.find? stored.withBuiltins.themes name = Theme.find? stored.themes name := by
  intro p
  have hvalid : p.IsValid := load_isValid disk path
  refine ⟨hvalid, isValid_iff.1 hvalid, fun desktop => ?_, fun text stored hread hparse => ?_,
    fun stored => ⟨stored.sublist_withBuiltins, fun name => stored.find?_withBuiltins⟩⟩
  · obtain ⟨theme, hfind⟩ := hvalid.exists_find?_resolve desktop
    exact ⟨theme, hfind, by rw [Session.themeFor, hfind]⟩
  · have hload : p = stored.withBuiltins.sanitized :=
      congrArg Prod.fst (load_eq_of_read hread hparse)
    exact ⟨hload, fun hstored => hload.trans (isValid_iff.1 hstored)⟩

/-- A stored font that is far too large becomes the largest one. -/
theorem isValid_load_large_font :
    let text := "\x7b\"font_size\":100,".toList
      ++ "\"themes\":[\x7b\"name\":\"Dusk\",\"dark_mode\":true\x7d]\x7d".toList
    let disk : Disk := .of [(["p.json"], .file (Utf8.encode text))] []
    let p := (load disk ⟨"/p.json"⟩).1
    ∃ stored, disk.read ⟨"/p.json"⟩ = .ok (Utf8.encode text) ∧
      Json.read readJson (String.ofList text) = .ok stored ∧ p = stored.withBuiltins.sanitized ∧
      p.IsValid ∧ p.fontSize = 72 ∧ p.themes.map (·.name) = ["Light", "Dark", "Dusk"] := by
  intro text disk p
  have hread : disk.read ⟨"/p.json"⟩ = .ok (Utf8.encode text) := rfl
  have hparses : (Json.read readJson (String.ofList text)).isOk = true := by decide +kernel
  obtain ⟨stored, hparse⟩ : ∃ stored, Json.read readJson (String.ofList text) = .ok stored := by
    cases h : Json.read readJson (String.ofList text) with
    | ok stored => exact ⟨stored, rfl⟩
    | error fault => rw [h] at hparses; contradiction
  obtain ⟨hvalid, -, -, hload, -⟩ := isValid_load disk ⟨"/p.json"⟩
  have hfont : p.fontSize = 72 := by decide +kernel
  have hthemes : p.themes.map (·.name) = ["Light", "Dark", "Dusk"] := by decide +kernel
  exact ⟨stored, hread, hparse, (hload text stored hread hparse).1, hvalid, hfont, hthemes⟩

end CodeBrowser.Preferences
