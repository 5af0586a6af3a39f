import CodeBrowser.Json.Record
import CodeBrowser.Json.Value
import Mathlib.Data.Nat.Digits.Defs

/-!
# Layouts of JSON

A value can be written in many ways, which differ in the blanks around commas, colons, brackets and
braces. `Json.Denotes` relates a value to all of these texts, which is where writing and reading
meet: the texts that are written are among them, and a reader that understands a value reads all of
them.

## Main definitions

* `Json.Blank`, `Json.Separates`: what may stand between the parts of a value.
* `Json.Listed`: a text is a layout of a list up to its closing character.
* `Json.Denotes`: a text is a layout of a value.

## Main results

* `Json.Denotes.exists_cons`: the first character of a layout is neither a blank nor a closing one.
* `Json.denotes_compactChars`, `Json.denotes_prettyChars`: what is written is a layout.
-/

namespace CodeBrowser.Json

/-- A text of blanks. -/
def Blank (s : List Char) : Prop := ∀ c ∈ s, isBlank c = true

theorem blank_nil : Blank [] := fun _ h => absurd h List.not_mem_nil

theorem blank_space : Blank [' '] := fun _ h => List.eq_of_mem_singleton h ▸ rfl

theorem blank_newLine (depth : Nat) : Blank (newLine depth) := by
  intro c hc
  rcases List.mem_cons.1 hc with rfl | hc
  · rfl
  · rw [List.eq_of_mem_replicate hc]
    rfl

theorem Blank.append {s t : List Char} (hs : Blank s) (ht : Blank t) : Blank (s ++ t) :=
  fun c hc => (List.mem_append.1 hc).elim (hs c) (ht c)

/-- What stands before an item of a list. The first item needs no comma. -/
inductive Separates : Bool → List Char → Prop
  | first {blanks : List Char} (h : Blank blanks) : Separates true blanks
  | next {blanks gap : List Char} (h : Blank blanks) (hgap : Blank gap) :
      Separates false (blanks ++ ',' :: gap)

/-- A text is a layout of the items of a list up to and with the closing character. -/
inductive Listed {β : Type} (Item : β → List Char → Prop) (close : Char) :
    Bool → List β → List Char → Prop
  | close {isFirst : Bool} {blanks : List Char} (h : Blank blanks) :
      Listed Item close isFirst [] (blanks ++ [close])
  | item {isFirst : Bool} {b : β} {bs : List β} {separator text rest : List Char}
      (hseparator : Separates isFirst separator) (hb : Item b text)
      (hrest : Listed Item close false bs rest) :
      Listed Item close isFirst (b :: bs) (separator ++ (text ++ rest))

mutual

/-- A text is a layout of a value. -/
inductive Denotes : Value → List Char → Prop
  | null : Denotes .null ['n', 'u', 'l', 'l']
  | bool_true : Denotes (.bool true) ['t', 'r', 'u', 'e']
  | bool_false : Denotes (.bool false) ['f', 'a', 'l', 's', 'e']
  | nat (n : Nat) : Denotes (.nat n) (natDigits n)
  | number (x : Float32) : Denotes (.number x) (numberText x)
  | str (s : String) : Denotes (.str s) (stringText s)
  | arr {items : List Value} {text : List Char} (h : Listed Denotes ']' true items text) :
      Denotes (.arr items) ('[' :: text)
  | obj {fields : List (String × Value)} {text : List Char}
      (h : Listed DenotesField '\x7d' true fields text) : Denotes (.obj fields) ('\x7b' :: text)

/-- A text is a layout of a field of an object. -/
inductive DenotesField : String × Value → List Char → Prop
  | field {name : String} {v : Value} {blanks gap text : List Char} (h : Blank blanks)
      (hgap : Blank gap) (hv : Denotes v text) :
      DenotesField (name, v) (stringText name ++ (blanks ++ ':' :: (gap ++ text)))

end

/-! ### The first character -/

theorem digit?_digitChar : ∀ n < 10, digit? n.digitChar = some n := by decide

theorem isDigit_digitChar {n : Nat} (h : n < 10) : isDigit n.digitChar = true := by
  rw [isDigit, digit?_digitChar n h]
  rfl

theorem digitChar_eq_zero : ∀ n < 10, n.digitChar = '0' → n = 0 := by decide

/-- A natural number is written with a first digit, which is zero only for zero itself. -/
theorem natDigits_eq_cons (n : Nat) : ∃ c rest, natDigits n = c :: rest ∧ isDigit c = true ∧
    (c = '0' → n = 0 ∧ rest = []) := by
  induction n using Nat.strongRecOn with
  | ind n ih =>
    rw [natDigits, Nat.toDigits_eq_if (by decide)]
    by_cases hn : n < 10
    · rw [if_pos hn]
      exact ⟨_, _, rfl, isDigit_digitChar hn, fun hzero => ⟨digitChar_eq_zero n hn hzero, rfl⟩⟩
    · obtain ⟨c, rest, heq, hdigit, hzero⟩ := ih (n / 10) (by omega)
      rw [if_neg hn, ← natDigits, heq]
      refine ⟨c, _, rfl, hdigit, fun hc => ?_⟩
      have := (hzero hc).1
      omega

/-- A decimal is written with a digit in front. -/
theorem decimalText_eq_cons (d : Decimal) :
    ∃ c rest, decimalText d = c :: rest ∧ isDigit c = true := by
  obtain ⟨c, rest, hdigits, hdigit, -⟩ := natDigits_eq_cons d.digits
  simp only [decimalText, hdigits]
  split_ifs
  · exact ⟨c, _, rfl, hdigit⟩
  · exact ⟨c, _, rfl, hdigit⟩
  · exact ⟨'0', _, rfl, rfl⟩
  all_goals exact ⟨c, _, rfl, hdigit⟩

/-- The characters that a value can be written with in front. -/
def startsValue (c : Char) : Bool := c ∈ ['n', 't', 'f', '-', '"', '[', '\x7b'] || isDigit c

theorem startsValue_of_isDigit {c : Char} (h : isDigit c = true) : startsValue c = true := by
  rw [startsValue, h, Bool.or_true]

theorem numberText_eq_cons (x : Float32) :
    ∃ c rest, numberText x = c :: rest ∧ startsValue c = true := by
  obtain ⟨c, rest, hdecimal, hdigit⟩ := decimalText_eq_cons (Dyadic.ofBits x.toBits).shortest
  simp only [numberText, hdecimal]
  split_ifs
  · exact ⟨'-', _, rfl, rfl⟩
  · exact ⟨'-', _, rfl, rfl⟩
  · exact ⟨'0', _, rfl, rfl⟩
  · exact ⟨c, _, rfl, startsValue_of_isDigit hdigit⟩
  · exact ⟨'n', _, rfl, rfl⟩

/-- A layout of a value starts with a character that values start with. -/
theorem Denotes.exists_cons {v : Value} {text : List Char} (h : Denotes v text) :
    ∃ c rest, text = c :: rest ∧ startsValue c = true := by
  cases h with
  | null => exact ⟨'n', _, rfl, rfl⟩
  | bool_true => exact ⟨'t', _, rfl, rfl⟩
  | bool_false => exact ⟨'f', _, rfl, rfl⟩
  | nat n =>
    obtain ⟨c, rest, heq, hdigit, -⟩ := natDigits_eq_cons n
    exact ⟨c, rest, heq, startsValue_of_isDigit hdigit⟩
  | number x => exact numberText_eq_cons x
  | str s => exact ⟨'"', _, rfl, rfl⟩
  | arr h => exact ⟨'[', _, rfl, rfl⟩
  | obj h => exact ⟨'\x7b', _, rfl, rfl⟩

theorem isBlank_eq_false_of_startsValue {c : Char} (h : startsValue c = true) :
    isBlank c = false := by
  cases hblank : isBlank c with
  | false => rfl
  | true =>
    simp only [isBlank, Bool.or_eq_true, decide_eq_true_eq] at hblank
    obtain ((rfl | rfl) | rfl) | rfl := hblank <;> exact absurd h (by decide)

/-! ### What is written -/

theorem joinWith_cons (separator text : List Char) (texts : List (List Char)) :
    joinWith separator (text :: texts) = text ++ texts.flatMap (separator ++ ·) := by
  induction texts generalizing text with
  | nil => simp [joinWith]
  | cons next texts ih =>
    rw [joinWith, ih next, List.flatMap_cons, List.append_assoc, List.append_assoc]
    exact List.cons_ne_nil next texts

section Listed

variable {β : Type} {Item : β → List Char → Prop} {close : Char} {gap ending : List Char}

/-- Items with a comma before each are a layout of the rest of a list. -/
theorem listed_flatMap (hgap : Blank gap) (hending : Blank ending) {bs : List β}
    {texts : List (List Char)} (h : List.Forall₂ Item bs texts) :
    Listed Item close false bs (texts.flatMap (',' :: gap ++ ·) ++ (ending ++ [close])) := by
  induction h with
  | nil => exact .close hending
  | cons hb _ ih =>
    rw [List.flatMap_cons, List.append_assoc, List.append_assoc]
    exact .item (.next blank_nil hgap) hb ih

/-- Items with commas between them are a layout of a list. -/
theorem listed_joinWith (hgap : Blank gap) (hending : Blank ending) {bs : List β}
    {texts : List (List Char)} (h : List.Forall₂ Item bs texts) :
    Listed Item close true bs
      (gap ++ (joinWith (',' :: gap) texts ++ (ending ++ [close]))) := by
  cases h with
  | nil =>
    rw [joinWith, List.nil_append, ← List.append_assoc]
    exact .close (hgap.append hending)
  | cons hb hrest =>
    rw [joinWith_cons, List.append_assoc]
    exact .item (.first hgap) hb (listed_flatMap hgap hending hrest)

end Listed

mutual

/-- The text of a value without blanks is a layout of it. -/
theorem denotes_compactChars : (v : Value) → Denotes v v.compactChars
  | .null => .null
  | .bool true => .bool_true
  | .bool false => .bool_false
  | .nat n => .nat n
  | .number x => .number x
  | .str s => .str s
  | .arr items => .arr (listed_joinWith blank_nil blank_nil (denotes_compactItems items))
  | .obj fields => .obj (listed_joinWith blank_nil blank_nil (denotes_compactFields fields))

theorem denotes_compactItems : (items : List Value) →
    List.Forall₂ Denotes items (Value.compactItems items)
  | [] => .nil
  | v :: rest => .cons (denotes_compactChars v) (denotes_compactItems rest)

theorem denotes_compactFields : (fields : List (String × Value)) →
    List.Forall₂ DenotesField fields (Value.compactFields fields)
  | [] => .nil
  | (_, v) :: rest =>
    .cons (.field blank_nil blank_nil (denotes_compactChars v)) (denotes_compactFields rest)

end

mutual

/-- The text of a value over several lines is a layout of it. -/
theorem denotes_prettyChars (depth : Nat) : (v : Value) → Denotes v (v.prettyChars depth)
  | .null => .null
  | .bool true => .bool_true
  | .bool false => .bool_false
  | .nat n => .nat n
  | .number x => .number x
  | .str s => .str s
  | .arr [] => .arr (.close blank_nil)
  | .arr (v :: rest) => by
      have h := denotes_prettyItems (depth + 1) (v :: rest)
      simpa only [Value.prettyChars, List.append_assoc] using
        Denotes.arr (listed_joinWith (blank_newLine _) (blank_newLine _) h)
  | .obj [] => .obj (.close blank_nil)
  | .obj (field :: rest) => by
      have h := denotes_prettyFields (depth + 1) (field :: rest)
      simpa only [Value.prettyChars, List.append_assoc] using
        Denotes.obj (listed_joinWith (blank_newLine _) (blank_newLine _) h)

theorem denotes_prettyItems (depth : Nat) : (items : List Value) →
    List.Forall₂ Denotes items (Value.prettyItems depth items)
  | [] => .nil
  | v :: rest => .cons (denotes_prettyChars depth v) (denotes_prettyItems depth rest)

theorem denotes_prettyFields (depth : Nat) : (fields : List (String × Value)) →
    List.Forall₂ DenotesField fields (Value.prettyFields depth fields)
  | [] => .nil
  | (_, v) :: rest =>
    .cons (.field blank_nil blank_space (denotes_prettyChars depth v))
      (denotes_prettyFields depth rest)

end

end CodeBrowser.Json
