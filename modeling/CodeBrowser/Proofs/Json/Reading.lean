import CodeBrowser.Proofs.Json.Layout

/-!
# Readers that understand values

A reader understands a value as something if it reads every layout of the value as that, whatever
blanks stand before it and whatever follows that can follow a value. Readers are put together from
readers, and what they understand is put together in the same way: a list of what its items are
understood as, a record of what its fields are.

## Main definitions

* `Json.Delimited`: a text that can follow a value.
* `Json.Understands`: a reader reads every layout of a value.
* `Json.RecordShape.Lawful`: the fields of a record have different names, and those required exist.
* `Json.Fills`: the fields of a record, read in order.

## Main results

* `Json.understands_nat`, `Json.understands_string`, `Json.understands_bool`: the scalars.
* `Json.understands_list`, `Json.understands_record`: arrays and objects.
* `Json.read_compact`, `Json.read_pretty`: what is written of a value is read as what the value is
  understood as.
-/

namespace CodeBrowser.Json

/-- A text that can follow a value: it is empty, or starts with a blank, a comma or a closing
character. -/
def Delimited (s : List Char) : Prop :=
  ∀ c ∈ s.head?, isBlank c = true ∨ c ∈ [',', ']', '\x7d']

/-- A reader reads every layout of a value as `b`. -/
def Understands {β : Type} (reader : Reader β) (v : Value) (b : β) : Prop :=
  ∀ blanks text rest, Blank blanks → Denotes v text → Delimited rest →
    reader (blanks ++ (text ++ rest)) = .ok (b, rest)

/-! ### Blanks and what follows -/

/-- After some blanks, the first character that is none is found. -/
theorem skipBlanks_append_cons {blanks : List Char} {c : Char} (h : Blank blanks)
    (hc : isBlank c = false) (s : List Char) : skipBlanks (blanks ++ c :: s) = c :: s := by
  rw [skipBlanks, List.dropWhile_append_of_pos h]
  exact List.dropWhile_cons_of_neg (by simp [hc])

theorem delimited_nil : Delimited [] := fun _ h => absurd h (Option.not_mem_none _)

theorem delimited_cons {c : Char} (h : c ∈ [',', ']', '\x7d']) (s : List Char) :
    Delimited (c :: s) :=
  fun _ hd => Option.some.inj hd ▸ .inr h

theorem Blank.delimited {blanks s : List Char} (h : Blank blanks) (hs : Delimited s) :
    Delimited (blanks ++ s) := by
  cases blanks with
  | nil => exact hs
  | cons c blanks => exact fun d hd => Option.some.inj hd ▸ .inl (h c (List.mem_cons_self ..))

/-- The rest of a list can follow an item. -/
theorem Listed.delimited {β : Type} {Item : β → List Char → Prop} {close : Char} {bs : List β}
    {text : List Char} (h : Listed Item close false bs text) (hclose : close ∈ [']', '\x7d'])
    (rest : List Char) : Delimited (text ++ rest) := by
  cases h with
  | close h =>
    rw [List.append_assoc]
    exact h.delimited (delimited_cons (List.mem_cons_of_mem _ hclose) rest)
  | item hseparator _ _ =>
    cases hseparator with
    | next h _ =>
      rw [List.append_assoc, List.append_assoc]
      exact h.delimited (delimited_cons (List.mem_cons_self ..) _)

/-! ### Numbers -/

theorem isDigit_eq_false_of_delimited {c : Char} {s : List Char} (h : Delimited (c :: s)) :
    isDigit c = false ∧ c ≠ '.' ∧ c ≠ 'e' ∧ c ≠ 'E' := by
  have hc := h c rfl
  simp only [isBlank, Bool.or_eq_true, decide_eq_true_eq, List.mem_cons, List.not_mem_nil,
    or_false] at hc
  obtain (((rfl | rfl) | rfl) | rfl) | rfl | rfl | rfl := hc <;> decide

theorem gatherDigits_of_delimited {s : List Char} (h : Delimited s) (n taken : Nat) :
    gatherDigits n taken s = (n, taken, s) := by
  cases s with
  | nil => rfl
  | cons c s =>
    have hc : digit? c = none := by
      simpa [isDigit] using (isDigit_eq_false_of_delimited h).1
    simp only [gatherDigits, hc]

/-- The digits of a number that fits 64 bits are gathered to that number. -/
theorem gatherDigits_natDigits (n : Nat) : n ≤ maxWord → (s : List Char) →
    ∃ taken, gatherDigits 0 0 (natDigits n ++ s) = gatherDigits n taken s := by
  induction n using Nat.strongRecOn with
  | ind n ih =>
    intro hn s
    rw [natDigits, Nat.toDigits_eq_if (by decide)]
    by_cases hsmall : n < 10
    · refine ⟨1, ?_⟩
      rw [if_pos hsmall, List.singleton_append, gatherDigits, digit?_digitChar n hsmall]
      simp only [Nat.zero_mul, Nat.zero_add, if_pos hn]
    · have hmod : n % 10 < 10 := Nat.mod_lt _ (by decide)
      obtain ⟨taken, htaken⟩ := ih (n / 10) (by omega) (by omega) ((n % 10).digitChar :: s)
      refine ⟨taken + 1, ?_⟩
      rw [if_neg hsmall, ← natDigits, List.append_assoc, List.singleton_append, htaken,
        gatherDigits, digit?_digitChar _ hmod]
      simp only [Nat.div_add_mod', if_pos hn]

theorem readTail_of_delimited {s : List Char} (h : Delimited s) (n : Nat) :
    readTail false n s = .ok (.nat n, s) := by
  cases s with
  | nil => rfl
  | cons c s =>
    obtain ⟨hdigit, hpoint, he, hE⟩ := isDigit_eq_false_of_delimited h
    have hdrop : (c :: s).dropWhile isDigit = c :: s :=
      List.dropWhile_cons_of_neg (by simp [hdigit])
    simp only [readTail, hdrop]
    split
    · rename_i heq
      exact absurd (List.cons.inj heq).1 hpoint
    · rename_i heq
      exact absurd (List.cons.inj heq).1 he
    · rename_i heq
      exact absurd (List.cons.inj heq).1 hE
    · simp [integer]

/-- A natural number of 64 bits is read back. -/
theorem readNumber_natDigits {n : Nat} (hn : n ≤ maxWord) {s : List Char} (hs : Delimited s) :
    readNumber (natDigits n ++ s) = .ok (.nat n, s) := by
  obtain ⟨taken, htaken⟩ := gatherDigits_natDigits n hn s
  rw [gatherDigits_of_delimited hs] at htaken
  obtain ⟨c, rest, heq, hdigit, hzero⟩ := natDigits_eq_cons n
  rw [heq, List.cons_append] at htaken ⊢
  have hsign : c ≠ '-' := by rintro rfl; exact absurd hdigit (by decide)
  have hread : readMagnitude false (c :: (rest ++ s)) = .ok (.nat n, s) := by
    unfold readMagnitude
    split
    · contradiction
    · rename_i heq
      obtain ⟨rfl, rfl⟩ := List.cons.inj heq
      obtain ⟨rfl, rfl⟩ := hzero rfl
      have hhead : s.head?.any isDigit = false := by
        cases s with
        | nil => rfl
        | cons d s => exact (isDigit_eq_false_of_delimited hs).1
      rw [List.nil_append, hhead, if_neg (by decide)]
      exact readTail_of_delimited hs 0
    · rename_i heq
      obtain ⟨rfl, rfl⟩ := List.cons.inj heq
      rw [if_pos hdigit, htaken]
      exact readTail_of_delimited hs n
  unfold readNumber
  split
  · rename_i heq
    exact absurd (List.cons.inj heq).1 hsign
  · exact hread

/-- Natural numbers of 64 bits are understood. -/
theorem understands_nat {n : Nat} (hn : n ≤ maxWord) : Understands readNat (.nat n) n := by
  intro blanks text rest hblanks hv hrest
  cases hv with
  | nat =>
    have hread := readNumber_natDigits hn hrest
    obtain ⟨c, digits, heq, hdigit, -⟩ := natDigits_eq_cons n
    have hblank := isBlank_eq_false_of_startsValue (startsValue_of_isDigit hdigit)
    rw [heq, List.cons_append] at hread ⊢
    simp only [readNat, readAnyNumber, skipBlanks_append_cons hblanks hblank, hdigit, Bool.or_true,
      if_true, hread]

/-! ### Truth values and strings -/

/-- Truth values are understood. -/
theorem understands_bool (b : Bool) : Understands readBool (.bool b) b := by
  intro blanks text rest hblanks hv _
  cases hv with
  | bool_true =>
    simp only [readBool, List.cons_append, skipBlanks_append_cons hblanks (c := 't') rfl]
    rfl
  | bool_false =>
    simp only [readBool, List.cons_append, skipBlanks_append_cons hblanks (c := 'f') rfl]
    rfl

theorem hexDigit?_hexDigit : ∀ n < 16, hexDigit? (hexDigit n) = some n := by decide

/-- The four digits of a control character are read as its number. -/
theorem readHex4_control {n : Nat} (hn : n < 0x20) (s : List Char) :
    ∃ h, readHex4 ('0' :: '0' :: hexDigit (n / 16) :: hexDigit (n % 16) :: s) =
      .ok ⟨(n, s), h⟩ := by
  have hzero : hexDigit? '0' = some 0 := by decide
  have hvalue : ((0 * 16 + 0) * 16 + n / 16) * 16 + n % 16 = n := by omega
  refine ⟨by simp; omega, ?_⟩
  simp only [readHex4, hzero, hexDigit?_hexDigit _ (by omega : n / 16 < 16),
    hexDigit?_hexDigit _ (Nat.mod_lt n (by decide : 0 < 16)), hvalue]

/-- A character that an escape is read as stands for itself in the string. -/
theorem readChars_backslash {c : Char} {s rest text after : List Char}
    (hescape : ∃ h, readEscape s = .ok ⟨(c, rest), h⟩) (h : readChars rest = .ok (text, after)) :
    readChars ('\\' :: s) = .ok (c :: text, after) := by
  obtain ⟨_, hescape⟩ := hescape
  simp only [readChars, hescape, h]

theorem readEscape_control {c : Char} (hc : c.toNat < 0x20) (s : List Char) :
    ∃ h, readEscape
      ('u' :: '0' :: '0' :: hexDigit (c.toNat / 16) :: hexDigit (c.toNat % 16) :: s) =
        .ok ⟨(c, s), h⟩ := by
  obtain ⟨_, hhex⟩ := readHex4_control hc s
  refine ⟨by simp; omega, ?_⟩
  simp only [readEscape, hhex]
  rw [if_neg (by omega), if_neg (by omega)]
  simp only [Char.ofNat_toNat]

/-- A character is read back as it was escaped. -/
theorem readChars_escape (c : Char) {s text after : List Char}
    (h : readChars s = .ok (text, after)) : readChars (escape c ++ s) = .ok (c :: text, after) := by
  unfold escape
  split_ifs with hquote hbackslash _ _ _ _ _ hcontrol
  -- the characters that have an escape of their own
  iterate 7
    · subst c
      exact readChars_backslash ⟨_, rfl⟩ h
  · exact readChars_backslash (readEscape_control hcontrol s) h
  · rw [List.singleton_append, readChars.eq_def]
    split
    · contradiction
    · rename_i heq
      exact absurd (List.cons.inj heq).1 hquote
    · rename_i heq
      exact absurd (List.cons.inj heq).1 hbackslash
    · rename_i heq
      obtain ⟨rfl, rfl⟩ := List.cons.inj heq
      simp only [if_neg hcontrol, h]

/-- The characters of a string are read back up to the closing quote. -/
theorem readChars_escapeAll (rest : List Char) : (text : List Char) →
    readChars (escapeAll text ++ '"' :: rest) = .ok (text, rest)
  | [] => by rw [escapeAll, List.flatMap_nil, List.nil_append, readChars]
  | c :: text => by
      rw [escapeAll, List.flatMap_cons, List.append_assoc]
      exact readChars_escape c (readChars_escapeAll rest text)

/-- The text of a string, and what follows it. -/
theorem stringText_append (s : String) (rest : List Char) :
    stringText s ++ rest = '"' :: (escapeAll s.toList ++ '"' :: rest) := by
  simp [stringText]

/-- A string is read back. -/
theorem readString_stringText {blanks : List Char} (h : Blank blanks) (s : String)
    (rest : List Char) : readString (blanks ++ (stringText s ++ rest)) = .ok (s, rest) := by
  simp only [readString, stringText_append, skipBlanks_append_cons h (c := '"') rfl,
    readChars_escapeAll, String.ofList_toList]

/-- Strings are understood. -/
theorem understands_string (s : String) : Understands readString (.str s) s := by
  intro blanks text rest hblanks hv _
  cases hv with
  | str => exact readString_stringText hblanks s rest

variable {β γ : Type}

/-- A string that stands for something is understood as that. -/
theorem understands_text {of? : String → Option β} {s : String} {b : β} (h : of? s = some b) :
    Understands (readText of?) (.str s) b := by
  intro blanks text rest hblanks hv _
  cases hv with
  | str => simp only [readText, readString_stringText hblanks s rest, h]

/-- A name of a fixed set is understood. -/
theorem understands_name {of? : String → Option β} {s : String} {b : β} (h : of? s = some b) :
    Understands (readName of?) (.str s) b := by
  intro blanks text rest hblanks hv hrest
  cases hv with
  | str =>
    have htext := understands_text h [] _ rest blank_nil (.str s) hrest
    rw [List.nil_append, stringText_append] at htext
    rw [stringText_append]
    simp only [readName, skipBlanks_append_cons hblanks (c := '"') rfl, htext]

/-! ### Optional values -/

/-- Nothing is understood where `null` stands. -/
theorem understands_none (item : Reader β) : Understands (readOption item) .null none := by
  intro blanks text rest hblanks hv _
  cases hv with
  | null =>
    simp only [readOption, List.cons_append, skipBlanks_append_cons hblanks (c := 'n') rfl]
    rfl

/-- A value that is never written as `null` is understood as it is without being optional. -/
theorem understands_some {item : Reader β} {v : Value} {b : β} (h : Understands item v b)
    (hnull : ∀ text, Denotes v text → text.head? ≠ some 'n') :
    Understands (readOption item) v (some b) := by
  intro blanks text rest hblanks hv hrest
  obtain ⟨c, tail, rfl, hc⟩ := hv.exists_cons
  have hn : c ≠ 'n' := fun heq => hnull _ hv (congrArg some heq)
  have hitem := h [] _ rest blank_nil hv hrest
  rw [List.nil_append, List.cons_append] at hitem
  rw [List.cons_append]
  simp only [readOption, skipBlanks_append_cons hblanks (isBlank_eq_false_of_startsValue hc)]
  split
  · rename_i heq
    exact absurd (List.cons.inj heq).1 hn
  · simp only [hitem]
    rfl

theorem head_ne_null_of_str {s : String} (text : List Char) (h : Denotes (.str s) text) :
    text.head? ≠ some 'n' := by
  cases h with
  | str => exact fun h => absurd (Option.some.inj h) (by decide)

theorem head_ne_null_of_obj {fields : List (String × Value)} (text : List Char)
    (h : Denotes (.obj fields) text) : text.head? ≠ some 'n' := by
  cases h with
  | obj => exact fun h => absurd (Option.some.inj h) (by decide)

/-! ### Arrays -/

theorem nextItem_close {isFirst : Bool} {blanks : List Char} (h : Blank blanks) (rest : List Char) :
    nextItem isFirst (blanks ++ ']' :: rest) = .ok none := by
  simp only [nextItem, skipBlanks_append_cons h (c := ']') rfl]

/-- The next item is found after what separates it from the one before. -/
theorem nextItem_item {isFirst : Bool} {separator text : List Char} {v : Value}
    (hseparator : Separates isFirst separator) (hv : Denotes v text) (rest : List Char) :
    nextItem isFirst (separator ++ (text ++ rest)) = .ok (some (text ++ rest)) := by
  obtain ⟨c, tail, rfl, hc⟩ := hv.exists_cons
  have hblank := isBlank_eq_false_of_startsValue hc
  have hclose : c ≠ ']' := by rintro rfl; exact absurd hc (by decide)
  rw [List.cons_append]
  cases hseparator with
  | first h => simp only [nextItem, skipBlanks_append_cons h hblank, if_true]
  | next h hgap =>
    simp [nextItem, List.append_assoc, skipBlanks_append_cons h (c := ',') rfl,
      skipBlanks_append_cons hgap hblank, hclose]

/-- The items of an array are read as what they are understood as. -/
theorem readItems_of_listed {item : Reader β} {vs : List Value} {bs : List β}
    (h : List.Forall₂ (Understands item) vs bs) {isFirst : Bool} {text : List Char}
    (ht : Listed Denotes ']' isFirst vs text) {fuel : Nat} (hfuel : text.length ≤ fuel)
    (rest : List Char) : readItems item fuel isFirst (text ++ rest) = .ok (bs, rest) := by
  induction h generalizing isFirst text fuel with
  | nil =>
    obtain ⟨hblanks⟩ := ht
    obtain _ | fuel := fuel
    · simp at hfuel
    · simp only [readItems, List.append_assoc, List.singleton_append, nextItem_close hblanks,
        endArray, skipBlanks_append_cons hblanks (c := ']') rfl]
      rfl
  | cons hb _ ih =>
    cases ht with
    | item hseparator hv hrest =>
      obtain ⟨c, tail, hcons, _⟩ := hv.exists_cons
      have hlength := congrArg List.length hcons
      simp only [List.length_append, List.length_cons] at hfuel hlength
      obtain _ | fuel := fuel
      · omega
      · have hitem := hb [] _ _ blank_nil hv (hrest.delimited (by decide) rest)
        rw [List.nil_append] at hitem
        simp only [readItems, List.append_assoc, nextItem_item hseparator hv, hitem,
          ih hrest (by omega : _ ≤ fuel)]

/-- An array is understood as the list of what its items are understood as. -/
theorem understands_list {item : Reader β} {vs : List Value} {bs : List β}
    (h : List.Forall₂ (Understands item) vs bs) : Understands (readList item) (.arr vs) bs := by
  intro blanks text rest hblanks hv _
  cases hv with
  | arr ht =>
    simp only [readList, List.cons_append, skipBlanks_append_cons hblanks (c := '[') rfl]
    exact readItems_of_listed h ht (by simp; omega) rest

/-! ### Records -/

/-- The fields of a record have different names, and the required ones are among them. -/
structure RecordShape.Lawful (shape : RecordShape β) : Prop where
  nodup : (shape.fields.map (·.name)).Nodup
  required_subset : shape.required ⊆ shape.fields.map (·.name)

/-- Reading values into fields, one by one, makes a record out of another one. -/
inductive Fills : List (Field β) → List (String × Value) → β → β → Prop
  | nil (b : β) : Fills [] [] b b
  | cons {field : Field β} {v : Value} {fields : List (Field β)} {values : List (String × Value)}
      {b next last : β} (h : Understands (field.read b) v next)
      (hrest : Fills fields values next last) :
      Fills (field :: fields) ((field.name, v) :: values) b last

/-- A field stores what its value is understood as. -/
theorem understands_field {name : String} {item : Reader γ} {store : β → γ → β} {v : Value} {c : γ}
    (h : Understands item v c) (b : β) :
    Understands ((Field.of name item store).read b) v (store b c) := by
  intro blanks text rest hblanks hv hrest
  simp only [Field.of, h blanks text rest hblanks hv hrest]
  rfl

theorem takeColon_append {blanks : List Char} (h : Blank blanks) (rest : List Char) :
    takeColon (blanks ++ ':' :: rest) = .ok rest := by
  simp only [takeColon, skipBlanks_append_cons h (c := ':') rfl]

theorem nextField_close {isFirst : Bool} {blanks : List Char} (h : Blank blanks)
    (rest : List Char) : nextField isFirst (blanks ++ '\x7d' :: rest) = .ok (false, rest) := by
  simp only [nextField, skipBlanks_append_cons h (c := '\x7d') rfl]

/-- The next field is found after what separates it from the one before. -/
theorem nextField_field {isFirst : Bool} {separator : List Char}
    (hseparator : Separates isFirst separator) (rest : List Char) :
    nextField isFirst (separator ++ '"' :: rest) = .ok (true, rest) := by
  cases hseparator with
  | first h => simp [nextField, skipBlanks_append_cons h (c := '"') rfl]
  | next h hgap =>
    simp [nextField, List.append_assoc, skipBlanks_append_cons h (c := ',') rfl,
      skipBlanks_append_cons hgap (c := '"') rfl]

/-- A field has another name than the fields before it. -/
theorem name_notMem_of_nodup {done todo : List (Field β)} {field : Field β}
    (h : ((done ++ field :: todo).map (·.name)).Nodup) : field.name ∉ done.map (·.name) := by
  rw [List.map_append, List.nodup_append] at h
  exact fun hmem => h.2.2 _ hmem _ (List.mem_cons_self ..) rfl

/-- A field is found by its name. -/
theorem find?_name_of_nodup {done todo : List (Field β)} {field : Field β}
    (h : ((done ++ field :: todo).map (·.name)).Nodup) :
    (done ++ field :: todo).find? (·.name == field.name) = some field := by
  have hdone : done.find? (·.name == field.name) = none :=
    List.find?_eq_none.2 fun other hother heq =>
      name_notMem_of_nodup h (List.mem_map.2 ⟨other, hother, beq_iff_eq.1 heq⟩)
  rw [List.find?_append, hdone, List.find?_cons_of_pos (by simp)]
  rfl

/-- The fields that are left fill the record, if those seen are the ones before them. -/
theorem readFields_of_fills {shape : RecordShape β} (hshape : shape.Lawful)
    {todo : List (Field β)} {values : List (String × Value)} {b last : β}
    (h : Fills todo values b last) {done : List (Field β)} (hfields : shape.fields = done ++ todo)
    {seen : List String} (hseen : ∀ name, name ∈ seen ↔ name ∈ done.map (·.name))
    {isFirst : Bool} {text : List Char} (ht : Listed DenotesField '\x7d' isFirst values text)
    {fuel : Nat} (hfuel : text.length ≤ fuel) (rest : List Char) :
    readFields shape fuel isFirst b seen (text ++ rest) = .ok (last, rest) := by
  induction h generalizing done seen isFirst text fuel with
  | nil b =>
    obtain ⟨hblanks⟩ := ht
    obtain _ | fuel := fuel
    · simp at hfuel
    · have hcomplete : shape.isComplete seen = true := by
        simp only [RecordShape.isComplete, List.all_eq_true, List.contains_iff_mem]
        intro name hname
        have := hshape.required_subset hname
        rw [hfields, List.append_nil] at this
        exact (hseen name).2 this
      simp only [readFields, List.append_assoc, List.singleton_append, nextField_close hblanks,
        hcomplete, if_true]
  | @cons field v todo values b next last hread _ ih =>
    cases ht with
    | item hseparator hfield hrest =>
      cases hfield with
      | field hblanks hgap hv =>
        simp only [stringText, List.length_append, List.length_cons] at hfuel
        obtain _ | fuel := fuel
        · omega
        · have hnodup : ((done ++ field :: todo).map (·.name)).Nodup := hfields ▸ hshape.nodup
          have hfind : shape.fields.find? (·.name == field.name) = some field :=
            hfields ▸ find?_name_of_nodup hnodup
          have hnew : seen.contains field.name = false := by
            simpa [hseen] using name_notMem_of_nodup hnodup
          have hvalue := hread _ _ _ hgap hv (hrest.delimited (by decide) rest)
          have hnext := @ih (done ++ [field]) (by rw [hfields, List.append_assoc]; rfl)
            (field.name :: seen) (by simp [hseen, or_comm]) _ _ hrest fuel (by omega)
          simp only [readFields, List.append_assoc, stringText_append, nextField_field hseparator,
            readChars_escapeAll, String.ofList_toList, hfind, hnew, Bool.false_eq_true, if_false,
            List.cons_append, takeColon_append hblanks, hvalue, hnext]

/-- An object is understood as the record that its values fill, from its defaults on. -/
theorem understands_record {shape : RecordShape β} (hshape : shape.Lawful)
    {values : List (String × Value)} {b : β} (h : Fills shape.fields values shape.start b) :
    Understands (readRecord shape) (.obj values) b := by
  intro blanks text rest hblanks hv _
  cases hv with
  | obj ht =>
    simp only [readRecord, List.cons_append, skipBlanks_append_cons hblanks (c := '\x7b') rfl]
    exact readFields_of_fills hshape h (List.nil_append _).symm (by simp) ht (by simp; omega) rest

/-! ### Whole texts -/

/-- A text is read as what its value is understood as. -/
theorem read_of_denotes {reader : Reader β} {v : Value} {b : β} (h : Understands reader v b)
    {text : List Char} (hv : Denotes v text) : read reader (String.ofList text) = .ok b := by
  have hread := h [] text [] blank_nil hv delimited_nil
  rw [List.nil_append, List.append_nil] at hread
  simp only [read, String.toList_ofList, hread]
  rfl

/-- What is written without blanks is read back. -/
theorem read_compact {reader : Reader β} {v : Value} {b : β} (h : Understands reader v b) :
    read reader v.compact = .ok b :=
  read_of_denotes h (denotes_compactChars v)

/-- What is written over several lines is read back. -/
theorem read_pretty {reader : Reader β} {v : Value} {b : β} (h : Understands reader v b) :
    read reader v.pretty = .ok b :=
  read_of_denotes h (denotes_prettyChars 0 v)

end CodeBrowser.Json
