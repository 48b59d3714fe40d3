import Paymaster.Proofs.Json.Strings
import Paymaster.Proofs.Text.Digits

/-
  JSON values written and read back.
  Model (read this before the theorems). A value is plain if no part of it is kept as it was
  written. `Reads v` says that a reader with fuel for the written form of `v` finds `v` in front of
  any text that does not go on with a numeral, and what follows it. Integers are read from their
  plain digits, strings from their escapes; the items of an array and the members of an object are
  read one by one (`items?_chars`, `members?_chars`). So every plain value is read back, by
  induction on its parts (`reads_of_plain`), and the fuel of the whole text is enough
  (`read?_text`).
-/

namespace Paymaster.Json

/-- No part of the value is kept as it was written. -/
inductive Plain : Json → Prop
  | null : Plain null
  | bool (b : Bool) : Plain (bool b)
  | integer (n : Int) : Plain (integer n)
  | string (s : String) : Plain (string s)
  | array {items : List Json} (h : ∀ v ∈ items, Plain v) : Plain (array items)
  | object {members : List (String × Json)} (h : ∀ m ∈ members, Plain m.2) :
    Plain (object members)

/-- The text does not go on with a numeral. -/
structure Ends (rest : List Char) : Prop where
  digit : Decimal.Stops rest
  mark : ∀ c ∈ rest.head?, c ≠ '.' ∧ c ≠ 'e' ∧ c ≠ 'E'

theorem ends_nil : Ends [] := ⟨nofun, nofun⟩

theorem ends_cons {c : Char} (h : c ∈ [',', ']', '\x7d']) (rest : List Char) :
    Ends (c :: rest) := by
  have digit : ∀ c ∈ [',', ']', '\x7d'], ¬c.isDigit := by simp
  have mark : ∀ c ∈ [',', ']', '\x7d'], c ≠ '.' ∧ c ≠ 'e' ∧ c ≠ 'E' := by simp
  refine ⟨Decimal.stops_cons (digit c h) rest, fun d head => ?_⟩
  cases head
  exact mark c h

/-- Whatever follows, a reader with fuel for the written form finds the value. -/
def Reads (v : Json) : Prop :=
  ∀ fuel rest, v.chars.length < fuel → Ends rest → value? fuel (v.chars ++ rest) = some (v, rest)

theorem skipSpace_cons {c : Char} (h : isSpace c = false) (cs : List Char) :
    skipSpace (c :: cs) = c :: cs := by
  unfold skipSpace
  rw [List.dropWhile_cons_of_neg (by rw [h]; decide)]

/-! ## Integers -/

theorem whole?_digits (n : Nat) {rest : List Char} (stops : Decimal.Stops rest) :
    whole? (Decimal.digits n ++ rest) = some (Decimal.digits n, rest) := by
  obtain ⟨digits, ne_nil, zero⟩ := Decimal.isPlain_digits n
  have read := Decimal.run_of_digits digits stops
  obtain ⟨d, ds, first⟩ := List.exists_cons_of_ne_nil ne_nil
  rw [first] at zero read ⊢
  unfold whole?
  split
  · rename_i same
    cases same
    have single := zero rfl
    cases single
    rfl
  · unfold digits?
    rw [read]

theorem fraction?_of_ends {rest : List Char} (h : Ends rest) :
    fraction? rest = some ([], rest) := by
  cases rest with
  | nil => rfl
  | cons c rest =>
    unfold fraction?
    split
    · rename_i same
      cases same
      exact absurd rfl (h.mark _ rfl).1
    · rfl

theorem exponent?_of_ends {rest : List Char} (h : Ends rest) :
    exponent? rest = some ([], rest) := by
  cases rest with
  | nil => rfl
  | cons c rest =>
    obtain ⟨-, small, capital⟩ := h.mark c rfl
    exact if_neg (not_or.2 ⟨small, capital⟩)

theorem numeral?_signed (n : Int) {rest : List Char} (h : Ends rest) :
    numeral? (Decimal.signed n ++ rest) = some (integer n, rest) := by
  have whole := whole?_digits n.natAbs h.digit
  unfold Decimal.signed
  split
  · rename_i negative
    have nonzero : ¬n.natAbs = 0 := by omega
    have value : -(n.natAbs : Int) = n := by omega
    generalize n.natAbs = m at whole nonzero value ⊢
    subst value
    simp [numeral?, whole, fraction?_of_ends h, exponent?_of_ends h, Decimal.value_digits, nonzero]
  · rename_i positive
    have value : (n.natAbs : Int) = n := by omega
    generalize n.natAbs = m at whole value ⊢
    subst value
    obtain ⟨d, ds, first⟩ := List.exists_cons_of_ne_nil (Decimal.digits_ne_nil m)
    have digit : d.isDigit := Decimal.isDigit_of_mem_digits (first ▸ List.mem_cons_self)
    have unsigned : d ≠ '-' := by
      rintro rfl
      cases digit
    have number : Decimal.value (d :: ds) = m := by rw [← first, Decimal.value_digits]
    rw [first] at whole ⊢
    rw [List.cons_append] at whole ⊢
    simp [numeral?, unsigned, whole, fraction?_of_ends h, exponent?_of_ends h, number]

/-- A numeral starts with a digit or a minus, and with none of the marks of other values. -/
structure StartsNumeral (c : Char) : Prop where
  start : c.isDigit ∨ c = '-'
  other : ∀ d ∈ ['n', 't', 'f', '"', '[', ']', '\x7b', ' ', '\t', '\n', '\r'], c ≠ d

theorem exists_start (n : Int) : ∃ c cs, Decimal.signed n = c :: cs ∧ StartsNumeral c := by
  have other {c : Char} (start : c.isDigit ∨ c = '-') : StartsNumeral c := by
    refine ⟨start, ?_⟩
    rintro d among rfl
    have foreign : ∀ d ∈ ['n', 't', 'f', '"', '[', ']', '\x7b', ' ', '\t', '\n', '\r'],
        ¬(d.isDigit ∨ d = '-') := by simp
    exact foreign c among start
  unfold Decimal.signed
  split
  · exact ⟨_, _, rfl, other (.inr rfl)⟩
  · obtain ⟨d, ds, first⟩ := List.exists_cons_of_ne_nil (Decimal.digits_ne_nil n.natAbs)
    have digit : d.isDigit := Decimal.isDigit_of_mem_digits (first ▸ List.mem_cons_self)
    exact ⟨d, ds, first, other (.inl digit)⟩

theorem StartsNumeral.isSpace_eq {c : Char} (h : StartsNumeral c) : isSpace c = false := by
  simp [isSpace, h.other]

theorem StartsNumeral.value? {c : Char} (h : StartsNumeral c) (fuel : Nat) (cs : List Char) :
    value? (fuel + 1) (c :: cs) = numeral? (c :: cs) := by
  rw [Json.value?, skipSpace_cons h.isSpace_eq]
  split
  case h_7 => rfl
  all_goals
    rename_i same
    cases same
    exact absurd rfl (h.other _ (by decide))

theorem exists_fuel {v : Json} {fuel : Nat} (h : v.chars.length < fuel) :
    ∃ f, fuel = f + 1 ∧ v.chars.length ≤ f := ⟨fuel - 1, by omega, by omega⟩

theorem reads_integer (n : Int) : Reads (integer n) := by
  intro fuel rest enough ends
  obtain ⟨fuel, rfl, -⟩ := exists_fuel enough
  have numeral := numeral?_signed n ends
  obtain ⟨c, cs, first, start⟩ := exists_start n
  unfold chars
  rw [first] at numeral ⊢
  exact (start.value? fuel _).trans numeral

/-! ## Words and strings -/

theorem reads_null : Reads null := by
  intro fuel rest enough _
  obtain ⟨fuel, rfl, -⟩ := exists_fuel enough
  rfl

theorem reads_bool (b : Bool) : Reads (bool b) := by
  intro fuel rest enough _
  obtain ⟨fuel, rfl, -⟩ := exists_fuel enough
  cases b <;> rfl

theorem reads_string (s : String) : Reads (string s) := by
  intro fuel rest enough _
  obtain ⟨fuel, rfl, -⟩ := exists_fuel enough
  have content := content?_escaped s rest
  have text : (string s).chars ++ rest = '"' :: (s.toList.flatMap escape ++ '"' :: rest) := by
    simp [chars, quoted]
  rw [text, value?, skipSpace_cons rfl]
  simp [string?, content]

/-! ## Arrays and objects -/

/-- The written form of a plain value starts neither with a blank nor with a closing bracket. -/
theorem Plain.starts {v : Json} (h : Plain v) :
    ∃ c cs, v.chars = c :: cs ∧ isSpace c = false ∧ c ≠ ']' := by
  cases h with
  | null => exact ⟨_, _, rfl, rfl, by decide⟩
  | bool b => cases b <;> exact ⟨_, _, rfl, rfl, by decide⟩
  | integer n =>
    obtain ⟨c, cs, first, start⟩ := exists_start n
    exact ⟨c, cs, first, start.isSpace_eq, start.other _ (by decide)⟩
  | string s => exact ⟨_, _, rfl, rfl, by decide⟩
  | array => exact ⟨_, _, rfl, rfl, by decide⟩
  | object => exact ⟨_, _, rfl, rfl, by decide⟩

section
variable {fuel : Nat} {cs more rest : List Char} {v : Json}

theorem items?_last (h : value? fuel cs = some (v, ']' :: rest)) :
    items? (fuel + 1) cs = some ([v], rest) := by
  rw [items?, h]
  rfl

theorem items?_more (h : value? fuel cs = some (v, ',' :: more)) :
    items? (fuel + 1) cs = (items? fuel more).map fun (vs, cs) => (v :: vs, cs) := by
  rw [items?, h]
  rfl

/-- A member in front: its quoted name, a colon, and its value. -/
theorem members?_named (k : String) (fuel : Nat) (cs : List Char) :
    members? (fuel + 1) (quoted k.toList ++ ':' :: cs) =
      (value? fuel cs).bind fun (v, cs) =>
        match skipSpace cs with
        | ',' :: cs => (members? fuel cs).map fun (ms, cs) => ((some k, v) :: ms, cs)
        | '\x7d' :: cs => some ([(some k, v)], cs)
        | _ => none := by
  have name := content?_escaped k (':' :: cs)
  have text : quoted k.toList ++ ':' :: cs =
      '"' :: (k.toList.flatMap escape ++ '"' :: ':' :: cs) := by simp [quoted]
  rw [text, members?, skipSpace_cons rfl]
  simp only [name]
  rfl

theorem members?_last (k : String) (h : value? fuel cs = some (v, '\x7d' :: rest)) :
    members? (fuel + 1) (quoted k.toList ++ ':' :: cs) = some ([(some k, v)], rest) := by
  rw [members?_named, h]
  rfl

theorem members?_more (k : String) (h : value? fuel cs = some (v, ',' :: more)) :
    members? (fuel + 1) (quoted k.toList ++ ':' :: cs) =
      (members? fuel more).map fun (ms, cs) => ((some k, v) :: ms, cs) := by
  rw [members?_named, h]
  rfl

end

theorem items?_chars {vs : List Json} (ne_nil : vs ≠ []) (reads : ∀ v ∈ vs, Reads v) {fuel : Nat}
    (enough : (itemsChars vs).length + 1 < fuel) (rest : List Char) :
    items? fuel (itemsChars vs ++ ']' :: rest) = some (vs, rest) := by
  induction vs generalizing fuel with
  | nil => exact absurd rfl ne_nil
  | cons v vs ih =>
    obtain ⟨fuel, rfl⟩ : ∃ f, fuel = f + 1 := ⟨fuel - 1, by omega⟩
    have first := reads v List.mem_cons_self fuel
    cases vs with
    | nil =>
      rw [itemsChars] at enough ⊢
      exact items?_last (first (']' :: rest) (by omega) (ends_cons (by decide) _))
    | cons w ws =>
      rw [itemsChars, List.length_append, List.length_cons] at enough
      have read := first (',' :: (itemsChars (w :: ws) ++ ']' :: rest)) (by omega)
        (ends_cons (by decide) _)
      have others : items? fuel (itemsChars (w :: ws) ++ ']' :: rest) = some (w :: ws, rest) :=
        ih (by simp) (fun v among => reads v (List.mem_cons_of_mem _ among)) (by omega)
      rw [itemsChars, List.append_assoc, List.cons_append, items?_more read, others]
      rfl

theorem members?_chars {ms : List (String × Json)} (ne_nil : ms ≠ [])
    (reads : ∀ m ∈ ms, Reads m.2) {fuel : Nat} (enough : (membersChars ms).length + 1 < fuel)
    (rest : List Char) :
    members? fuel (membersChars ms ++ '\x7d' :: rest) =
      some (ms.map fun m => (some m.1, m.2), rest) := by
  induction ms generalizing fuel with
  | nil => exact absurd rfl ne_nil
  | cons m ms ih =>
    obtain ⟨k, v⟩ := m
    obtain ⟨fuel, rfl⟩ : ∃ f, fuel = f + 1 := ⟨fuel - 1, by omega⟩
    have first : Reads v := reads (k, v) List.mem_cons_self
    cases ms with
    | nil =>
      rw [membersChars, List.length_append, List.length_cons] at enough
      have read := first fuel ('\x7d' :: rest) (by omega) (ends_cons (by decide) _)
      rw [membersChars, List.append_assoc, List.cons_append, members?_last k read]
      rfl
    | cons m ms =>
      rw [membersChars, List.length_append, List.length_append, List.length_cons,
        List.length_cons] at enough
      have read := first fuel (',' :: (membersChars (m :: ms) ++ '\x7d' :: rest)) (by omega)
        (ends_cons (by decide) _)
      have others : members? fuel (membersChars (m :: ms) ++ '\x7d' :: rest) =
          some ((m :: ms).map fun m => (some m.1, m.2), rest) :=
        ih (by simp) (fun m among => reads m (List.mem_cons_of_mem _ among)) (by omega)
      rw [membersChars, List.append_assoc, List.append_assoc, List.cons_append, List.cons_append,
        members?_more k read, others]
      rfl

theorem mapM_names (ms : List (String × Json)) :
    (ms.map fun m => (some m.1, m.2)).mapM (fun (k, v) => k.map fun k => (k, v)) = some ms := by
  induction ms with
  | nil => rfl
  | cons m ms ih => rw [List.map_cons, List.mapM_cons, ih]; rfl

/-- An array that does not end at once is read item by item. -/
theorem value?_items {c : Char} (space : isSpace c = false) (other : c ≠ ']') (fuel : Nat)
    (cs : List Char) :
    value? (fuel + 1) ('[' :: c :: cs) =
      (items? fuel (c :: cs)).map fun (vs, rest) => (array vs, rest) := by
  rw [value?, skipSpace_cons rfl]
  simp only [skipSpace_cons space]
  split
  · rename_i same
    cases same
    exact absurd rfl other
  · rfl

theorem reads_array {items : List Json} (plain : ∀ v ∈ items, Plain v)
    (reads : ∀ v ∈ items, Reads v) : Reads (array items) := by
  intro fuel rest enough _
  obtain ⟨fuel, rfl, enough⟩ := exists_fuel enough
  cases items with
  | nil => rfl
  | cons v vs =>
    obtain ⟨c, cs, first, space, other⟩ := (plain v List.mem_cons_self).starts
    obtain ⟨more, start⟩ : ∃ more, itemsChars (v :: vs) = c :: more := by
      cases vs with
      | nil => exact ⟨cs, first⟩
      | cons w ws =>
        rw [itemsChars, first]
        exact ⟨_, rfl⟩
    have length : (itemsChars (v :: vs)).length + 1 < fuel := by
      rw [chars, List.length_append, List.length_cons, List.length_singleton] at enough
      omega
    have read := items?_chars (List.cons_ne_nil v vs) reads length rest
    rw [chars, List.append_assoc, List.singleton_append, List.cons_append]
    rw [start] at read ⊢
    rw [List.cons_append, value?_items space other, ← List.cons_append, read]
    rfl

/-- An object that does not end at once is read member by member. -/
theorem value?_members (k : String) (fuel : Nat) (cs : List Char) :
    value? (fuel + 1) ('\x7b' :: (quoted k.toList ++ cs)) =
      (members? fuel (quoted k.toList ++ cs)).map fun (ms, after) =>
        match ms.mapM fun (k, v) => k.map (·, v) with
        | some ms => (object ms, after)
        | none => (broken (lexeme '\x7b' (quoted k.toList ++ cs) after), after) := by
  rw [value?, skipSpace_cons rfl]
  rfl

theorem reads_object {members : List (String × Json)} (reads : ∀ m ∈ members, Reads m.2) :
    Reads (object members) := by
  intro fuel rest enough _
  obtain ⟨fuel, rfl, enough⟩ := exists_fuel enough
  cases members with
  | nil => rfl
  | cons m ms =>
    obtain ⟨more, start⟩ : ∃ more, membersChars (m :: ms) = quoted m.1.toList ++ more := by
      obtain ⟨k, v⟩ := m
      cases ms with
      | nil => exact ⟨_, rfl⟩
      | cons m ms =>
        rw [membersChars, List.append_assoc]
        exact ⟨_, rfl⟩
    have length : (membersChars (m :: ms)).length + 1 < fuel := by
      rw [chars, List.length_append, List.length_cons, List.length_singleton] at enough
      omega
    have read := members?_chars (List.cons_ne_nil m ms) reads length rest
    rw [chars, List.append_assoc, List.singleton_append, List.cons_append]
    rw [start, List.append_assoc] at read ⊢
    rw [value?_members, read, Option.map_some]
    dsimp only
    rw [mapM_names]

/-- Every plain value is read back, whatever follows it. -/
theorem reads_of_plain {v : Json} (h : Plain v) : Reads v := by
  induction h with
  | null => exact reads_null
  | bool b => exact reads_bool b
  | integer n => exact reads_integer n
  | string s => exact reads_string s
  | array plain reads => exact reads_array plain reads
  | object _ reads => exact reads_object reads

/-- Reading is the inverse of printing on plain values. -/
theorem read?_text {v : Json} (h : Plain v) : read? v.text = some v := by
  have read := reads_of_plain h (v.chars.length + 1) [] (Nat.lt_succ_self _) ends_nil
  rw [List.append_nil] at read
  unfold read? text
  rw [String.toList_ofList]
  dsimp only
  rw [read]
  rfl

end Paymaster.Json
