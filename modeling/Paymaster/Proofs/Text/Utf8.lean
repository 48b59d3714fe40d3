import Mathlib.Data.List.Basic
import Paymaster.Text.Percent

/-
  Texts in bytes, read back.
  The bytes of a character are its first byte and those that go on, within the bounds that the first
  one sets; so the decoder sees one character (`step_encodeChar`) and no fault in any text
  (`decode_encode`). The byte of a percent sign is in no other character, so a text without one
  stands for its own bytes (`bytes_eq_encode`).
-/

namespace Paymaster

namespace Utf8

/-! ## One character -/

theorem ofNat_le_ofNat {m n : Nat} (h : m ≤ n) (small : n < 256) :
    UInt8.ofNat m ≤ UInt8.ofNat n := by
  rw [UInt8.le_iff_toNat_le, UInt8.toNat_ofNat', UInt8.toNat_ofNat']
  omega

/-- Bytes that go on a character. -/
def AreTails (bs : List UInt8) : Prop := ∀ b ∈ bs, 0x80 ≤ b ∧ b ≤ 0xbf

theorem tail_bounds (n : Nat) :
    0x80 ≤ UInt8.ofNat (n % 64 + 128) ∧ UInt8.ofNat (n % 64 + 128) ≤ 0xbf :=
  ⟨ofNat_le_ofNat (m := 0x80) (by omega) (by omega),
    ofNat_le_ofNat (n := 0xbf) (by omega) (by omega)⟩

theorem more_of {length n : Nat} {tails : List UInt8} (rest : List UInt8) (h : AreTails tails)
    (len : tails.length = n) : more length n (tails ++ rest) = .char (length + n) := by
  induction tails generalizing length n with
  | nil => cases len; cases rest <;> rfl
  | cons b tails ih =>
    cases len
    obtain ⟨first, others⟩ := List.forall_mem_cons.1 h
    rw [List.cons_append, List.length_cons, more, if_pos (by simp [first]), ih others rfl]
    congr 1
    omega

theorem step_multi {first b low high : UInt8} {n : Nat} {tails : List UInt8} (rest : List UInt8)
    (far : 0x80 ≤ first) (follows : continuation? first = some ((low, high), n))
    (second : low ≤ b ∧ b ≤ high) (h : AreTails tails) (len : tails.length = n) :
    step (first :: b :: tails ++ rest) = .char (n + 2) := by
  unfold step
  simp only [List.cons_append, if_neg (UInt8.not_lt.2 far), follows]
  rw [if_pos (by simp [second]), more_of rest h len, Nat.add_comm]

theorem continuation?_ofNat {m : Nat} (small : m < 256) :
    continuation? (UInt8.ofNat m) =
      if 0xc2 ≤ m ∧ m ≤ 0xdf then some ((0x80, 0xbf), 0)
      else if m = 0xe0 then some ((0xa0, 0xbf), 1)
      else if m = 0xed then some ((0x80, 0x9f), 1)
      else if 0xe1 ≤ m ∧ m ≤ 0xef then some ((0x80, 0xbf), 1)
      else if m = 0xf0 then some ((0x90, 0xbf), 2)
      else if 0xf1 ≤ m ∧ m ≤ 0xf3 then some ((0x80, 0xbf), 2)
      else if m = 0xf4 then some ((0x80, 0x8f), 2)
      else none := by
  unfold continuation?
  simp only [UInt8.le_iff_toNat_le, ← UInt8.toNat_inj, UInt8.toNat_ofNat', Nat.mod_eq_of_lt small,
    Bool.and_eq_true, decide_eq_true_eq]
  rfl

/-- The second of three bytes is bounded from below after the least first byte, and from above
after the one of the surrogates. -/
theorem step_three {first second third : Nat} (rest : List UInt8) (small : first < 16)
    (least : first = 0 → 32 ≤ second % 64) (surrogates : first = 13 → second % 64 < 32) :
    step ([UInt8.ofNat (first + 224), UInt8.ofNat (second % 64 + 128),
      UInt8.ofNat (third % 64 + 128)] ++ rest) = .char 3 := by
  have tails : AreTails [UInt8.ofNat (third % 64 + 128)] :=
    List.forall_mem_singleton.2 (tail_bounds third)
  have bounds := tail_bounds second
  by_cases zero : first = 0
  · subst zero
    have above : 0xa0 ≤ UInt8.ofNat (second % 64 + 128) :=
      ofNat_le_ofNat (m := 0xa0) (by have := least rfl; omega) (by omega)
    exact step_multi rest (by decide) rfl ⟨above, bounds.2⟩ tails rfl
  by_cases thirteen : first = 13
  · subst thirteen
    have below : UInt8.ofNat (second % 64 + 128) ≤ 0x9f :=
      ofNat_le_ofNat (n := 0x9f) (by have := surrogates rfl; omega) (by omega)
    exact step_multi rest (by decide) rfl ⟨bounds.1, below⟩ tails rfl
  refine step_multi rest (ofNat_le_ofNat (m := 0x80) (by omega) (by omega)) ?_ bounds tails rfl
  rw [continuation?_ofNat (by omega), if_neg (by omega), if_neg (by omega), if_neg (by omega),
    if_pos (by omega)]

/-- The second of four bytes is bounded from below after the least first byte, and from above
after the greatest. -/
theorem step_four {first second third fourth : Nat} (rest : List UInt8) (small : first ≤ 4)
    (least : first = 0 → 16 ≤ second % 64) (greatest : first = 4 → second % 64 < 16) :
    step ([UInt8.ofNat (first + 240), UInt8.ofNat (second % 64 + 128),
      UInt8.ofNat (third % 64 + 128), UInt8.ofNat (fourth % 64 + 128)] ++ rest) = .char 4 := by
  have tails : AreTails [UInt8.ofNat (third % 64 + 128), UInt8.ofNat (fourth % 64 + 128)] :=
    List.forall_mem_cons.2 ⟨tail_bounds third, List.forall_mem_singleton.2 (tail_bounds fourth)⟩
  have bounds := tail_bounds second
  by_cases zero : first = 0
  · subst zero
    have above : 0x90 ≤ UInt8.ofNat (second % 64 + 128) :=
      ofNat_le_ofNat (m := 0x90) (by have := least rfl; omega) (by omega)
    exact step_multi rest (by decide) rfl ⟨above, bounds.2⟩ tails rfl
  by_cases four : first = 4
  · subst four
    have below : UInt8.ofNat (second % 64 + 128) ≤ 0x8f :=
      ofNat_le_ofNat (n := 0x8f) (by have := greatest rfl; omega) (by omega)
    exact step_multi rest (by decide) rfl ⟨bounds.1, below⟩ tails rfl
  refine step_multi rest (ofNat_le_ofNat (m := 0x80) (by omega) (by omega)) ?_ bounds tails rfl
  rw [continuation?_ofNat (by omega), if_neg (by omega), if_neg (by omega), if_neg (by omega),
    if_neg (by omega), if_neg (by omega), if_pos (by omega)]

/-- The decoder sees one character in the bytes of one. -/
theorem step_encodeChar (c : Char) (rest : List UInt8) :
    step (String.utf8EncodeChar c ++ rest) = .char (String.utf8EncodeChar c).length := by
  have valid : c.val.toNat < 0xd800 ∨ 0xdfff < c.val.toNat ∧ c.val.toNat < 0x110000 := c.valid
  unfold String.utf8EncodeChar
  generalize c.val.toNat = v at valid ⊢
  dsimp only
  split_ifs with one two three
  · exact if_pos (UInt8.lt_of_le_of_lt (ofNat_le_ofNat one (by omega)) (by decide))
  · refine step_multi rest (ofNat_le_ofNat (m := 0x80) (by omega) (by omega)) ?_ (tail_bounds v)
      nofun rfl
    rw [continuation?_ofNat (by omega), if_pos (by omega)]
    rfl
  · exact step_three rest (by omega) (by omega) (by omega)
  · exact step_four rest (by omega) (by omega) (by omega)

/-! ## Texts -/

theorem toList_loop (bs : ByteArray) (i : Nat) (before : List UInt8) :
    ByteArray.toList.loop bs i before = before.reverse ++ bs.data.toList.drop i := by
  fun_induction ByteArray.toList.loop bs i before with
  | case1 i before inside ih =>
    rw [ih, List.reverse_cons, List.append_assoc, List.drop_eq_getElem_cons inside]
    simp [ByteArray.get!, getElem!_pos bs.data i inside]
  | case2 i before outside =>
    rw [List.drop_eq_nil_of_le (Nat.not_lt.1 outside), List.append_nil]

theorem encode_eq (s : String) : encode s = s.toByteArray.data.toList :=
  toList_loop s.toByteArray 0 []

theorem encode_flatMap (s : String) : encode s = s.toList.flatMap String.utf8EncodeChar := by
  rw [encode_eq]
  conv_lhs => rw [← String.ofList_toList (s := s), String.toByteArray_ofList, List.utf8Encode]
  rw [List.toList_data_toByteArray]

theorem encodeChar_ne_nil (c : Char) : String.utf8EncodeChar c ≠ [] := by
  unfold String.utf8EncodeChar
  dsimp only
  split_ifs <;> exact List.cons_ne_nil _ _

theorem faultFrom_encode (cs : List Char) (fuel index : Nat) :
    faultFrom fuel index (cs.flatMap String.utf8EncodeChar) = none := by
  induction cs generalizing fuel index with
  | nil => cases fuel <;> rfl
  | cons c cs ih =>
    cases fuel with
    | zero => rfl
    | succ fuel =>
      rw [List.flatMap_cons]
      obtain ⟨b, bs, first⟩ := List.exists_cons_of_ne_nil (encodeChar_ne_nil c)
      have one := step_encodeChar c (cs.flatMap String.utf8EncodeChar)
      rw [first] at one ⊢
      rw [List.cons_append] at one ⊢
      rw [faultFrom, one]
      · dsimp only
        rw [← List.cons_append, List.drop_left]
        exact ih _ _
      · exact List.cons_ne_nil _ _

/-- Every text is read back from its bytes. -/
theorem decode_encode (s : String) : decode (encode s) = .ok s := by
  have none : faultFrom (encode s).length 0 (encode s) = none := by
    rw [encode_flatMap]
    exact faultFrom_encode s.toList _ 0
  have text : textOf (encode s) = s := by
    unfold textOf String.fromUTF8?
    rw [encode_eq, Array.toArray_toList, dif_pos s.isValidUTF8]
    rfl
  unfold decode
  rw [none, text]

end Utf8

namespace Percent

theorem unescape_of_plain {bs : List UInt8} (h : 0x25 ∉ bs) : unescape bs = bs := by
  induction bs with
  | nil => rfl
  | cons b bs ih =>
    obtain ⟨other, rest⟩ := not_or.1 (List.mem_cons.not.1 h)
    rw [unescape, ih rest]
    rintro a₁ a₂ - rfl
    exact absurd rfl other

theorem eq_percent_of_mem {c : Char} (h : 0x25 ∈ String.utf8EncodeChar c) : c = '%' := by
  have other (n : Nat) (high : 0x80 ≤ n) (small : n < 256) : (0x25 : UInt8) ≠ UInt8.ofNat n := by
    intro same
    have := congrArg UInt8.toNat same
    rw [UInt8.toNat_ofNat', Nat.mod_eq_of_lt small] at this
    exact absurd (this ▸ high) (by decide)
  unfold String.utf8EncodeChar at h
  dsimp only at h
  split_ifs at h with one
  · have same := congrArg UInt8.toNat (List.mem_singleton.1 h)
    rw [UInt8.toNat_ofNat', Nat.mod_eq_of_lt (by omega)] at same
    exact Char.ext (UInt32.toNat_inj.1 same.symm)
  all_goals
    simp only [List.mem_cons, List.not_mem_nil, or_false] at h
    grind

/-- A text without a percent sign stands for its own bytes. -/
theorem bytes_eq_encode {s : String} (h : '%' ∉ s.toList) : bytes s = Utf8.encode s := by
  refine unescape_of_plain fun inside => ?_
  rw [Utf8.encode_flatMap] at inside
  obtain ⟨c, mem, mine⟩ := List.mem_flatMap.1 inside
  exact h (eq_percent_of_mem mine ▸ mem)

end Percent

end Paymaster
