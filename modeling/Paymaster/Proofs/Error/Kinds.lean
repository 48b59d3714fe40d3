import Paymaster.Error.Basic
import Paymaster.Proofs.Text.Places

/-
  What an error says, and how it is treated.
  An error is treated by its constructor, and otherwise by its message: it is transient when a
  marker stands in it. What is part of every marker but not of a message keeps the message from
  holding one (`mentionsBadConnection_eq_false`). Every marker has the letter c; a span of time is
  written with digits, a point and the letters of its unit, none of them a c
  (`Duration.of_mem_chars`). Hence an attempt that ran out of time is never retried
  (`kind_attemptTimeout`).
-/

namespace Paymaster

/-! ## Texts -/

namespace Text

theorem val_le_of_isDigit {c : Char} (h : c.isDigit) : c.val ≤ '9'.val := by
  simp only [Char.isDigit, Bool.and_eq_true, decide_eq_true_eq] at h
  exact h.2

theorem toLower_of_isDigit {c : Char} (h : c.isDigit) : c.toLower = c :=
  dif_neg fun upper => absurd (UInt32.le_trans upper.1 (val_le_of_isDigit h)) (by decide)

theorem mem_of_holds_singleton {c : Char} {text : List Char} (h : holds [c] text) : c ∈ text :=
  ((holds_iff _ _).1 h).subset (List.mem_singleton.2 rfl)

end Text

namespace Duration

theorem of_mem_decimalChars {places n : Nat} {c : Char} (h : c ∈ decimalChars places n) :
    c.isDigit ∨ c = '.' := by
  rcases List.mem_append.1 h with whole | fraction
  · exact .inl (Decimal.isDigit_of_mem_digits whole)
  · split at fraction
    · cases fraction
    · rcases List.mem_cons.1 fraction with point | place
      · exact .inr point
      · have kept := (List.dropWhile_sublist _).mem (List.mem_reverse.1 place)
        exact .inl (Decimal.isDigit_of_mem_padded (List.mem_reverse.1 kept))

theorem of_mem_chars {d : Duration} {c : Char} (h : c ∈ d.chars) :
    c.isDigit ∨ c ∈ ['.', 's', 'm', 'µ', 'n'] := by
  have of_parts {places : Nat} {unit : List Char} (known : unit ⊆ ['s', 'm', 'µ', 'n'])
      (h : c ∈ decimalChars places d ++ unit) : c.isDigit ∨ c ∈ ['.', 's', 'm', 'µ', 'n'] := by
    rcases List.mem_append.1 h with number | letter
    · exact (of_mem_decimalChars number).imp_right fun point => List.mem_cons.2 (.inl point)
    · exact .inr (List.mem_cons_of_mem _ (known letter))
  unfold chars at h
  split at h
  · exact of_parts (by decide) h
  · split at h
    · exact of_parts (by decide) h
    · split at h
      · exact of_parts (by decide) h
      · exact of_parts (by decide) h

end Duration

/-! ## Kinds -/

namespace Error

/-- A text speaks of no bad connection if it lacks what is part of every marker. -/
theorem mentionsBadConnection_eq_false {text : String} (part : List Char)
    (common : ∀ marker ∈ connectionMarkers, Text.holds part marker.toList)
    (missing : ¬Text.holds part (text.toList.map Char.toLower)) :
    mentionsBadConnection text = false := by
  refine List.any_eq_false.2 fun marker mine found => missing ?_
  rw [Text.holds_iff] at found ⊢
  exact ((Text.holds_iff _ _).1 (common marker mine)).trans found

theorem kind_eq_cancelled {e : Error} : e.kind = .cancelled ↔ e = .cancelled := by
  refine ⟨fun h => ?_, fun h => by rw [h]; rfl⟩
  unfold kind at h
  split at h
  · rfl
  · cases h
  · split at h
    · cases h
    · cases h
  · split at h
    · cases h
    · cases h

/-- The words about an attempt that ran out of time have no c. -/
theorem c_notMem_attemptTimeout (d : Duration) :
    'c' ∉ (timeout "payroll attempt" d).message.toList.map Char.toLower := by
  intro found
  obtain ⟨c, mine, lowered⟩ := List.mem_map.1 found
  have foreign {cs : List Char} (clear : cs.all fun c => c.toLower != 'c') : c ∉ cs := fun mine =>
    bne_iff_ne.1 (List.all_eq_true.1 clear c mine) lowered
  unfold message at mine
  rw [String.toList_append, Duration.text, String.toList_ofList] at mine
  rcases List.mem_append.1 mine with word | span
  · exact foreign (by decide) word
  · rcases Duration.of_mem_chars span with digit | letter
    · rw [Text.toLower_of_isDigit digit] at lowered
      rw [lowered] at digit
      exact absurd digit (by decide)
    · exact foreign (by decide) letter

/-- An attempt that ran out of time is not retried, whatever its bound was. -/
theorem kind_attemptTimeout (d : Duration) : (timeout "payroll attempt" d).kind = .permanent := by
  have silent : mentionsBadConnection (timeout "payroll attempt" d).message = false :=
    mentionsBadConnection_eq_false ['c'] (by decide) fun found =>
      c_notMem_attemptTimeout d (Text.mem_of_holds_singleton found)
  unfold kind
  dsimp only
  rw [silent]
  rfl

/-- No error says what stands in for the error of a cycle without rounds. -/
theorem message_ne_noAttempts (e : Error) : e.message ≠ "no attempts were made" := by
  intro h
  cases e with
  | timeout operation after =>
    have letter : 'u' ∈ (operation ++ " timed out after " ++ after.text).toList := by simp
    have same : operation ++ " timed out after " ++ after.text = "no attempts were made" := h
    rw [same] at letter
    exact absurd letter (by decide)
  | _ =>
    -- The message begins with a capital.
    have first := congrArg (fun text => text.toList.head?) h
    unfold message at first
    simp at first

end Error

end Paymaster
