import Mathlib.Data.List.TakeWhile
import Paymaster.Connection.FileName
import Paymaster.Proofs.Text.Utf8

/-
  The path in an address, and the one that the driver makes of it.
  The driver drops the scheme of an address as often as it stands there, reads percent signs, and
  takes a name that starts with `file:` apart once more. None of this changes a plain path
  (`path_of_plain`).
-/

namespace Paymaster.Connection

/-- The path as an address has it: what stands between `sqlite://` and the first question mark. -/
def written? (address : String) : Option String :=
  ("sqlite://".toList.isPrefixOf? address.toList).map fun rest =>
    String.ofList (rest.takeWhile (· ≠ '?'))

/-- A path that has no meaning but itself: it has no percent sign and no byte zero, and it does not
start with a scheme. -/
structure IsPlain (path : String) : Prop where
  escape : '%' ∉ path.toList
  nul : '\x00' ∉ path.toList
  scheme : ¬"sqlite:".toList <+: path.toList
  uri : ¬"file:".toList <+: path.toList

variable {address path : String} {target : Target} {layer : Layer}

theorem dropAll_of_not_prefix {word cs : List Char} (h : ¬word <+: cs) (fuel : Nat) :
    Target.dropAll word fuel cs = cs := by
  cases fuel with
  | zero => rfl
  | succ fuel => exact if_neg (by rwa [List.isPrefixOf_iff_prefix])

theorem split_of_plain (written : written? address = some path) (plain : IsPlain path) :
    (Target.split address).1 = path := by
  obtain ⟨rest, found, rfl⟩ := Option.map_eq_some_iff.1 written
  have text := List.isPrefixOf?_eq_some_iff_append_eq.1 found
  have scheme : ¬"sqlite:".toList <+: rest := by
    rintro ⟨after, rfl⟩
    refine plain.scheme ?_
    rw [List.takeWhile_append_of_pos (by simp), String.toList_ofList, String.toList_ofList]
    exact List.prefix_append _ _
  have slashes : ¬"sqlite://".toList <+: rest := fun more =>
    scheme (List.IsPrefix.trans (by decide) more)
  have first : Target.dropAll "sqlite://".toList address.toList.length address.toList = rest := by
    rw [← text, List.length_append]
    have fuel : "sqlite://".toList.length + rest.length = (8 + rest.length) + 1 := by
      show 9 + rest.length = _
      omega
    rw [fuel, Target.dropAll, if_pos (List.isPrefixOf_iff_prefix.2 (List.prefix_append _ _)),
      List.drop_left, dropAll_of_not_prefix slashes]
  unfold Target.split
  simp only [first, dropAll_of_not_prefix scheme]
  split
  · rename_i none
    have whole := List.takeWhile_append_dropWhile (p := (· ≠ '?')) (l := rest)
    rw [none, List.append_nil] at whole
    rw [whole]
  · rfl

theorem path_withParameter {before after : Target} {name value : String}
    (h : before.withParameter name value = .ok after) : after.path = before.path := by
  unfold Target.withParameter at h
  split at h <;> cases h <;> rfl

theorem path_ofAddress (written : written? address = some path) (plain : IsPlain path)
    (h : Target.ofAddress address = .ok target) : target.path = path := by
  have read := split_of_plain written plain
  have decoded : Utf8.decode (Percent.bytes path) = .ok path := by
    rw [Percent.bytes_eq_encode plain.escape, Utf8.decode_encode]
  have parameters (ps : List (String × String)) (first last : Target)
      (h : ps.foldlM (fun t (p : String × String) => t.withParameter p.1 p.2) first = .ok last) :
      last.path = first.path := by
    induction ps generalizing first with
    | nil => cases h; rfl
    | cons p ps ih =>
      rw [List.foldlM_cons] at h
      cases one : first.withParameter p.1 p.2 with
      | error cause => rw [one] at h; cases h
      | ok middle =>
        rw [one] at h
        rw [ih middle h, path_withParameter one]
  unfold Target.ofAddress at h
  cases parts : Target.split address with
  | mk front query =>
  rw [parts] at h read
  obtain rfl : front = path := read
  dsimp only at h
  split at h
  · exact parameters _ _ _ h
  · rw [decoded] at h
    exact parameters _ _ _ h

theorem path_resolve {before : Target} (plain : IsPlain before.path)
    (h : before.resolve = .ok (target, layer)) : target.path = before.path := by
  have same : Target.untilNul before.path = before.path := by
    unfold Target.untilNul
    rw [List.takeWhile_eq_self_iff.2, String.ofList_toList]
    intro c mem
    exact decide_eq_true fun zero => plain.nul (zero ▸ mem)
  have noUri : "file:".toList.isPrefixOf? before.path.toList = none := by
    rw [Option.eq_none_iff_forall_ne_some]
    intro rest found
    exact plain.uri ⟨rest, List.isPrefixOf?_eq_some_iff_append_eq.1 found⟩
  unfold Target.resolve at h
  dsimp only [bind, Except.bind] at h
  -- in each case the layer, whatever it is, leaves the target as it is
  split at h
  · split at h
    · cases h
      exact same
    · split at h <;> cases h
      exact same
  · split at h
    · cases h
    · rw [noUri] at h
      dsimp only at h
      split at h
      · cases h
        rfl
      · split at h <;> cases h
        rfl

/-- A plain path is opened as it is written. -/
theorem path_of_plain (written : written? address = some path) (plain : IsPlain path)
    (h : Target.ofAddress address >>= Target.resolve = .ok (target, layer)) :
    target.path = path := by
  cases asked : Target.ofAddress address with
  | error cause => rw [asked] at h; cases h
  | ok before =>
    rw [asked] at h
    obtain rfl := path_ofAddress written plain asked
    exact path_resolve plain h

end Paymaster.Connection
