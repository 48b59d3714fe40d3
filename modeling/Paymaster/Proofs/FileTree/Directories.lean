import Mathlib.Data.List.Basic
import Paymaster.FileTree

/-
  Directories that are made.
  Model (read this before the theorems). Names lead from a location to another, one step a name
  (`next`), and pass through all the locations between (`Passes`); to follow them, each of these
  must be a directory. `Grew` relates two trees of which the second has more directories, all of
  them on the way, and is the same otherwise. Making one directory is such a step
  (`makeDirectory_made`), and so, by induction on the names, is making all those on the way
  (`makeDirectories_ok`). So after the directory of a path is made, the directories are those that
  there were and those on the way to it (`makeParent_ok`).
-/

namespace Paymaster.FileTree

/-- In a file system whatever stands anywhere stands in a directory, and the working directory is
there. -/
structure Rooted (t : FileTree) : Prop where
  above : ∀ l, t.node? l ≠ none → t.isDirectory l.dropLast
  here : t.isDirectory t.workingDirectory

/-- One name further. Two dots go back by one name. -/
def next (l : Location) (name : String) : Location :=
  if name = "" ∨ name = "." then l else if name = ".." then l.dropLast else l ++ [name]

/-- The names lead from `l` to `d` or through it. -/
def Passes (l : Location) (names : List String) (d : Location) : Prop :=
  ∃ before, before <+: names ∧ before.foldl next l = d

section
variable {t t' t'' : FileTree} {l l' d : Location} {name : String} {names : List String}

theorem passes_concat :
    Passes l (names ++ [name]) d ↔ Passes l names d ∨ d = next (names.foldl next l) name := by
  constructor
  · rintro ⟨before, part, rfl⟩
    rcases List.prefix_concat_iff.1 part with rfl | part
    · exact .inr (by rw [List.foldl_append]; rfl)
    · exact .inl ⟨before, part, rfl⟩
  · rintro (⟨before, part, rfl⟩ | rfl)
    · exact ⟨before, part.trans (List.prefix_append _ _), rfl⟩
    · exact ⟨_, List.prefix_rfl, by rw [List.foldl_append]; rfl⟩

theorem passes_end : Passes l names (names.foldl next l) := ⟨names, List.prefix_rfl, rfl⟩

theorem isDirectory_iff : t.isDirectory l ↔ t.node? l = some .directory := by
  unfold isDirectory
  split <;> simp_all

theorem isDirectory_nil (t : FileTree) : t.isDirectory [] := rfl

theorem Rooted.dropLast (rooted : t.Rooted) (h : t.isDirectory l) : t.isDirectory l.dropLast :=
  rooted.above l (by rw [isDirectory_iff.1 h]; nofun)

theorem Rooted.start (rooted : t.Rooted) (path : String) : t.isDirectory (t.start path) := by
  unfold FileTree.start
  split
  · exact t.isDirectory_nil
  · exact rooted.here

/-! ## Following names -/

theorem walk_cons (h : t.isDirectory l) (name : String) (names : List String) :
    t.walk l (name :: names) =
      if name ≠ "" ∧ name ≠ "." ∧ name ≠ ".." ∧ isTooLong name then .error .nameTooLong
      else t.walk (next l name) names := by
  rw [walk, isDirectory_iff.1 h]
  unfold next
  grind

theorem isDirectory_of_walk_cons (h : t.walk l (name :: names) = .ok d) : t.isDirectory l := by
  rw [walk] at h
  rw [isDirectory_iff]
  split at h
  · cases h
  · cases h
  · assumption

theorem walk_append (l : Location) (before after : List String) :
    t.walk l (before ++ after) = (t.walk l before).bind fun d => t.walk d after := by
  induction before generalizing l with
  | nil => rfl
  | cons name before ih =>
    rw [List.cons_append, walk, walk]
    split
    · rfl
    · rfl
    · split
      · exact ih _
      · split
        · exact ih _
        · split
          · rfl
          · exact ih _

/-- Names that can be followed lead where they say. -/
theorem walk_ok (h : t.walk l names = .ok d) : d = names.foldl next l := by
  induction names generalizing l with
  | nil => cases h; rfl
  | cons name names ih =>
    rw [walk_cons (isDirectory_of_walk_cons h)] at h
    split at h
    · cases h
    · exact ih h

/-- All that is passed on the way to a directory is a directory. -/
theorem isDirectory_of_passes (h : t.walk l names = .ok l') (last : t.isDirectory l')
    (way : Passes l names d) : t.isDirectory d := by
  obtain ⟨before, ⟨after, rfl⟩, rfl⟩ := way
  rw [walk_append] at h
  cases first : t.walk l before with
  | error cause => rw [first] at h; cases h
  | ok middle =>
    rw [first] at h
    rw [← walk_ok first]
    cases after with
    | nil => cases h; exact last
    | cons name after => exact isDirectory_of_walk_cons h

theorem walk_mono (kept : ∀ d, t.isDirectory d → t'.isDirectory d) (h : t.walk l names = .ok d) :
    t'.walk l names = .ok d := by
  induction names generalizing l with
  | nil => exact h
  | cons name names ih =>
    have there := isDirectory_of_walk_cons h
    rw [walk_cons there] at h
    rw [walk_cons (kept l there)]
    split at h
    · cases h
    · rw [if_neg (by assumption)]
      exact ih h

/-! ## Making directories -/

/-- Directories were made on the way, and nothing else has changed. -/
structure Grew (t t' : FileTree) (way : Location → Prop) : Prop where
  workingDirectory : t'.workingDirectory = t.workingDirectory
  node : ∀ d, t'.node? d = t.node? d ∨
    (t.node? d = none ∧ t'.node? d = some .directory ∧ way d)
  rooted : t.Rooted → t'.Rooted

variable {way way' : Location → Prop}

namespace Grew

theorem refl (t : FileTree) (way : Location → Prop) : Grew t t way :=
  ⟨rfl, fun _ => .inl rfl, id⟩

theorem trans (first : Grew t t' way) (second : Grew t' t'' way) : Grew t t'' way where
  workingDirectory := second.workingDirectory.trans first.workingDirectory
  node d := by
    rcases first.node d with same | ⟨free, made, mine⟩
    · rw [← same]
      exact second.node d
    · rcases second.node d with same | ⟨free', -⟩
      · exact .inr ⟨free, same.trans made, mine⟩
      · rw [made] at free'
        cases free'
  rooted h := second.rooted (first.rooted h)

theorem mono (grew : Grew t t' way) (wider : ∀ d, way d → way' d) : Grew t t' way' where
  workingDirectory := grew.workingDirectory
  node d := (grew.node d).imp_right fun ⟨free, made, mine⟩ => ⟨free, made, wider d mine⟩
  rooted := grew.rooted

theorem kept (grew : Grew t t' way) (h : t.isDirectory d) : t'.isDirectory d := by
  rw [isDirectory_iff] at h ⊢
  rcases grew.node d with same | ⟨free, -⟩
  · exact same.trans h
  · rw [h] at free
    cases free

theorem isDirectory_or (grew : Grew t t' way) (h : t'.isDirectory d) : t.isDirectory d ∨ way d := by
  rw [isDirectory_iff] at h ⊢
  rcases grew.node d with same | ⟨-, -, mine⟩
  · exact .inl (same.symm.trans h)
  · exact .inr mine

end Grew

theorem node?_put (l : Location) (n : Node) (d : Location) :
    (t.put l n).node? d =
      if d = [] then some .directory else if d = l then some n else t.node? d := by
  unfold node? put
  split
  · rfl
  · rw [List.find?_append, List.find?_filter]
    split
    · rename_i same
      subst same
      rw [List.find?_eq_none.2 fun e _ => by simp]
      simp
    · rename_i other
      have others : (fun e : Location × Node =>
          decide (decide (e.1 ≠ l) = true ∧ decide (e.1 = d) = true)) =
            fun e : Location × Node => decide (e.1 = d) := by
        grind
      rw [others, List.find?_singleton, if_neg (by simpa using Ne.symm other), Option.or_none]

/-- A directory put where there was nothing, below a directory. -/
theorem Grew.put (below : t.isDirectory l) (free : t.node? (l ++ [name]) = none) :
    Grew t (t.put (l ++ [name]) .directory) (· = l ++ [name]) where
  workingDirectory := rfl
  node d := by
    rw [node?_put]
    split
    · rename_i root
      exact .inl (by rw [root]; rfl)
    · split
      · rename_i same
        exact .inr ⟨same ▸ free, rfl, same⟩
      · exact .inl rfl
  rooted h := by
    have kept (d : Location) (there : t.isDirectory d) :
        (t.put (l ++ [name]) .directory).isDirectory d := by
      rw [isDirectory_iff, node?_put, isDirectory_iff.1 there]
      split_ifs <;> rfl
    refine ⟨fun d there => ?_, kept _ h.here⟩
    rw [node?_put] at there
    split_ifs at there with root same
    · rw [root]
      exact isDirectory_nil _
    · rw [same, List.dropLast_concat]
      exact kept l below
    · exact kept _ (h.above d there)

/-- Names lead to a directory, last one first. -/
theorem leadsToDirectory_iff :
    t.leadsToDirectory l names ↔ ∃ d, t.walk l names.reverse = .ok d ∧ t.isDirectory d := by
  unfold leadsToDirectory
  cases t.walk l names.reverse <;> simp

/-- A directory is made below the one that the names above it lead to. -/
theorem makeDirectory_ok {above : List String} (h : t.makeDirectory l above name = .ok t') :
    ∃ parent, t.walk l above = .ok parent ∧ t.isDirectory parent ∧ name ≠ "." ∧ name ≠ ".." ∧
      isTooLong name = false ∧ t.node? (parent ++ [name]) = none ∧
      t' = t.put (parent ++ [name]) .directory := by
  unfold makeDirectory at h
  cases found : t.walk l above with
  | error cause => rw [found] at h; cases h
  | ok parent =>
    rw [found] at h
    refine ⟨parent, rfl, ?_⟩
    simp only [bind, Except.bind] at h
    split at h
    · cases h
    · cases h
    · rename_i directory
      split_ifs at h with dots long there
      rw [not_or] at dots
      cases h
      exact ⟨isDirectory_iff.2 directory, dots.1, dots.2, by simpa using long, by simpa using there,
        rfl⟩

/-- What is made at the end of names can be reached by them. -/
theorem makeDirectory_made {above : List String} (plain : name ≠ "")
    (h : t.makeDirectory l above.reverse name = .ok t') :
    t'.leadsToDirectory l (name :: above) ∧ Grew t t' (Passes l (name :: above).reverse) := by
  obtain ⟨parent, found, directory, dot, dots, short, free, rfl⟩ := makeDirectory_ok h
  have grew := Grew.put directory free
  have parent_eq := walk_ok found
  have step : next parent name = parent ++ [name] := by
    unfold next
    rw [if_neg (not_or.2 ⟨plain, dot⟩), if_neg dots]
  constructor
  · refine leadsToDirectory_iff.2 ⟨parent ++ [name], ?_, ?_⟩
    · rw [List.reverse_cons, walk_append, walk_mono (fun d => grew.kept) found]
      show FileTree.walk _ parent [name] = _
      rw [walk_cons (grew.kept directory), if_neg (by simp [short]), step]
      rfl
    · rw [isDirectory_iff, node?_put, if_pos rfl]
      exact ite_self _
  · refine grew.mono fun d last => ?_
    rw [List.reverse_cons, passes_concat, ← parent_eq, step]
    exact .inr last

/-- Once the directories are made, the names lead to one, and all that is new are directories on
the way. -/
theorem makeDirectories_ok {reversed : List String} (plain : ∀ name ∈ reversed, name ≠ "")
    (start : t.isDirectory l) (h : t.makeDirectories l reversed = (.ok (), t')) :
    t'.leadsToDirectory l reversed ∧ Grew t t' (Passes l reversed.reverse) := by
  induction reversed generalizing t' with
  | nil =>
    cases h
    exact ⟨leadsToDirectory_iff.2 ⟨l, rfl, start⟩, .refl _ _⟩
  | cons name above ih =>
    obtain ⟨named, plainAbove⟩ := List.forall_mem_cons.1 plain
    have wider (d : Location) (way : Passes l above.reverse d) :
        Passes l (name :: above).reverse d := by
      rw [List.reverse_cons]
      exact passes_concat.2 (.inl way)
    rw [makeDirectories] at h
    split at h
    · rename_i made
      cases h
      exact makeDirectory_made named made
    · split at h
      · cases h
      · rename_i middle done
        obtain ⟨-, first⟩ := ih plainAbove done
        split at h
        · rename_i made
          cases h
          obtain ⟨leads, second⟩ := makeDirectory_made named made
          exact ⟨leads, (first.mono wider).trans second⟩
        · obtain ⟨settled, rfl⟩ := Prod.ext_iff.1 h
          exact ⟨by by_contra no; simp [no] at settled, first.mono wider⟩
    · obtain ⟨settled, rfl⟩ := Prod.ext_iff.1 h
      exact ⟨by by_contra no; simp [no] at settled, .refl _ _⟩

end

/-! ## The directory of a path -/

theorem next_of_stays {name : String} (h : name = "" ∨ name = ".") (l : Location) :
    next l name = l :=
  if_pos h

/-- Names that stay where they are make no difference. -/
theorem foldl_filter_next {stays : String} (h : stays = "" ∨ stays = ".") (steps : List String)
    (l : Location) : (steps.filter (· ≠ stays)).foldl next l = steps.foldl next l := by
  rw [List.foldl_filter]
  congr 1
  funext l name
  split
  · rfl
  · rename_i same
    have same : name = stays := by simpa using same
    exact (next_of_stays (same ▸ h) l).symm

/-- The names of a path lead where its parts do. -/
theorem foldl_names (path : String) (l : Location) :
    (names path).foldl next l = (parts path).foldl next l := by
  rw [← foldl_filter_next (.inl rfl) (parts path)]
  unfold names
  split
  · rename_i none
    rw [none]
  · rename_i name rest some
    rw [some]
    dsimp only
    split
    · rename_i dot
      rw [foldl_filter_next (.inr rfl), List.foldl_cons, next_of_stays (.inr dot.1)]
    · rw [List.foldl_cons, foldl_filter_next (.inr rfl), List.foldl_cons]

theorem names_sublist (path : String) :
    (names path).Sublist ((parts path).filter (· ≠ "")) := by
  unfold names
  split
  · exact List.nil_sublist _
  · rename_i name rest some
    rw [some]
    dsimp only
    split
    · exact List.filter_sublist.trans (List.sublist_cons_self _ _)
    · exact List.filter_sublist.cons_cons _

theorem ne_empty_of_mem_names {path name : String} (h : name ∈ names path) : name ≠ "" := by
  simpa using (List.mem_filter.1 ((names_sublist path).subset h)).2

variable {t t' : FileTree} {path : String} {l d : Location}

/-- The way to the directory in which the entry at a path is to stand goes through `d`, or ends
there. -/
def IsAbove (t : FileTree) (path : String) (d : Location) : Prop :=
  Passes (t.start path) (names path).dropLast d

/-- Once the directory for the entry at a path is made, the directories are those that there were
and those on the way. -/
theorem makeParent_ok (rooted : t.Rooted) (h : t.makeParent path = (.ok (), t')) :
    Grew t t' (t.IsAbove path) ∧ ∀ d, t.IsAbove path d → t'.isDirectory d := by
  unfold makeParent makeAlong at h
  split at h
  · cases h
  · have plain : ∀ name ∈ (names path).dropLast.reverse, name ≠ "" := fun name mem =>
      ne_empty_of_mem_names (List.dropLast_subset _ (List.mem_reverse.1 mem))
    obtain ⟨leads, grew⟩ := makeDirectories_ok plain (rooted.start path) h
    obtain ⟨last, walked, there⟩ := leadsToDirectory_iff.1 leads
    rw [List.reverse_reverse] at walked grew
    exact ⟨grew, fun d way => isDirectory_of_passes walked there way⟩

/-- The entry that the names of a path lead to stands in a directory, if the way to it is there. -/
theorem isDirectory_dropLast_end (rooted : t.Rooted)
    (made : ∀ d, t.IsAbove path d → t.isDirectory d) :
    t.isDirectory ((names path).foldl next (t.start path)).dropLast := by
  have last := made _ passes_end
  rcases List.eq_nil_or_concat' (names path) with none | ⟨init, name, some⟩
  · rw [none]
    exact rooted.dropLast (rooted.start path)
  · rw [some, List.dropLast_concat] at last
    rw [some, List.foldl_append, List.foldl_cons, List.foldl_nil]
    unfold next
    split_ifs
    · exact rooted.dropLast last
    · exact rooted.dropLast (rooted.dropLast last)
    · rw [List.dropLast_concat]
      exact last

end Paymaster.FileTree
