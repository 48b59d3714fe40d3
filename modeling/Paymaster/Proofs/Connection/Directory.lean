import Mathlib
import Paymaster.Connection.Opening
import Paymaster.Proofs.Connection.PlainPaths
import Paymaster.Proofs.FileTree.Directories

/-
  The directory of a database file.
  Model (read this before the theorems). Before connecting, the directory is made for the path as an
  address has it; then the database is opened at the path that the driver makes of the address.
  `Asks` says that the address asks for a file, at a location, that is to be made where it is
  missing. After the directory was made, it is there just if it was there before or is on the way
  to the one of the path as it is written; so it is for every plain path, and connecting succeeds
  just if it is there (`directory_there`). It is not there for every path: one with percent signs
  is written in another way than it is read (`directory_of_escaped`).
-/

namespace Paymaster.Connection

open FileTree (next)

/-! ## Before connecting -/

section
variable {t t' : FileTree} {address path : String} {l : Location}

theorem makeDirectory_eq (t : FileTree) (address : String) :
    makeDirectory t address =
      match written? address with
      | none => (.ok (), t)
      | some path =>
        if (FileTree.names path).dropLast.any (·.contains '\x00') then (.error .nulInName, t)
        else
          match t.makeParent path with
          | (.ok (), t) => (.ok (), t)
          | (.error cause, t) => (.error (.os cause), t) := by
  unfold makeDirectory written?
  cases "sqlite://".toList.isPrefixOf? address.toList <;> rfl

theorem makeDirectory_ok (h : makeDirectory t address = (.ok (), t')) :
    written? address = none ∧ t' = t ∨
      ∃ path, written? address = some path ∧ t.makeParent path = (.ok (), t') := by
  rw [makeDirectory_eq] at h
  split at h
  · rename_i none
    cases h
    exact .inl ⟨none, rfl⟩
  · rename_i path some
    refine .inr ⟨path, some, ?_⟩
    split at h
    · cases h
    · split at h
      · rename_i made
        cases h
        exact made
      · cases h

/-- What making the directory does: the directories are those that there were, and those on the way
to the one of the path as it is written. -/
theorem makeDirectory_effect (rooted : t.Rooted) (made : makeDirectory t address = (.ok (), t')) :
    t'.Rooted ∧ t'.workingDirectory = t.workingDirectory ∧
      ∀ d, t'.isDirectory d ↔
        t.isDirectory d ∨ ∃ path, written? address = some path ∧ t.IsAbove path d := by
  rcases makeDirectory_ok made with ⟨none, rfl⟩ | ⟨path, some, made⟩
  · exact ⟨rooted, rfl, fun d => by simp [none]⟩
  · obtain ⟨grew, way⟩ := FileTree.makeParent_ok rooted made
    refine ⟨grew.rooted rooted, grew.workingDirectory, fun d => ⟨fun there => ?_, ?_⟩⟩
    · exact (grew.isDirectory_or there).imp_right fun above => ⟨path, some, above⟩
    · rintro (before | ⟨_, some', above⟩)
      · exact grew.kept before
      · rw [some] at some'
        cases some'
        exact way d above

/-! ## The file -/

theorem next_of_enter? {l l' : Location} {name : String} (h : enter? t l name = some l') :
    next l name = l' := by
  unfold enter? at h
  unfold next
  split at h
  · rename_i stays
    rw [if_pos stays]
    exact Option.some.inj h
  · rename_i goes
    rw [if_neg goes]
    split at h
    · rename_i dots
      rw [if_pos dots]
      exact Option.some.inj h
    · rename_i other
      rw [if_neg other]
      grind

theorem location?_eq (h : location? t path = some l) :
    (FileTree.names path).foldl next (t.start path) = l := by
  have followed (names : List String) (first last : Location)
      (h : names.foldlM (enter? t) first = some last) : names.foldl next first = last := by
    induction names generalizing first with
    | nil => exact Option.some.inj h
    | cons name names ih =>
      obtain ⟨middle, one, others⟩ := Option.bind_eq_some_iff.1 h
      rw [List.foldl_cons, next_of_enter? one]
      exact ih middle others
  obtain ⟨last, found, rest⟩ := Option.bind_eq_some_iff.1 h
  split at rest
  · cases rest
  · cases rest
    rw [FileTree.foldl_names]
    exact followed _ _ _ found

/-- The address asks for a file at `l`, which is to be made where it is missing. -/
structure Asks (t : FileTree) (address : String) (target : Target) (layer : Layer) (l : Location) :
    Prop where
  scheme : Address.scheme? address = some "sqlite"
  reading : Target.ofAddress address >>= Target.resolve = .ok (target, layer)
  inFile : target.inMemory = false ∧ target.path ≠ "" ∧ target.path ≠ ":memory:" ∧
    layer ≠ .memory
  location : location? t target.path = some l
  creates : target.create = true ∧ target.readOnly = false
  /-- The file whose permissions it gets is there. -/
  modeOf : ∀ path ∈ target.modeOf, t.isThere path = true

variable {target : Target} {layer : Layer}

theorem connect_of_asks (asks : Asks t address target layer l) :
    connect t address = openFile t target layer l := by
  have inFile : ¬(target.inMemory || target.path = "" || target.path = ":memory:") := by
    simp [asks.inFile]
  have permitted : ¬target.modeOf.any (!t.isThere ·) := by
    cases h : target.modeOf with
    | none => nofun
    | some path => simp [asks.modeOf path h]
  unfold connect openTarget
  simp only [asks.scheme, asks.reading, asks.location, if_neg inFile, if_neg asks.inFile.2.2.2,
    if_neg permitted, if_true]

/-- Trying again makes no difference. -/
theorem connectWithin_eq (t : FileTree) (address : String) (attempts : Nat) :
    connectWithin t address attempts = connect t address := by
  induction attempts with
  | zero => rfl
  | succ attempts ih =>
    unfold connectWithin
    split
    · rename_i result opened
      exact opened.symm
    · exact ih

/-- Where no directory stands in the way, the file can be opened just if its directory is there. -/
theorem connects_iff (rooted : t.Rooted) (asks : Asks t address target layer l)
    (free : t.isDirectory l = false) :
    (∃ result, connect t address = .ok result) ↔ t.isDirectory l.dropLast := by
  rw [connect_of_asks asks]
  unfold openFile
  cases node : t.node? l with
  | none =>
    have opens : (target.create && !target.readOnly && t.isDirectory l.dropLast) =
        t.isDirectory l.dropLast := by simp [asks.creates]
    dsimp only
    rw [opens]
    cases t.isDirectory l.dropLast <;> simp
  | some entry =>
    cases entry with
    | directory =>
      rw [FileTree.isDirectory_iff.2 node] at free
      cases free
    | file contents => simp [rooted.above l (by rw [node]; nofun)]

/-- Once the directory is made, the database is opened, or refused as at the first attempt. -/
theorem establish_of_asks {s : DatabaseSettings} (made : makeDirectory t s.url = (.ok (), t'))
    (asks : Asks t' s.url target layer l) :
    (establish t s).1 =
      match connect t' s.url with
      | .ok (db, _) => .ok db
      | .error cause => .error (.database cause) := by
  have url : s.url ≠ "" := fun none => by
    have scheme := asks.scheme
    rw [none] at scheme
    cases scheme
  unfold establish
  rw [if_neg url, made]
  dsimp only
  rw [connectWithin_eq]
  cases connect t' s.url <;> rfl

end

/-! ## Files to be made in an empty directory -/

/-- A working directory with nothing in it. -/
def bare : FileTree := { entries := [(["srv"], .directory)], workingDirectory := ["srv"] }

theorem rooted_bare : bare.Rooted := by
  refine ⟨fun l there => ?_, rfl⟩
  by_cases root : l = []
  · rw [root]
    rfl
  · by_cases srv : l = ["srv"]
    · rw [srv]
      rfl
    · refine absurd ?_ there
      unfold FileTree.node?
      rw [if_neg root]
      simp [bare, Ne.symm srv]

theorem parameters_create : Target.parameters "mode=rwc" = [("mode", "rwc")] := by
  have item : "mode=rwc".splitOn "&" = ["mode=rwc"] := by
    unfold String.splitOn
    simp +decide [String.splitOnAux]
  have pair : "mode=rwc".splitOn "=" = ["mode", "rwc"] := by
    unfold String.splitOn
    simp +decide [String.splitOnAux]
  have name : Target.parameterText "mode" = "mode" := by decide +kernel
  have value : Target.parameterText "rwc" = "rwc" := by decide +kernel
  unfold Target.parameters
  rw [item, List.filter_cons_of_pos (by decide), List.filter_nil, List.map_singleton, pair]
  dsimp only
  rw [name, show String.intercalate "=" ["rwc"] = "rwc" by rfl, value]

/-- What an address asks for whose only parameter is that the file is to be made. -/
theorem reading_create {address path name : String}
    (parts : Target.split address = (path, some "mode=rwc")) (file : path ≠ ":memory:")
    (read : Utf8.decode (Percent.bytes path) = .ok name) (nul : name.contains '\x00' = false)
    (uri : "file:".toList.isPrefixOf? name.toList = none) :
    Target.ofAddress address >>= Target.resolve =
      .ok ({ path := name, create := true }, .standard) := by
  have asked : Target.ofAddress address = .ok { path := name, create := true } := by
    unfold Target.ofAddress
    rw [parts]
    dsimp only
    rw [if_neg file, read, Option.getD_some, parameters_create]
    rfl
  rw [asked]
  show Target.resolve { path := name, create := true } = _
  unfold Target.resolve
  rw [if_neg (by simp), if_neg (by simp [nul]), uri]
  rfl

theorem asks_create {t : FileTree} {address path name : String} {l : Location}
    (scheme : Address.scheme? address = some "sqlite")
    (parts : Target.split address = (path, some "mode=rwc")) (file : path ≠ ":memory:")
    (read : Utf8.decode (Percent.bytes path) = .ok name) (nul : name.contains '\x00' = false)
    (uri : "file:".toList.isPrefixOf? name.toList = none)
    (named : name ≠ "" ∧ name ≠ ":memory:") (location : location? t name = some l) :
    Asks t address { path := name, create := true } .standard l where
  scheme := scheme
  reading := reading_create parts file read nul uri
  inFile := ⟨rfl, named.1, named.2, nofun⟩
  location := location
  creates := ⟨rfl, rfl⟩
  modeOf := nofun

/-- Making a directory in the empty one. -/
theorem made_bare {address path name file : String} (written : written? address = some path)
    (names : FileTree.names path = [name, file]) (relative : FileTree.isAbsolute path = false)
    (nul : '\x00' ∉ name.toList) (dots : name ≠ "." ∧ name ≠ "..")
    (short : name.utf8ByteSize ≤ 255) :
    makeDirectory bare address = (.ok (), bare.put ["srv", name] .directory) := by
  have free : bare.node? ["srv", name] = none := by
    unfold FileTree.node?
    simp [bare]
  have one : bare.makeDirectory ["srv"] [] name = .ok (bare.put ["srv", name] .directory) := by
    show (if name = "." ∨ name = ".." then _ else if FileTree.isTooLong name then _
      else if (bare.node? ["srv", name]).isSome then _ else _) = _
    rw [if_neg (by simp [dots]), if_neg (by simp [FileTree.isTooLong, short]),
      if_neg (by simp [free])]
    rfl
  have parent : bare.makeParent path = (.ok (), bare.put ["srv", name] .directory) := by
    have size : ¬4096 ≤ (String.intercalate "/" [name]).utf8ByteSize := by
      show ¬4096 ≤ name.utf8ByteSize
      omega
    unfold FileTree.makeParent FileTree.makeAlong FileTree.start
    rw [names, relative]
    refine (if_neg size).trans ?_
    show bare.makeDirectories ["srv"] [name] = _
    rw [FileTree.makeDirectories, List.reverse_nil, one]
  rw [makeDirectory_eq, written]
  dsimp only
  rw [names, if_neg (by simp [nul]), parent]

theorem parts_data : FileTree.parts "data/budget.sqlite" = ["data", "budget.sqlite"] := by
  unfold FileTree.parts String.splitOn
  simp +decide [String.splitOnAux]

theorem relative_data : FileTree.isAbsolute "data/budget.sqlite" = false := by decide +kernel

theorem written_data :
    written? "sqlite://data/budget.sqlite?mode=rwc" = some "data/budget.sqlite" := by rfl

theorem made_data :
    makeDirectory bare "sqlite://data/budget.sqlite?mode=rwc" =
      (.ok (), bare.put ["srv", "data"] .directory) := by
  have names : FileTree.names "data/budget.sqlite" = ["data", "budget.sqlite"] := by
    unfold FileTree.names
    rw [parts_data]
    rfl
  exact made_bare written_data names relative_data (by decide) (by decide) (by decide)

theorem asks_data :
    Asks (bare.put ["srv", "data"] .directory) "sqlite://data/budget.sqlite?mode=rwc"
      { path := "data/budget.sqlite", create := true } .standard
      ["srv", "data", "budget.sqlite"] := by
  have parts : Target.split "sqlite://data/budget.sqlite?mode=rwc" =
      ("data/budget.sqlite", some "mode=rwc") := by rfl
  have read : Utf8.decode (Percent.bytes "data/budget.sqlite") = .ok "data/budget.sqlite" := by
    rw [Percent.bytes_eq_encode (by decide), Utf8.decode_encode]
  refine asks_create (by cbv) parts (by decide) read (by simp) (by rfl) (by decide) ?_
  unfold location? FileTree.start
  rw [parts_data, relative_data]
  rfl

theorem made_escaped :
    makeDirectory bare "sqlite://my%20data/budget.sqlite?mode=rwc" =
      (.ok (), bare.put ["srv", "my%20data"] .directory) := by
  have written : written? "sqlite://my%20data/budget.sqlite?mode=rwc" =
      some "my%20data/budget.sqlite" := by rfl
  have parts : FileTree.parts "my%20data/budget.sqlite" = ["my%20data", "budget.sqlite"] := by
    unfold FileTree.parts String.splitOn
    simp +decide [String.splitOnAux]
  have names : FileTree.names "my%20data/budget.sqlite" = ["my%20data", "budget.sqlite"] := by
    unfold FileTree.names
    rw [parts]
    rfl
  exact made_bare written names (by decide +kernel) (by decide) (by decide) (by decide)

theorem asks_escaped :
    Asks (bare.put ["srv", "my%20data"] .directory) "sqlite://my%20data/budget.sqlite?mode=rwc"
      { path := "my data/budget.sqlite", create := true } .standard
      ["srv", "my data", "budget.sqlite"] := by
  have written : Target.split "sqlite://my%20data/budget.sqlite?mode=rwc" =
      ("my%20data/budget.sqlite", some "mode=rwc") := by rfl
  have bytes : Percent.bytes "my%20data/budget.sqlite" =
      Utf8.encode "my data/budget.sqlite" := by decide +kernel
  have read : Utf8.decode (Percent.bytes "my%20data/budget.sqlite") =
      .ok "my data/budget.sqlite" := by
    rw [bytes, Utf8.decode_encode]
  have parts : FileTree.parts "my data/budget.sqlite" = ["my data", "budget.sqlite"] := by
    unfold FileTree.parts String.splitOn
    simp +decide [String.splitOnAux]
  have relative : FileTree.isAbsolute "my data/budget.sqlite" = false := by decide +kernel
  refine asks_create (by cbv) written (by decide) read (by simp) (by rfl) (by decide) ?_
  unfold location? FileTree.start
  rw [parts, relative]
  rfl

/-! ## The directory is there -/

section
variable {t t' : FileTree} {address path : String} {l : Location} {target : Target} {layer : Layer}

/-- The directory of a path that is opened as it is written was made. -/
theorem isDirectory_of_written (rooted : t.Rooted)
    (made : makeDirectory t address = (.ok (), t')) (written : written? address = some path)
    (location : location? t' path = some l) : t'.isDirectory l.dropLast := by
  obtain ⟨rooted', here, directories⟩ := makeDirectory_effect rooted made
  have start : t'.start path = t.start path := by
    unfold FileTree.start
    rw [here]
  have way (d : Location) (above : t'.IsAbove path d) : t'.isDirectory d := by
    unfold FileTree.IsAbove at above
    rw [start] at above
    exact (directories d).2 (.inr ⟨path, written, above⟩)
  rw [← location?_eq location]
  exact FileTree.isDirectory_dropLast_end rooted' way

/-- The directory of the file that an address asks for is there, after it was made, just if it was
there before or is on the way to the one of the path as it is written. So it is there for every
plain path, whatever the file system. Connecting to the database succeeds just if the directory is
there, unless a directory stands in the place of the file. -/
theorem directory_there {s : DatabaseSettings} (rooted : t.Rooted)
    (made : makeDirectory t s.url = (.ok (), t')) (asks : Asks t' s.url target layer l) :
    (t'.isDirectory l.dropLast ↔ t.isDirectory l.dropLast ∨
      ∃ path, written? s.url = some path ∧ t.IsAbove path l.dropLast) ∧
    (∀ path, written? s.url = some path → IsPlain path → t'.isDirectory l.dropLast) ∧
    (t'.isDirectory l = false →
      ((∃ db, (establish t s).1 = .ok db) ↔ t'.isDirectory l.dropLast)) := by
  obtain ⟨rooted', -, directories⟩ := makeDirectory_effect rooted made
  refine ⟨directories _, fun path written plain => ?_, fun free => ?_⟩
  · have same := path_of_plain written plain asks.reading
    exact isDirectory_of_written rooted made written (same ▸ asks.location)
  · rw [← connects_iff rooted' asks free, establish_of_asks made asks]
    cases connect t' s.url with
    | error cause => exact ⟨nofun, nofun⟩
    | ok result => exact ⟨fun _ => ⟨_, rfl⟩, fun _ => ⟨_, rfl⟩⟩

/-- The database of the default settings, in an empty directory: the path is plain, so its directory
is there once it was made, and the database is opened. -/
theorem directory_there_default :
    makeDirectory bare ({} : DatabaseSettings).url =
        (.ok (), bare.put ["srv", "data"] .directory) ∧
      (bare.put ["srv", "data"] .directory).isDirectory ["srv", "data"] ∧
      ∃ db, (establish bare {}).1 = .ok db := by
  have plain : IsPlain "data/budget.sqlite" := ⟨by decide, by decide, by decide, by decide⟩
  obtain ⟨-, here, opens⟩ := directory_there (s := {}) rooted_bare made_data asks_data
  have there := here "data/budget.sqlite" written_data plain
  exact ⟨made_data, there, (opens (by decide)).2 there⟩

/-- A path with a percent sign: the directory is made under the name as it is written, the file is
to stand in the directory whose name is meant, and all attempts to connect fail for want of it. -/
theorem directory_of_escaped :
    bare.Rooted ∧
      makeDirectory bare "sqlite://my%20data/budget.sqlite?mode=rwc" =
        (.ok (), bare.put ["srv", "my%20data"] .directory) ∧
      Asks (bare.put ["srv", "my%20data"] .directory)
        "sqlite://my%20data/budget.sqlite?mode=rwc"
        { path := "my data/budget.sqlite", create := true } .standard
        ["srv", "my data", "budget.sqlite"] ∧
      (bare.put ["srv", "my%20data"] .directory).isDirectory ["srv", "my data"] = false ∧
      (establish bare { url := "sqlite://my%20data/budget.sqlite?mode=rwc" }).1 =
        .error (.database cannotOpen) := by
  refine ⟨rooted_bare, made_escaped, asks_escaped, by decide, ?_⟩
  have asks := asks_escaped
  rw [establish_of_asks (s := { url := "sqlite://my%20data/budget.sqlite?mode=rwc" }) made_escaped
    asks, connect_of_asks asks]
  rfl

end

end Paymaster.Connection
