import EngineHost.Directory
import EngineHost.Proofs.Text.Lines

/-!
# Where targets lead

One component stays, goes up, goes down, comes to a link or cannot be walked; dots can always be
walked. A walk is made of such steps and ends early at the first component that cannot be walked, or
at one link too many. A text leads where its walk ends, unless it cannot be a path at all, and a
number leads to the directory that is open under it. Nothing else leads anywhere.

So every directory of the tree is reached from everywhere, by the names that lead to it from the
root.

Main facts: `step_eq_iff`, `walk_eq_iff`, `openedDirectory_eq_iff`, `follow_eq_iff`,
`follow_absolute`.
-/

namespace EngineHost

namespace FileNode

variable {tree : FileNode} {names : List String} {entries : List (String × FileNode)}

theorem follow?_append (tree : FileNode) (names more : List String) :
    tree.follow? (names ++ more) = (tree.follow? names).bind (·.follow? more) := by
  induction names generalizing tree with
  | nil => rfl
  | cons name names ih => simp only [List.cons_append, follow?, Option.bind_assoc, ih]

/-- Names lead to a directory from directories only. -/
theorem exists_eq_directory (h : tree.follow? names = some (.directory entries)) :
    ∃ entries', tree = .directory entries' := by
  cases tree with
  | directory entries' => exact ⟨entries', rfl⟩
  | file | link path => cases names <;> simp [follow?, child?] at h

theorem exists_directory_of_append {more : List String}
    (h : tree.follow? (names ++ more) = some (.directory entries)) :
    ∃ entries', tree.follow? names = some (.directory entries') := by
  rw [follow?_append] at h
  obtain ⟨node, hnode, hmore⟩ := Option.bind_eq_some_iff.mp h
  obtain ⟨entries', rfl⟩ := exists_eq_directory hmore
  exact ⟨entries', hnode⟩

end FileNode

namespace WorkingDirectory

/-- The component is neither empty nor made of one or two dots. -/
def IsName (component : String) : Prop :=
  component ≠ "" ∧ component ≠ "." ∧ component ≠ ".."

/-- Where one component leads from a directory, or why it cannot be walked. -/
inductive Steps (tree : FileNode) (d : WorkingDirectory) :
    String → Except SystemError Passage → Prop
  | stay {component : String} (h : component = "" ∨ component = ".") :
      Steps tree d component (.ok (.directory d))
  | up : Steps tree d ".." (.ok (.directory d.parent))
  | tooLong {name : String} (hname : IsName name) (h : maxComponentBytes < name.utf8ByteSize) :
      Steps tree d name (.error .nameTooLong)
  | missing {name : String} (hname : IsName name) (hsize : name.utf8ByteSize ≤ maxComponentBytes)
      (h : tree.follow? (d.child name).names = none) : Steps tree d name (.error .notFound)
  | file {name : String} (hname : IsName name) (hsize : name.utf8ByteSize ≤ maxComponentBytes)
      (h : tree.follow? (d.child name).names = some .file) :
      Steps tree d name (.error .notDirectory)
  | down {name : String} {entries : List (String × FileNode)} (hname : IsName name)
      (hsize : name.utf8ByteSize ≤ maxComponentBytes)
      (h : tree.follow? (d.child name).names = some (.directory entries)) :
      Steps tree d name (.ok (.directory (d.child name)))
  | link {name path : String} (hname : IsName name)
      (hsize : name.utf8ByteSize ≤ maxComponentBytes)
      (h : tree.follow? (d.child name).names = some (.link path)) :
      Steps tree d name (.ok (.link path))

variable {tree : FileNode} {files : FileSystem} {d d' : WorkingDirectory}
  {component name path : String} {rest : List String} {links : Nat}

theorem step_eq_enter (h : IsName name) : d.step tree name = d.enter tree name := by
  obtain ⟨hempty, hdot, hdots⟩ := h
  simp [step, hempty, hdot, hdots]

theorem steps_enter (hname : IsName name) : Steps tree d name (d.enter tree name) := by
  unfold enter
  split
  next hlong => exact .tooLong hname hlong
  next hsize =>
    have hsize := Nat.not_lt.mp hsize
    split
    next hentry => exact .missing hname hsize hentry
    next hentry => exact .file hname hsize hentry
    next hentry => exact .down hname hsize hentry
    next hentry => exact .link hname hsize hentry

theorem steps_step (tree : FileNode) (d : WorkingDirectory) (component : String) :
    Steps tree d component (d.step tree component) := by
  by_cases hstay : component = "" ∨ component = "."
  · have hstep : d.step tree component = .ok (.directory d) := by simp [step, hstay]
    rw [hstep]
    exact .stay hstay
  by_cases hup : component = ".."
  · subst hup
    exact .up
  · have hname : IsName component := ⟨mt .inl hstay, mt .inr hstay, hup⟩
    rw [step_eq_enter hname]
    exact steps_enter hname

theorem step_eq_iff {r : Except SystemError Passage} :
    d.step tree component = r ↔ Steps tree d component r := by
  constructor
  · rintro rfl
    exact steps_step tree d component
  · intro h
    cases h with
    | stay hstay => simp [step, hstay]
    | up => rfl
    | tooLong hname hlong => rw [step_eq_enter hname, enter, if_pos hlong]
    | missing hname hsize hentry | file hname hsize hentry | down hname hsize hentry
    | link hname hsize hentry =>
      rw [step_eq_enter hname, enter, if_neg (Nat.not_lt.mpr hsize), hentry]

/-! ## Walks -/

/-- Where a walk along components leads that may take so many links, or why it ends early. -/
inductive Walks (tree : FileNode) :
    Nat → WorkingDirectory → List String → Except SystemError WorkingDirectory → Prop
  | done {links : Nat} {d : WorkingDirectory} : Walks tree links d [] (.ok d)
  | on {links : Nat} {d d' : WorkingDirectory} {component : String} {rest : List String}
      {r : Except SystemError WorkingDirectory}
      (hstep : Steps tree d component (.ok (.directory d'))) (h : Walks tree links d' rest r) :
      Walks tree links d (component :: rest) r
  | along {links : Nat} {d : WorkingDirectory} {name path : String} {rest : List String}
      {r : Except SystemError WorkingDirectory} (hstep : Steps tree d name (.ok (.link path)))
      (h : Walks tree links (d.base path) (components path ++ rest) r) :
      Walks tree (links + 1) d (name :: rest) r
  | tooManyLinks {d : WorkingDirectory} {name path : String} {rest : List String}
      (hstep : Steps tree d name (.ok (.link path))) :
      Walks tree 0 d (name :: rest) (.error .tooManyLinks)
  | blocked {links : Nat} {d : WorkingDirectory} {name : String} {rest : List String}
      {e : SystemError} (hstep : Steps tree d name (.error e)) :
      Walks tree links d (name :: rest) (.error e)

theorem walk_nil : walk tree links d [] = .ok d := by
  cases links <;> rfl

theorem walk_of_step_directory (h : d.step tree component = .ok (.directory d')) :
    walk tree links d (component :: rest) = walk tree links d' rest := by
  cases links <;> simp only [walk, walkWith, h]

theorem walk_of_step_error {e : SystemError} (h : d.step tree component = .error e) :
    walk tree links d (component :: rest) = .error e := by
  cases links <;> simp only [walk, walkWith, h]

theorem walk_succ_of_step_link (h : d.step tree component = .ok (.link path)) :
    walk tree (links + 1) d (component :: rest) =
      walk tree links (d.base path) (components path ++ rest) := by
  simp only [walk, walkWith, h]

theorem walk_zero_of_step_link (h : d.step tree component = .ok (.link path)) :
    walk tree 0 d (component :: rest) = .error .tooManyLinks := by
  simp only [walk, walkWith, h]

-- The induction is on the links that may be taken, and for each number of them on the components,
-- as a link is replaced by a path that may be longer.
theorem walks_walk (tree : FileNode) (links : Nat) (d : WorkingDirectory) (names : List String) :
    Walks tree links d names (walk tree links d names) := by
  induction links using Nat.strongRecOn generalizing d names with
  | ind links ihlinks =>
    induction names generalizing d with
    | nil =>
      rw [walk_nil]
      exact .done
    | cons component rest ih =>
      have hsteps := steps_step tree d component
      cases hstep : d.step tree component with
      | error e =>
        rw [hstep] at hsteps
        rw [walk_of_step_error hstep]
        exact .blocked hsteps
      | ok passage =>
        rw [hstep] at hsteps
        cases passage with
        | directory d' =>
          rw [walk_of_step_directory hstep]
          exact .on hsteps (ih d')
        | link path =>
          cases links with
          | zero =>
            rw [walk_zero_of_step_link hstep]
            exact .tooManyLinks hsteps
          | succ links =>
            rw [walk_succ_of_step_link hstep]
            exact .along hsteps (ihlinks links (Nat.lt_succ_self links) _ _)

theorem walk_eq_iff {names : List String} {r : Except SystemError WorkingDirectory} :
    walk tree links d names = r ↔ Walks tree links d names r := by
  constructor
  · rintro rfl
    exact walks_walk tree links d names
  · intro h
    induction h with
    | done => exact walk_nil
    | on hstep _ ih => rw [walk_of_step_directory (step_eq_iff.mpr hstep), ih]
    | along hstep _ ih => rw [walk_succ_of_step_link (step_eq_iff.mpr hstep), ih]
    | tooManyLinks hstep => exact walk_zero_of_step_link (step_eq_iff.mpr hstep)
    | blocked hstep => exact walk_of_step_error (step_eq_iff.mpr hstep)

/-! ## Numbers of open files -/

/-- The directory that is open under a number, or why there is none. -/
inductive Opens (files : FileSystem) : Int → Except SystemError WorkingDirectory → Prop
  | noFile : Opens files (-1) (.error .badAddress)
  | closed {n : Int} (hne : n ≠ -1) (h : files.opened? n = none) :
      Opens files n (.error .badDescriptor)
  | other {n : Int} (hne : n ≠ -1) (h : files.opened? n = some .other) :
      Opens files n (.error .notDirectory)
  | directory {n : Int} {d : WorkingDirectory} (hne : n ≠ -1)
      (h : files.opened? n = some (.directory d)) : Opens files n (.ok d)

theorem opens_openedDirectory (files : FileSystem) (n : Int) :
    Opens files n (openedDirectory files n) := by
  unfold openedDirectory
  split
  next hnone =>
    subst hnone
    exact .noFile
  next hne =>
    split
    next hopened => exact .closed hne hopened
    next hopened => exact .other hne hopened
    next hopened => exact .directory hne hopened

theorem openedDirectory_eq_iff {n : Int} {r : Except SystemError WorkingDirectory} :
    openedDirectory files n = r ↔ Opens files n r := by
  constructor
  · rintro rfl
    exact opens_openedDirectory files n
  · intro h
    cases h with
    | noFile => rfl
    | closed hne hopened | other hne hopened | directory hne hopened =>
      rw [openedDirectory, if_neg hne, hopened]

/-! ## Targets -/

/-- The value is the number of an open file. -/
inductive IsNumber : Value → Int → Prop
  | int (n : Int) : IsNumber (.int n) n
  | bool (b : Bool) : IsNumber (.bool b) (if b then 1 else 0)

/-- Where a value leads, or why it leads to no directory. -/
inductive Leads (files : FileSystem) (d : WorkingDirectory) :
    Value → Except DirectoryError WorkingDirectory → Prop
  | nullCharacter {path : String} (h : '\x00' ∈ path.toList) :
      Leads files d (.text path) (.error .nullCharacter)
  | empty : Leads files d (.text "") (.error (.system .notFound (.text "")))
  | tooLong {path : String} (hnull : '\x00' ∉ path.toList)
      (h : pathByteLimit ≤ path.utf8ByteSize) :
      Leads files d (.text path) (.error (.system .nameTooLong (.text path)))
  | obstructed {path : String} {e : SystemError} (hnull : '\x00' ∉ path.toList) (hne : path ≠ "")
      (hsize : path.utf8ByteSize < pathByteLimit)
      (h : Walks files.tree maxLinks (d.base path) (components path) (.error e)) :
      Leads files d (.text path) (.error (.system e (.text path)))
  | path {path : String} {d' : WorkingDirectory} (hnull : '\x00' ∉ path.toList) (hne : path ≠ "")
      (hsize : path.utf8ByteSize < pathByteLimit)
      (h : Walks files.tree maxLinks (d.base path) (components path) (.ok d')) :
      Leads files d (.text path) (.ok d')
  | tooGreat {v : Value} {n : Int} (hv : IsNumber v n) (h : maxDescriptor < n) :
      Leads files d v (.error .descriptorTooGreat)
  | tooSmall {v : Value} {n : Int} (hv : IsNumber v n) (h : n < -maxDescriptor - 1) :
      Leads files d v (.error .descriptorTooSmall)
  | unopened {v : Value} {n : Int} {e : SystemError} (hv : IsNumber v n)
      (hleast : -maxDescriptor - 1 ≤ n) (hmost : n ≤ maxDescriptor) (h : Opens files n (.error e)) :
      Leads files d v (.error (.system e v))
  | opened {v : Value} {n : Int} {d' : WorkingDirectory} (hv : IsNumber v n)
      (hleast : -maxDescriptor - 1 ≤ n) (hmost : n ≤ maxDescriptor) (h : Opens files n (.ok d')) :
      Leads files d v (.ok d')
  | notPath {v : Value} (htext : v.text? = none) (hnumber : ∀ n, ¬ IsNumber v n) :
      Leads files d v (.error (.notPath v.kindName))

theorem follow_text (hnull : '\x00' ∉ path.toList) (hne : path ≠ "")
    (hsize : path.utf8ByteSize < pathByteLimit) :
    d.follow files (.text path) =
      (walk files.tree maxLinks (d.base path) (components path)).mapError
        (.system · (.text path)) := by
  rw [follow, if_neg (mt List.contains_iff_mem.mp hnull), followText,
    if_neg (mt String.isEmpty_iff.mp hne), if_neg (Nat.not_le.mpr hsize)]

theorem follow_longText (hnull : '\x00' ∉ path.toList) (h : pathByteLimit ≤ path.utf8ByteSize) :
    d.follow files (.text path) = .error (.system .nameTooLong (.text path)) := by
  have hne : path ≠ "" := by
    rintro rfl
    contradiction
  rw [follow, if_neg (mt List.contains_iff_mem.mp hnull), followText,
    if_neg (mt String.isEmpty_iff.mp hne), if_pos h]
  rfl

theorem leads_text (files : FileSystem) (d : WorkingDirectory) (path : String) :
    Leads files d (.text path) (d.follow files (.text path)) := by
  by_cases hnull : '\x00' ∈ path.toList
  · rw [follow, if_pos (List.contains_iff_mem.mpr hnull)]
    exact .nullCharacter hnull
  by_cases hne : path = ""
  · subst hne
    exact .empty
  by_cases hsize : path.utf8ByteSize < pathByteLimit
  · rw [follow_text hnull hne hsize]
    cases hwalk : walk files.tree maxLinks (d.base path) (components path) with
    | error e => exact .obstructed hnull hne hsize (walk_eq_iff.mp hwalk)
    | ok d' => exact .path hnull hne hsize (walk_eq_iff.mp hwalk)
  · have hsize := Nat.not_lt.mp hsize
    rw [follow_longText hnull hsize]
    exact .tooLong hnull hsize

theorem follow_number {v : Value} {n : Int} (h : IsNumber v n) :
    d.follow files v = followNumber files n v := by
  cases h <;> rfl

theorem followNumber_below {v : Value} {n : Int} (h : n < -maxDescriptor - 1) :
    followNumber files n v = .error .descriptorTooSmall := by
  have hmost : ¬ n > maxDescriptor := by
    unfold maxDescriptor at *
    omega
  rw [followNumber, if_neg hmost, if_pos h]

theorem followNumber_inside {v : Value} {n : Int} (hleast : -maxDescriptor - 1 ≤ n)
    (hmost : n ≤ maxDescriptor) :
    followNumber files n v = (openedDirectory files n).mapError (.system · v) := by
  rw [followNumber, if_neg (Int.not_lt.mpr hmost), if_neg (Int.not_lt.mpr hleast)]

theorem leads_number {v : Value} {n : Int} (hv : IsNumber v n) :
    Leads files d v (followNumber files n v) := by
  by_cases hmost : maxDescriptor < n
  · rw [followNumber, if_pos hmost]
    exact .tooGreat hv hmost
  by_cases hleast : n < -maxDescriptor - 1
  · rw [followNumber_below hleast]
    exact .tooSmall hv hleast
  · have hmost := Int.not_lt.mp hmost
    have hleast := Int.not_lt.mp hleast
    rw [followNumber_inside hleast hmost]
    cases hopened : openedDirectory files n with
    | error e => exact .unopened hv hleast hmost (openedDirectory_eq_iff.mp hopened)
    | ok d' => exact .opened hv hleast hmost (openedDirectory_eq_iff.mp hopened)

theorem leads_follow (files : FileSystem) (d : WorkingDirectory) (target : Value) :
    Leads files d target (d.follow files target) := by
  cases target with
  | text path => exact leads_text files d path
  | int n => exact leads_number (.int n)
  | bool b => exact leads_number (.bool b)
  | null | real _ | list _ => exact .notPath rfl nofun

/-- A text leads where its walk ends, if it is a path, a number leads to the directory that is open
under it, and no other kind of value leads anywhere. -/
theorem follow_eq_iff {target : Value} {r : Except DirectoryError WorkingDirectory} :
    d.follow files target = r ↔ Leads files d target r := by
  constructor
  · rintro rfl
    exact leads_follow files d target
  · intro h
    cases h with
    | nullCharacter hnull => rw [follow, if_pos (List.contains_iff_mem.mpr hnull)]
    | empty => rfl
    | tooLong hnull hlong => exact follow_longText hnull hlong
    | obstructed hnull hne hsize hwalks | path hnull hne hsize hwalks =>
      rw [follow_text hnull hne hsize, walk_eq_iff.mpr hwalks]
      rfl
    | tooGreat hv hgreat => rw [follow_number hv, followNumber, if_pos hgreat]
    | tooSmall hv hsmall => rw [follow_number hv, followNumber_below hsmall]
    | unopened hv hleast hmost hopens | opened hv hleast hmost hopens =>
      rw [follow_number hv, followNumber_inside hleast hmost, openedDirectory_eq_iff.mpr hopens]
      rfl
    | notPath htext hnumber =>
      cases target with
      | text path => contradiction
      | int n => exact absurd (.int n) (hnumber n)
      | bool b => exact absurd (.bool b) (hnumber _)
      | null | real _ | list _ => rfl

/-! ## Absolute paths -/

/-- A name that an entry of a directory can have. -/
structure IsEntryName (name : String) : Prop where
  isName : IsName name
  size : name.utf8ByteSize ≤ maxComponentBytes
  noSlash : '/' ∉ name.toList
  noNull : '\x00' ∉ name.toList

/-- A walk along names goes down wherever a directory stands under them. -/
theorem walk_names {names : List String} {entries : List (String × FileNode)}
    (hnames : ∀ name ∈ names, IsEntryName name)
    (h : tree.follow? (d.names ++ names) = some (.directory entries)) :
    walk tree links d names = .ok { names := d.names ++ names } := by
  induction names generalizing d with
  | nil => rw [walk_nil, List.append_nil]
  | cons name rest ih =>
    obtain ⟨hname, hrest⟩ := List.forall_mem_cons.mp hnames
    have hsplit : d.names ++ name :: rest = (d.child name).names ++ rest := by simp [child]
    rw [hsplit] at h ⊢
    obtain ⟨entries', hchild⟩ := FileNode.exists_directory_of_append h
    have hstep : d.step tree name = .ok (.directory (d.child name)) :=
      step_eq_iff.mpr (.down hname.isName hname.size hchild)
    rw [walk_of_step_directory hstep, ih hrest h]

/-- The path from the root along the names. -/
def absolutePath (names : List String) : String := "/" ++ "/".intercalate names

theorem components_absolutePath {names : List String} (hnames : ∀ name ∈ names, IsEntryName name)
    (hne : names ≠ []) : components (absolutePath names) = "" :: names := by
  have hslash : "/".toList = ['/'] := rfl
  have hcut := Text.map_cut_intercalate (fun name hname => (hnames name hname).noSlash) hne
  rw [components, absolutePath, String.toList_append, String.toList_intercalate, hslash,
    List.singleton_append, Text.cut_cons, if_pos (beq_self_eq_true '/'), List.map_cons, hcut]

theorem walk_absolutePath {names : List String} {entries : List (String × FileNode)}
    (hnames : ∀ name ∈ names, IsEntryName name)
    (h : tree.follow? names = some (.directory entries)) :
    walk tree links root (components (absolutePath names)) = .ok { names } := by
  have hstay : root.step tree "" = .ok (.directory root) := rfl
  by_cases hne : names = []
  · subst hne
    have hcomponents : components (absolutePath []) = ["", ""] := rfl
    rw [hcomponents, walk_of_step_directory hstay, walk_of_step_directory hstay, walk_nil, root]
  · rw [components_absolutePath hnames hne, walk_of_step_directory hstay]
    exact walk_names hnames h

theorem null_not_mem_absolutePath {names : List String}
    (hnames : ∀ name ∈ names, IsEntryName name) : '\x00' ∉ (absolutePath names).toList := by
  have hslash : '\x00' ∉ "/".toList := by decide
  have hpieces : ∀ piece ∈ names.map String.toList, '\x00' ∉ piece := by
    intro piece hpiece
    obtain ⟨name, hname, rfl⟩ := List.mem_map.mp hpiece
    exact (hnames name hname).noNull
  rw [absolutePath, String.toList_append, String.toList_intercalate, List.mem_append, not_or]
  exact ⟨hslash, Text.not_mem_intercalate hslash hpieces⟩

/-- Every directory of the tree can be changed to by its path from the root, wherever the process
works. -/
theorem follow_absolute {names : List String} {entries : List (String × FileNode)}
    (hnames : ∀ name ∈ names, IsEntryName name)
    (hsize : (absolutePath names).utf8ByteSize < pathByteLimit)
    (h : files.tree.follow? names = some (.directory entries)) :
    d.follow files (.text (absolutePath names)) = .ok { names } := by
  have hne : absolutePath names ≠ "" := by simp [absolutePath]
  have hbase : d.base (absolutePath names) = root := if_pos (by simp [absolutePath])
  rw [follow_text (null_not_mem_absolutePath hnames) hne hsize, hbase,
    walk_absolutePath hnames h]
  rfl

/-- Two dots stay at the root, and they do not lead back out of a file, along a link or not. -/
example (files : FileSystem) (d : WorkingDirectory) :
    d.follow files (.text "/..") = .ok .root ∧
      home.follow (.holding (.directory [("a.fs", .file), ("b", .link "a.fs")])) (.text "b/..") =
        .error (.system .notDirectory (.text "b/..")) :=
  ⟨rfl, rfl⟩

end WorkingDirectory

end EngineHost
