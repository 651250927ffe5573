import IndexSearch.Files.StaticRoot
import IndexSearch.Proofs.Text.Pieces
import Mathlib.Data.List.Infix

/-!
# Resolved paths

A walk that starts at a resolved path ends at one, whatever names it is given and however links
lead it on: no name of the path is a dot segment, every path on the way is a directory, and no link
stands at the end. Which path this is depends on directories and links only, not on the contents of
files.
-/

namespace IndexSearch

namespace FileSystem

/-- A path that is spelled as the file system itself spells it, and at which something stands. -/
structure Resolved (files : FileSystem) (path : Path) : Prop where
  named : ∀ name ∈ path, isEntryName name = true
  through : ∀ above, above <+: path → above ≠ path → files.node? above = some .directory
  stands : files.node? path = some .directory ∨ ∃ contents, files.node? path = some (.file contents)

variable {files : FileSystem} {path : Path}

theorem isDirectory_iff : files.isDirectory path = true ↔ files.node? path = some .directory := by
  simp [isDirectory]

theorem resolved_nil (files : FileSystem) : files.Resolved [] := by
  refine ⟨fun name hname => ?_, fun above habove hproper => ?_, Or.inl rfl⟩
  · cases hname
  · exact False.elim (hproper (List.prefix_nil.mp habove))

theorem resolved_workingDir (files : FileSystem) : files.Resolved files.workingDir := by
  have hchain := files.workingDir_isChain
  simp only [Entries.isChain, Bool.and_eq_true, List.all_eq_true, List.mem_range,
    beq_iff_eq] at hchain
  obtain ⟨hnamed, hchain⟩ := hchain
  have hdirectory : ∀ above, above <+: files.workingDir → files.node? above = some .directory := by
    intro above habove
    have hlength := habove.length_le
    rw [List.prefix_iff_eq_take.mp habove]
    exact hchain above.length (by omega)
  exact ⟨hnamed, fun above habove _ => hdirectory above habove,
    Or.inl (hdirectory _ (List.prefix_refl _))⟩

theorem resolved_originOf {relativeTo : Path} (h : files.Resolved relativeTo) (target : Text) :
    files.Resolved (originOf relativeTo target) := by
  rw [originOf]
  split
  · exact resolved_nil files
  · exact h

/-- The directory that holds a resolved path is resolved; that of the root is the root. -/
theorem Resolved.dropLast (h : files.Resolved path) : files.Resolved path.dropLast := by
  by_cases hnil : path = []
  · subst hnil
    exact resolved_nil files
  · have hne : path.dropLast ≠ path := by
      intro heq
      have hlength := congrArg List.length heq
      have hpositive := List.length_pos_iff.mpr hnil
      rw [List.length_dropLast] at hlength
      omega
    refine ⟨fun name hname => h.named name (List.dropLast_subset path hname), ?_,
      Or.inl (h.through _ (List.dropLast_prefix path) hne)⟩
    intro above habove hproper
    refine h.through above (habove.trans (List.dropLast_prefix path)) ?_
    rintro rfl
    exact hproper (habove.eq_of_length_le (List.dropLast_prefix above).length_le)

/-- What stands under a name in a resolved directory, unless it is a link, has a resolved path. -/
theorem Resolved.append (h : files.Resolved path) (directory : files.isDirectory path = true)
    {name : Text} (entry : isEntryName name = true) {node : Node}
    (found : files.node? (path ++ [name]) = some node) (unlinked : ∀ target, node ≠ .link target) :
    files.Resolved (path ++ [name]) := by
  refine ⟨?_, ?_, ?_⟩
  · intro other hother
    rcases List.mem_append.mp hother with hmem | hmem
    · exact h.named other hmem
    · rwa [List.mem_singleton.mp hmem]
  · intro above habove hproper
    rcases List.prefix_concat_iff.mp habove with heq | hbegins
    · exact False.elim (hproper heq)
    · by_cases heq : above = path
      · rw [heq]
        exact isDirectory_iff.mp directory
      · exact h.through above hbegins heq
  · cases node with
    | directory => exact Or.inl found
    | file contents => exact Or.inr ⟨contents, found⟩
    | link target => exact False.elim (unlinked target rfl)

/-- Separated by slashes, names hold none. -/
theorem not_slash_mem_of_mem_namesOf {text name : Text} (h : name ∈ namesOf text) : '/' ∉ name := by
  intro hslash
  have hclear := clear_of_mem_splitOnP h '/' hslash
  cases hclear

/-- No character of a text without slashes separates names. -/
theorem not_separates_of_slashless {text : Text} (h : '/' ∉ text) :
    ∀ c ∈ text, (c == '/') = false := by
  intro c hc
  rw [beq_eq_false_iff_ne]
  rintro rfl
  exact h hc

/-- A walk from a resolved path ends at a resolved path. -/
theorem walk_resolved {mayPass : Path → Bool} {links : Nat} {names : List Text} {target : Path}
    (h : files.Resolved path) (slashless : ∀ name ∈ names, '/' ∉ name)
    (walked : files.walk mayPass links path names = .ok target) : files.Resolved target := by
  fun_induction walk files mayPass links path names with
  | case1 links path =>
    cases walked
    exact h
  | case2 links path name rest directory here ih =>
    exact ih h (List.forall_mem_of_forall_mem_cons slashless) walked
  | case3 links path rest directory here ih =>
    exact ih h.dropLast (List.forall_mem_of_forall_mem_cons slashless) walked
  | case4 => cases walked
  | case5 => cases walked
  | case6 => cases walked
  | case7 path name rest directory here above passed target found links ih =>
    -- The link is left out of the path: the walk goes on from its directory or from the root.
    refine ih (resolved_originOf h target) ?_ walked
    intro name hname
    rcases List.mem_append.mp hname with hmem | hmem
    · exact not_slash_mem_of_mem_namesOf hmem
    · exact slashless name (List.mem_cons_of_mem _ hmem)
  | case8 links path name rest directory here above passed node unlinked found ih =>
    have hentry : isEntryName name = true := by
      simp [isEntryName, here, above, slashless name List.mem_cons_self]
    exact ih (h.append directory hentry found unlinked)
      (List.forall_mem_of_forall_mem_cons slashless) walked
  | case9 => cases walked

theorem resolve_resolved {mayPass : Path → Bool} {text : Text} {target : Path}
    (h : files.resolve mayPass text = .ok target) : files.Resolved target := by
  unfold resolve at h
  split at h
  · cases h
  · split at h
    · cases h
    · exact walk_resolved (resolved_originOf (resolved_workingDir files) text)
        (fun name hname => not_slash_mem_of_mem_namesOf hname) h

end FileSystem

/-- A node as far as a walk looks at it. -/
def Node.withoutContents : Node → Node
  | .file _ => .file []
  | node => node

namespace FileSystem

variable {files other : FileSystem}

/-- Two file systems with the same directories and links, and files at the same paths. -/
structure SameTree (files other : FileSystem) : Prop where
  workingDir : other.workingDir = files.workingDir
  shape : ∀ path, (other.node? path).map Node.withoutContents =
    (files.node? path).map Node.withoutContents

/-- What stands at a path is the same in both, or a file with other contents. -/
theorem SameTree.node_cases (h : files.SameTree other) (path : Path) :
    other.node? path = files.node? path ∨ ∃ contents changed,
      files.node? path = some (.file contents) ∧ other.node? path = some (.file changed) := by
  have hshape := h.shape path
  rcases hfiles : files.node? path with _ | (_ | _ | _) <;>
    rcases hother : other.node? path with _ | (_ | _ | _) <;>
      simp_all [Node.withoutContents]

theorem SameTree.node_eq (h : files.SameTree other) {path : Path}
    (fileless : ∀ contents, files.node? path ≠ some (.file contents)) :
    other.node? path = files.node? path := by
  rcases h.node_cases path with heq | ⟨contents, _, hfiles, _⟩
  · exact heq
  · exact False.elim (fileless contents hfiles)

theorem SameTree.isDirectory_eq (h : files.SameTree other) (path : Path) :
    other.isDirectory path = files.isDirectory path := by
  rcases h.node_cases path with heq | ⟨_, _, hfiles, hother⟩
  · rw [isDirectory, isDirectory, heq]
  · rw [isDirectory, isDirectory, hfiles, hother]
    rfl

theorem SameTree.walk_eq (h : files.SameTree other) (mayPass : Path → Bool) (links : Nat)
    (path : Path) (names : List Text) :
    other.walk mayPass links path names = files.walk mayPass links path names := by
  fun_induction walk files mayPass links path names with
  | case1 => rw [walk]
  | case2 links path name rest directory here ih =>
    rw [walk, h.isDirectory_eq, if_pos directory, if_pos here, ih]
  | case3 links path rest directory here ih =>
    rw [walk, h.isDirectory_eq, if_pos directory, if_neg here, if_pos rfl, ih]
  | case4 links path name rest directory here above long =>
    rw [walk, h.isDirectory_eq, if_pos directory, if_neg here, if_neg above, if_pos long]
  | case5 links path name rest directory here above passed found =>
    rw [walk, h.isDirectory_eq, if_pos directory, if_neg here, if_neg above, if_neg passed]
    rw [h.node_eq (by simp [found]), found]
  | case6 path name rest directory here above passed target found =>
    rw [walk, h.isDirectory_eq, if_pos directory, if_neg here, if_neg above, if_neg passed]
    rw [h.node_eq (by simp [found]), found]
  | case7 path name rest directory here above passed target found links ih =>
    rw [walk, h.isDirectory_eq, if_pos directory, if_neg here, if_neg above, if_neg passed]
    rw [h.node_eq (by simp [found]), found]
    exact ih
  | case8 links path name rest directory here above passed node unlinked found ih =>
    rw [walk, h.isDirectory_eq, if_pos directory, if_neg here, if_neg above, if_neg passed]
    rcases h.node_cases (path ++ [name]) with heq | ⟨_, _, _, hother⟩
    · rw [heq, found]
      cases node with
      | link target => exact False.elim (unlinked target rfl)
      | directory => exact ih
      | file contents => exact ih
    · rw [hother]
      exact ih
  | case9 links path name rest blocked =>
    rw [walk, h.isDirectory_eq, if_neg blocked]

theorem SameTree.resolve_eq (h : files.SameTree other) (mayPass : Path → Bool) (text : Text) :
    other.resolve mayPass text = files.resolve mayPass text := by
  rw [resolve, resolve, h.workingDir, h.walk_eq]

end FileSystem

end IndexSearch
