import IndexSearch.Files.StaticRoot
import IndexSearch.Proofs.Files.Resolution

/-!
# Reading files by their own names

A regular file under the static root is read by the name that leads to it without links and dot
segments, if the system admits the length of its path. These are the files that the system itself
finds at their resolved paths.
-/

namespace IndexSearch

namespace FileSystem

theorem writtenLength_append (path more : Path) :
    writtenLength (path ++ more) = writtenLength path + writtenLength more := by
  rw [writtenLength, List.flatMap_append, List.length_append]
  rfl

theorem fits_of_prefix {path whole : Path} (begins : path <+: whole) (fitting : fits whole = true) :
    fits path = true := by
  obtain ⟨more, rfl⟩ := begins
  rw [fits, decide_eq_true_eq, writtenLength_append] at fitting
  rw [fits, decide_eq_true_eq]
  omega

variable {files : FileSystem} {path names : Path}

theorem Resolved.isDirectory_of_append {name : Text}
    (h : files.Resolved (path ++ name :: names)) : files.isDirectory path = true := by
  refine isDirectory_iff.mpr (h.through path (List.prefix_append _ _) ?_)
  intro heq
  have hlength := congrArg List.length heq
  rw [List.length_append, List.length_cons] at hlength
  omega

/-- On the way to a resolved path stands no link. -/
theorem Resolved.exists_node {name : Text} (h : files.Resolved (path ++ name :: names)) :
    ∃ node, files.node? (path ++ [name]) = some node ∧ ∀ target, node ≠ .link target := by
  cases names with
  | nil =>
    rcases h.stands with hdirectory | ⟨contents, hfile⟩
    · exact ⟨_, hdirectory, fun target heq => by cases heq⟩
    · exact ⟨_, hfile, fun target heq => by cases heq⟩
  | cons next others =>
    have hsplit : path ++ name :: next :: others = (path ++ [name]) ++ next :: others := by simp
    rw [hsplit] at h
    exact ⟨_, isDirectory_iff.mp h.isDirectory_of_append, fun target heq => by cases heq⟩

/-- A walk along the names of a resolved path takes one name after the other, unless it may not. -/
theorem walk_cons_of_resolved {name : Text} (h : files.Resolved (path ++ name :: names))
    (mayPass : Path → Bool) (links : Nat) :
    files.walk mayPass links path (name :: names) =
      if maxName < (Utf8.encode name).length || !mayPass (path ++ [name]) then .error .nameTooLong
      else files.walk mayPass links (path ++ [name]) names := by
  have hentry := h.named name (by simp)
  simp only [isEntryName, Bool.and_eq_true, Bool.not_eq_true', bne_iff_ne] at hentry
  obtain ⟨⟨hhere, habove⟩, _⟩ := hentry
  obtain ⟨node, hnode, hlink⟩ := h.exists_node
  rw [walk, if_pos h.isDirectory_of_append, if_neg (by simp [hhere]), if_neg habove, hnode]
  cases node with
  | directory => rfl
  | file contents => rfl
  | link target => exact absurd rfl (hlink target)

/-- A walk along the names of a resolved path leads there. -/
theorem walk_of_resolved {mayPass : Path → Bool} (links : Nat)
    (h : files.Resolved (path ++ names))
    (short : ∀ name ∈ names, (Utf8.encode name).length ≤ maxName)
    (passes : ∀ above, above <+: path ++ names → mayPass above = true) :
    files.walk mayPass links path names = .ok (path ++ names) := by
  induction names generalizing path with
  | nil => rw [walk, List.append_nil]
  | cons name names ih =>
    have hsplit : path ++ name :: names = (path ++ [name]) ++ names := by simp
    rw [List.forall_mem_cons] at short
    have hpass : (decide (maxName < (Utf8.encode name).length) || !mayPass (path ++ [name])) =
        false := by
      rw [passes (path ++ [name]) (hsplit ▸ List.prefix_append _ _)]
      simpa using short.1
    rw [walk_cons_of_resolved h, if_neg (by simp [hpass])]
    rw [hsplit] at h passes ⊢
    exact ih h short.2 passes

/-- A walk along the names of a resolved path gets no further than a name that is too long. -/
theorem short_of_walk {mayPass : Path → Bool} {links : Nat} {target : Path}
    (h : files.Resolved (path ++ names))
    (walked : files.walk mayPass links path names = .ok target) :
    ∀ name ∈ names, (Utf8.encode name).length ≤ maxName := by
  induction names generalizing path with
  | nil => exact fun _ hname => by cases hname
  | cons name names ih =>
    have hsplit : path ++ name :: names = (path ++ [name]) ++ names := by simp
    rw [walk_cons_of_resolved h] at walked
    rw [hsplit] at h
    split at walked
    · cases walked
    · rename_i hpass
      have hname : (Utf8.encode name).length ≤ maxName := by
        simp only [Bool.or_eq_true, decide_eq_true_eq, not_or, Nat.not_lt] at hpass
        exact hpass.1
      exact List.forall_mem_cons.mpr ⟨hname, ih h walked⟩

def spelled (path : Path) : Text :=
  path.flatMap fun name => '/' :: name

theorem spelled_append (path more : Path) : spelled (path ++ more) = spelled path ++ spelled more :=
  List.flatMap_append

theorem spelled_namesOf (text : Text) : spelled (namesOf text) = '/' :: text := by
  induction text using separated_induction (· == '/') with
  | clear text clear =>
    rw [namesOf, List.splitOnP_eq_singleton clear, spelled, List.flatMap_singleton]
  | cut before separator after clear hslash ih =>
    rw [namesOf, List.splitOnP_append_cons_of_forall_mem clear separator hslash,
      beq_iff_eq.mp hslash]
    exact congrArg (fun rest => '/' :: (before ++ rest)) ih

theorem namesOf_spelled {path : Path} (slashless : ∀ name ∈ path, '/' ∉ name) :
    namesOf (spelled path) = [] :: path := by
  have hnames : ∀ name, '/' ∉ name → namesOf (name ++ spelled path) = name :: path := by
    induction path with
    | nil =>
      intro name hname
      rw [spelled, List.flatMap_nil, List.append_nil]
      exact List.splitOnP_eq_singleton (not_separates_of_slashless hname)
    | cons next path ih =>
      intro name hname
      rw [List.forall_mem_cons] at slashless
      have hsplit := List.splitOnP_append_cons_of_forall_mem (not_separates_of_slashless hname) '/'
        (by decide) (next ++ spelled path)
      exact hsplit.trans (congrArg (name :: ·) (ih slashless.2 next slashless.1))
  exact hnames [] List.not_mem_nil

/-- Without links a walk ends at a path that is no longer than the one where it began with its
names, and is just these if it is as long. -/
theorem walk_linkless {mayPass : Path → Bool} {links : Nat} {target : Path}
    (linkless : ∀ path text, files.node? path ≠ some (.link text))
    (walked : files.walk mayPass links path names = .ok target) :
    (spelled target).length ≤ (spelled path).length + (spelled names).length ∧
      ((spelled target).length = (spelled path).length + (spelled names).length →
        target = path ++ names) := by
  have hcons : ∀ (name : Text) (rest : List Text),
      (spelled (name :: rest)).length = name.length + 1 + (spelled rest).length := by
    intro name rest
    rw [spelled, List.flatMap_cons, List.length_append]
    rfl
  fun_induction walk files mayPass links path names with
  | case1 links path =>
    cases walked
    exact ⟨Nat.le_refl _, fun _ => (List.append_nil _).symm⟩
  | case2 links path name rest directory here ih =>
    obtain ⟨hlength, _⟩ := ih walked
    rw [hcons]
    exact ⟨by omega, fun heq => by omega⟩
  | case3 links path rest directory here ih =>
    obtain ⟨hlength, _⟩ := ih walked
    have hdrop : (spelled path.dropLast).length ≤ (spelled path).length := by
      obtain ⟨last, hlast⟩ := List.dropLast_prefix path
      rw [← congrArg spelled hlast, spelled_append, List.length_append]
      exact Nat.le_add_right _ _
    rw [hcons]
    exact ⟨by omega, fun heq => by omega⟩
  | case4 | case5 | case6 | case9 => cases walked
  | case7 path name rest directory here above passed target found =>
    exact absurd found (linkless _ target)
  | case8 links path name rest directory here above passed node unlinked found ih =>
    obtain ⟨hlength, hsame⟩ := ih walked
    have hstep : (spelled (path ++ [name])).length = (spelled path).length + (name.length + 1) := by
      rw [spelled_append, List.length_append, hcons]
      rfl
    rw [hcons]
    refine ⟨by omega, fun heq => ?_⟩
    rw [hsame (by omega), List.append_assoc]
    rfl

theorem Resolved.slashless (h : files.Resolved path) : ∀ name ∈ path, '/' ∉ name := by
  intro name hname hslash
  have hentry := h.named name hname
  simp [isEntryName, hslash] at hentry

/-- A path that is written down is walked from the root. -/
theorem resolve_spelled {mayPass : Path → Bool} (nonempty : path ≠ [])
    (slashless : ∀ name ∈ path, '/' ∉ name) (clear : hasNul (spelled path) = false) :
    files.resolve mayPass (spelled path) = files.walk mayPass maxLinks [] path := by
  obtain ⟨first, others, rfl⟩ := List.exists_cons_of_ne_nil nonempty
  have hwritten : spelled (first :: others) ≠ [] := List.cons_ne_nil _ _
  have horigin : originOf files.workingDir (spelled (first :: others)) = [] := if_pos rfl
  have hroot : files.isDirectory [] = true := rfl
  have hhere : isHere [] = true := rfl
  rw [resolve, if_neg hwritten, if_neg (by simp [clear]), horigin, namesOf_spelled slashless, walk,
    if_pos hroot, if_pos hhere]

/-- The system finds a regular file with some contents at a path, which is its resolved one. -/
structure HoldsFile (files : FileSystem) (path : Path) (contents : Bytes) : Prop where
  resolves : files.resolve anyLength (spelled path) = .ok path
  file : files.node? path = some (.file contents)

theorem ne_nil_of_file {contents : Bytes} (file : files.node? path = some (.file contents)) :
    path ≠ [] := by
  rintro rfl
  cases file

/-- It finds a file at each resolved path of names that it admits. -/
theorem Resolved.holdsFile {contents : Bytes} (h : files.Resolved path)
    (file : files.node? path = some (.file contents)) (clear : hasNul (spelled path) = false)
    (short : ∀ name ∈ path, (Utf8.encode name).length ≤ maxName) :
    files.HoldsFile path contents := by
  refine ⟨?_, file⟩
  rw [resolve_spelled (ne_nil_of_file file) h.slashless clear]
  change files.walk anyLength maxLinks [] path = .ok ([] ++ path)
  exact walk_of_resolved maxLinks h short fun _ _ => rfl

theorem HoldsFile.clear {contents : Bytes} (h : files.HoldsFile path contents) :
    hasNul (spelled path) = false := by
  have hresolves := h.resolves
  rw [resolve] at hresolves
  split at hresolves
  · cases hresolves
  · split at hresolves
    · cases hresolves
    · rename_i hclear
      simpa using hclear

theorem HoldsFile.short {contents : Bytes} (h : files.HoldsFile path contents) :
    ∀ name ∈ path, (Utf8.encode name).length ≤ maxName := by
  have hresolved := resolve_resolved h.resolves
  have hwalk := h.resolves
  rw [resolve_spelled (ne_nil_of_file h.file) hresolved.slashless h.clear] at hwalk
  refine short_of_walk ?_ hwalk
  exact hresolved

end FileSystem

namespace StaticRoot

open FileSystem

/-- A name is located under the root, by a walk that starts there. -/
theorem locate?_eq_some {root : StaticRoot} {name : Text} {path : Path}
    (h : root.locate? name = some path) :
    root.path <+: path ∧ root.files.walk fits maxLinks root.path
      (namesOf (name.dropWhile (· == '/'))) = .ok path := by
  rw [locate?] at h
  split at h
  · cases h
  · split at h
    · rename_i found hwalk
      split at h
      · rename_i hbegins
        cases h
        exact ⟨List.isPrefixOf_iff_prefix.mp hbegins, hwalk⟩
      · cases h
    · cases h

theorem read?_eq_some {root : StaticRoot} {name : Text} {contents : Bytes}
    (h : root.read? name = some contents) :
    ∃ path, root.locate? name = some path ∧ root.files.node? path = some (.file contents) := by
  rw [read?] at h
  cases hlocate : root.locate? name with
  | none => simp [hlocate] at h
  | some path =>
    refine ⟨path, rfl, ?_⟩
    simp only [hlocate, Option.bind_eq_bind, Option.bind_some] at h
    split at h
    · rename_i held hnode
      cases h
      exact hnode
    · cases h

/-- Nothing is read from a file system that holds nothing. -/
theorem read?_of_empty (path : Path) (name : Text) :
    (⟨.ofEntries [] [], path⟩ : StaticRoot).read? name = none := by
  rw [Option.eq_none_iff_forall_ne_some]
  intro contents hread
  obtain ⟨found, _, hnode⟩ := read?_eq_some hread
  cases found with
  | nil => cases hnode
  | cons name names => cases hnode

/-- A regular file with some contents stands under the root at a name, which is its path from
there, and the system admits the lengths of the name's parts and of the whole path. -/
structure Stores (root : StaticRoot) (name : Text) (contents : Bytes) : Prop where
  resolved : root.files.Resolved (root.path ++ namesOf name)
  file : root.files.node? (root.path ++ namesOf name) = some (.file contents)
  clear : hasNul name = false
  short : ∀ part ∈ namesOf name, (Utf8.encode part).length ≤ maxName
  fitting : fits (root.path ++ namesOf name) = true

/-- A name whose parts can stand in directories begins with no slash. -/
theorem dropWhile_slash_of_named {name : Text}
    (named : ∀ part ∈ namesOf name, isEntryName part = true) :
    name.dropWhile (· == '/') = name := by
  cases name with
  | nil => rfl
  | cons c rest =>
    by_cases hslash : c = '/'
    · subst hslash
      have hfirst : [] ∈ namesOf ('/' :: rest) := by
        rw [namesOf, List.splitOnP_cons_eq_if_modifyHead]
        exact List.mem_cons_self
      exact absurd (named [] hfirst) (by decide)
    · rw [List.dropWhile_cons_of_neg (by simpa using hslash)]

theorem Stores.named {root : StaticRoot} {name : Text} {contents : Bytes}
    (h : root.Stores name contents) : ∀ part ∈ namesOf name, isEntryName part = true :=
  fun part hpart => h.resolved.named part (List.mem_append_right _ hpart)

/-- A file that the system finds under the root is stored there, if its path fits. -/
theorem stores_of_holdsFile {root : StaticRoot} {name : Text} {contents : Bytes}
    (held : root.files.HoldsFile (root.path ++ namesOf name) contents)
    (fitting : fits (root.path ++ namesOf name) = true) : root.Stores name contents where
  resolved := resolve_resolved held.resolves
  file := held.file
  clear := by
    have hwritten : spelled (root.path ++ namesOf name) = spelled root.path ++ '/' :: name := by
      rw [spelled_append, spelled_namesOf]
    have hclear := held.clear
    rw [hwritten, hasNul, List.contains_eq_mem, decide_eq_false_iff_not] at hclear
    rw [hasNul, List.contains_eq_mem, decide_eq_false_iff_not]
    exact fun hmem => hclear (List.mem_append_right _ (List.mem_cons_of_mem _ hmem))
  short := fun part hpart => held.short part (List.mem_append_right _ hpart)
  fitting := fitting

theorem read?_of_stores {root : StaticRoot} {name : Text} {contents : Bytes}
    (h : root.Stores name contents) : root.read? name = some contents := by
  have hwalk := walk_of_resolved maxLinks h.resolved h.short
    fun above habove => fits_of_prefix habove h.fitting
  have hlocate : root.locate? name = some (root.path ++ namesOf name) := by
    rw [locate?, if_neg (by simp [h.clear]), dropWhile_slash_of_named h.named, hwalk]
    exact if_pos (List.isPrefixOf_iff_prefix.mpr (List.prefix_append _ _))
  rw [read?, hlocate]
  simp only [Option.bind_eq_bind, Option.bind_some, h.file]

end StaticRoot

end IndexSearch
