import IndexSearch.Files.Layout
import IndexSearch.Proofs.Files.Reading
import IndexSearch.Site.Answer
import Mathlib.Data.List.Permutation

/-!
# Confinement to the static root

A static file is served only from under the static root, whatever spelling a request gives its
name, and what stands elsewhere in the file system has no influence on any answer. Here a path is
under another if it begins with all names of it, so that a longer name is a different directory.
-/

namespace IndexSearch

namespace FileSystem

/-- Two file systems with the same tree, and the same contents of all files under a path. -/
structure SameUnder (root : Path) (files other : FileSystem) : Prop
    extends files.SameTree other where
  contents : ∀ path, root <+: path → other.node? path = files.node? path

theorem node?_put_of_ne {files : FileSystem} {path found : Path} (node : Node)
    (h : found ≠ path) : (files.put path node).node? found = files.node? found := by
  rw [put]
  split
  · rfl
  · simp [node?, Entries.node?, h.symm]

/-- Changing the contents of a file elsewhere keeps all that is under a path. -/
theorem sameUnder_put {files : FileSystem} {root path : Path} {contents : Bytes}
    (stands : files.node? path = some (.file contents)) (outside : ¬ root <+: path)
    (changed : Bytes) : files.SameUnder root (files.put path (.file changed)) := by
  refine ⟨⟨?_, ?_⟩, ?_⟩
  · rw [put]
    split <;> rfl
  · intro found
    by_cases h : found = path
    · subst h
      have hnil : found ≠ [] := by
        rintro rfl
        cases stands
      rw [put]
      split
      · rfl
      · rw [stands]
        simp [node?, Entries.node?, hnil, Node.withoutContents]
    · rw [node?_put_of_ne _ h]
  · intro found hbegins
    exact node?_put_of_ne _ fun heq => outside (heq ▸ hbegins)

end FileSystem

namespace StaticRoot

variable {files other : FileSystem} {path : Path}

theorem open?_eq_ok {text : Text} {root : StaticRoot} (h : open? files text = .ok root) :
    root.files = files ∧ files.resolve FileSystem.fits text = .ok root.path := by
  rw [open?] at h
  cases hresolve : files.resolve FileSystem.fits text with
  | error fault => simp [hresolve, bind, Except.bind] at h
  | ok path =>
    simp only [hresolve, bind, Except.bind, Except.ok.injEq] at h
    subst h
    exact ⟨rfl, rfl⟩

/-- Reading under a root finds the same in file systems that differ elsewhere only. -/
theorem read?_eq_of_sameUnder (same : files.SameUnder path other) (name : Text) :
    (⟨other, path⟩ : StaticRoot).read? name = (⟨files, path⟩ : StaticRoot).read? name := by
  have hlocate : (⟨other, path⟩ : StaticRoot).locate? name =
      (⟨files, path⟩ : StaticRoot).locate? name := by
    simp only [locate?, same.walk_eq]
  rw [read?, read?, hlocate]
  cases hfound : (⟨files, path⟩ : StaticRoot).locate? name with
  | none => rfl
  | some found => 
    have := same.contents found (locate?_eq_some hfound).1
    simp [this]

end StaticRoot

namespace Site

/-- A static file is answered with success only if it was read. -/
theorem read?_of_ok {site : Site} {request : Request}
    (static : staticPrefix.isPrefixOf request.path = true)
    (found : (site.answer request).status = .ok) :
    site.root.read? (staticName request.path) = some (site.answer request).body := by
  rw [answer_of_static static] at found ⊢
  rw [fileResponse] at found ⊢
  cases hread : site.root.read? (staticName request.path) with
  | none => simp [hread] at found
  | some contents => rfl

/-- Answers depend on the file system only through what is read under the root. -/
theorem answer_eq_of_read?_eq [MediaType] {root other : StaticRoot}
    (same : other.read? = root.read?) (engine : Engine) (crawlRoot : Text) (request : Request) :
    (⟨other, engine, crawlRoot⟩ : Site).answer request =
      (⟨root, engine, crawlRoot⟩ : Site).answer request := by
  rw [answer, answer, answerBy, answerBy]
  split
  · simp only [fileResponse, same]
  · rfl

/-- A static file that is served is a regular file under the root, both by their resolved paths.
File systems that differ in the contents of files elsewhere give the same answers. -/
theorem answer_confined {files : FileSystem} {text : Text} {root : StaticRoot}
    (opened : StaticRoot.open? files text = .ok root) :
    files.Resolved root.path ∧
      (∀ [MediaType] engine crawlRoot request, staticPrefix.isPrefixOf request.path = true →
        ((⟨root, engine, crawlRoot⟩ : Site).answer request).status = .ok →
          ∃ path, root.locate? (staticName request.path) = some path ∧ root.path <+: path ∧
            files.Resolved path ∧ files.node? path =
              some (.file ((⟨root, engine, crawlRoot⟩ : Site).answer request).body)) ∧
      ∀ other, files.SameUnder root.path other →
        ∃ same, StaticRoot.open? other text = .ok same ∧ same.path = root.path ∧
          ∀ [MediaType] engine crawlRoot request,
            (⟨same, engine, crawlRoot⟩ : Site).answer request =
              (⟨root, engine, crawlRoot⟩ : Site).answer request := by
  obtain ⟨hfiles, hresolve⟩ := StaticRoot.open?_eq_ok opened
  have hroot : files.Resolved root.path := FileSystem.resolve_resolved hresolve
  refine ⟨hroot, ?_, ?_⟩
  · intro _ engine crawlRoot request static found
    obtain ⟨path, hlocate, hnode⟩ := StaticRoot.read?_eq_some (read?_of_ok static found)
    obtain ⟨hbegins, hwalk⟩ := StaticRoot.locate?_eq_some hlocate
    rw [hfiles] at hwalk hnode
    exact ⟨path, hlocate, hbegins, FileSystem.walk_resolved hroot
      (fun name hname => FileSystem.not_slash_mem_of_mem_namesOf hname) hwalk, hnode⟩
  · intro other same
    refine ⟨⟨other, root.path⟩, ?_, rfl, ?_⟩
    · rw [StaticRoot.open?, same.resolve_eq, hresolve]
      rfl
    · intro _ engine crawlRoot request
      refine answer_eq_of_read?_eq ?_ engine crawlRoot request
      funext name
      obtain ⟨held, path⟩ := root
      obtain rfl : held = files := hfiles
      exact StaticRoot.read?_eq_of_sameUnder same name

/-- A root beside a directory whose name begins with that of the root; links lead to both. -/
def neighbours : FileSystem where
  entries := [
    (["static".toList, "in".toList], .link "../static/a".toList),
    (["static".toList, "out".toList], .link "../static-old/b".toList),
    (["static".toList, "a".toList], .file [1]),
    (["static-old".toList, "b".toList], .file [2]),
    (["static-old".toList], .directory),
    (["static".toList], .directory)]
  workingDir := []
  workingDir_isChain := rfl

/-- A name that leaves the root and comes back through a link is served, and a change in the other
directory makes no difference. -/
theorem answer_confined_neighbours :
    ∃ root, StaticRoot.open? neighbours "static".toList = .ok root ∧
      (∃ path, root.locate? "../static/in".toList = some path ∧ root.path <+: path ∧
        neighbours.Resolved path ∧ neighbours.node? path = some (.file [1])) ∧
      ∃ same, StaticRoot.open? (neighbours.put ["static-old".toList, "b".toList] (.file [3]))
          "static".toList = .ok same ∧
        ∀ [MediaType] engine crawlRoot request,
          (⟨same, engine, crawlRoot⟩ : Site).answer request =
            (⟨root, engine, crawlRoot⟩ : Site).answer request := by
  have hopened : StaticRoot.open? neighbours "static".toList =
      .ok ⟨neighbours, ["static".toList]⟩ := by cbv
  have hread : (⟨neighbours, ["static".toList]⟩ : StaticRoot).read? "../static/in".toList =
      some [1] := by cbv
  have hname : staticName "/static/%2e%2e%2fstatic%2fin".toList = "../static/in".toList := by
    decide
  obtain ⟨_, served, kept⟩ := answer_confined hopened
  refine ⟨_, hopened, ?_, ?_⟩
  · let engine : Engine := ⟨[.failing []], List.cons_ne_nil _ _⟩
    let types : MediaType := ⟨fun _ => none⟩
    have hanswer : (⟨⟨neighbours, ["static".toList]⟩, engine, []⟩ : Site).answer
        (.ofPath "/static/%2e%2e%2fstatic%2fin".toList) =
          ⟨.ok, MediaType.ofName "../static/in".toList, [1]⟩ := by
      rw [answer_of_static (by decide), fileResponse, Request.ofPath, hname, hread]
    obtain ⟨path, hlocate, hbegins, hresolved, hnode⟩ :=
      served engine [] (.ofPath "/static/%2e%2e%2fstatic%2fin".toList) (by decide)
        (by rw [hanswer])
    rw [hanswer] at hnode
    rw [Request.ofPath, hname] at hlocate
    exact ⟨path, hlocate, hbegins, hresolved, hnode⟩
  · have hstands : neighbours.node? ["static-old".toList, "b".toList] = some (.file [2]) := by
      decide
    obtain ⟨same, hsame, _, hequal⟩ :=
      kept _ (FileSystem.sameUnder_put hstands (by decide) [3])
    exact ⟨same, hsame, hequal⟩

end Site

end IndexSearch
