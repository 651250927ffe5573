import IndexSearch.Files.CommonTypes
import IndexSearch.Proofs.Files.Reading
import IndexSearch.Proofs.Text.Decimal
import IndexSearch.Proofs.Text.Encoding
import IndexSearch.Site.Answer

/-!
# Pages keep their shape

The characters that markup is made of come from a page's template only. Two pages of one kind that
list equally many results have the same ones in the same order, whatever text was put into them,
and an ampersand is always the start of a reference. Nothing is said here about the other
characters of a page, nor about static files, which are sent as they are.
-/

namespace IndexSearch

namespace Markup

/-- The characters that begin and end tags and attribute values. -/
def isMark (c : Char) : Bool :=
  c == '<' || c == '>' || c == '"' || c == '\''

def marks (page : Text) : Text :=
  page.filter isMark

def references : List Text :=
  ["&amp;".toList, "&lt;".toList, "&gt;".toList, "&quot;".toList, "&apos;".toList]

/-- Every ampersand of a page begins a reference. -/
def OnlyRefers (page : Text) : Prop :=
  ∀ after, '&' :: after <:+ page → ∃ reference ∈ references, reference <+: '&' :: after

theorem marks_append (page other : Text) : marks (page ++ other) = marks page ++ marks other :=
  List.filter_append page other

theorem onlyRefers_of_not_mem {page : Text} (h : '&' ∉ page) : OnlyRefers page :=
  fun _ hsuffix => False.elim (h (hsuffix.subset List.mem_cons_self))

/-- What stands before a text does not change what its ampersands begin, and what stands after it
leaves the references in it whole. -/
theorem OnlyRefers.append {page other : Text} (hpage : OnlyRefers page)
    (hother : OnlyRefers other) : OnlyRefers (page ++ other) := by
  rintro after ⟨before, hsplit⟩
  rcases List.append_eq_append_iff.mp hsplit with ⟨between, rfl, hrest⟩ | ⟨between, rfl, hrest⟩
  · cases between with
    | nil => exact hother after ⟨[], hrest⟩
    | cons c between =>
      obtain ⟨rfl, rfl⟩ := List.cons.inj hrest
      obtain ⟨reference, hmem, hprefix⟩ := hpage between ⟨before, rfl⟩
      exact ⟨reference, hmem, hprefix.trans (List.prefix_append ('&' :: between) other)⟩
  · exact hother after ⟨between, hrest.symm⟩

theorem onlyRefers_reference {reference : Text} (h : reference ∈ references) :
    OnlyRefers reference := by
  have hshape : ∀ other ∈ references, ∃ name, other = '&' :: name ∧ '&' ∉ name := by
    simp only [references, List.forall_mem_cons]
    refine ⟨⟨_, rfl, by decide⟩, ⟨_, rfl, by decide⟩, ⟨_, rfl, by decide⟩, ⟨_, rfl, by decide⟩,
      ⟨_, rfl, by decide⟩, fun _ hnone => by cases hnone⟩
  obtain ⟨name, rfl, hname⟩ := hshape reference h
  intro after hsuffix
  rcases List.suffix_cons_iff.mp hsuffix with heq | hinner
  · exact ⟨_, h, heq ▸ List.prefix_refl _⟩
  · exact onlyRefers_of_not_mem hname after hinner

/-- A character is written as a reference, or it is neither a mark nor an ampersand. -/
theorem escapeChar_cases (c : Char) :
    escapeChar c ∈ references ∨ escapeChar c = [c] ∧ c ≠ '&' ∧ isMark c = false := by
  unfold escapeChar
  split
  · exact Or.inl (by decide)
  · exact Or.inl (by decide)
  · exact Or.inl (by decide)
  · exact Or.inl (by decide)
  · exact Or.inl (by decide)
  · rename_i hamp hlt hgt hquot hapos
    refine Or.inr ⟨rfl, hamp, ?_⟩
    simp only [isMark, Bool.or_eq_false_iff, beq_eq_false_iff_ne]
    exact ⟨⟨⟨hlt, hgt⟩, hquot⟩, hapos⟩

theorem marks_escapeChar (c : Char) : marks (escapeChar c) = [] := by
  rcases escapeChar_cases c with hreference | ⟨hplain, _, hmark⟩
  · have hnone : ∀ reference ∈ references, marks reference = [] := by decide
    exact hnone _ hreference
  · simp [hplain, marks, hmark]

theorem onlyRefers_escapeChar (c : Char) : OnlyRefers (escapeChar c) := by
  rcases escapeChar_cases c with hreference | ⟨hplain, hamp, _⟩
  · exact onlyRefers_reference hreference
  · rw [hplain]
    exact onlyRefers_of_not_mem fun hmem => hamp (List.mem_singleton.mp hmem).symm

theorem marks_escape (text : Text) : marks (escape text) = [] := by
  induction text with
  | nil => rfl
  | cons c text ih =>
    rw [escape, List.flatMap_cons, marks_append, marks_escapeChar, List.nil_append]
    exact ih

/-- Escaped text has no ampersands but those of references. -/
theorem onlyRefers_escape (text : Text) : OnlyRefers (escape text) := by
  induction text with
  | nil => exact onlyRefers_of_not_mem List.not_mem_nil
  | cons c text ih => exact (onlyRefers_escapeChar c).append ih

/-- What is read where a page has some text: references stand for their characters. -/
def unescape : Text → Text
  | [] => []
  | '&' :: 'a' :: 'm' :: 'p' :: ';' :: rest => '&' :: unescape rest
  | '&' :: 'l' :: 't' :: ';' :: rest => '<' :: unescape rest
  | '&' :: 'g' :: 't' :: ';' :: rest => '>' :: unescape rest
  | '&' :: 'q' :: 'u' :: 'o' :: 't' :: ';' :: rest => '"' :: unescape rest
  | '&' :: 'a' :: 'p' :: 'o' :: 's' :: ';' :: rest => '\'' :: unescape rest
  | c :: rest => c :: unescape rest

theorem unescape_cons_of_ne {c : Char} (h : c ≠ '&') (rest : Text) :
    unescape (c :: rest) = c :: unescape rest := by
  rw [unescape] <;> exact fun _ heq _ => h heq

theorem unescape_escapeChar_append (c : Char) (rest : Text) :
    unescape (escapeChar c ++ rest) = c :: unescape rest := by
  unfold escapeChar
  split
  · rfl
  · rfl
  · rfl
  · rfl
  · rfl
  · rename_i hamp _ _ _ _
    exact unescape_cons_of_ne hamp rest

/-- Escaped text is read as it was. -/
theorem unescape_escape (text : Text) : unescape (escape text) = text := by
  induction text with
  | nil => rfl
  | cons c text ih =>
    rw [escape, List.flatMap_cons, unescape_escapeChar_append]
    exact congrArg (c :: ·) ih

theorem marks_render (n : Nat) : marks (Numeral.render n) = [] := by
  rw [marks, List.filter_eq_nil_iff]
  intro c hc hmark
  have hdigit := Numeral.isDigit_of_mem_render hc
  simp only [isMark, Bool.or_eq_true, beq_iff_eq] at hmark
  rcases hmark with ((rfl | rfl) | rfl) | rfl <;> revert hdigit <;> decide

theorem onlyRefers_render (n : Nat) : OnlyRefers (Numeral.render n) :=
  onlyRefers_of_not_mem (Numeral.not_mem_render n (by decide))

end Markup

/-- The kinds of pages that a site generates: that of a missing file, the search page, and the
search page with a number of results. -/
inductive PageKind where
  | missing
  | landing
  | results (count : Nat)
deriving DecidableEq, Repr

/-- The page of a kind into which no text was put. -/
def PageKind.skeleton : PageKind → Text
  | .missing => Page.missing []
  | .landing => Page.search none
  | .results count => Page.search (some ⟨[], List.replicate count ⟨[], [], 0⟩⟩)

namespace Page

open Markup

theorem marks_missing (name : Text) : marks (missing name) = marks (missing []) := by
  unfold missing
  simp only [marks_append, marks_escape]

theorem onlyRefers_missing (name : Text) : OnlyRefers (missing name) := by
  unfold missing
  exact ((onlyRefers_of_not_mem (by decide)).append (onlyRefers_escape name)).append
    (onlyRefers_of_not_mem (by decide))

theorem marks_item (link other : Link) : marks (item link) = marks (item other) := by
  unfold item
  simp only [marks_append, marks_escape, marks_render]

theorem onlyRefers_item (link : Link) : OnlyRefers (item link) := by
  unfold item
  exact ((((((onlyRefers_of_not_mem (by decide)).append (onlyRefers_escape _)).append
    (onlyRefers_of_not_mem (by decide))).append (onlyRefers_escape _)).append
      (onlyRefers_of_not_mem (by decide))).append (onlyRefers_render _)).append
        (onlyRefers_of_not_mem (by decide))

/-- The items of a list of results have the marks of as many empty items. -/
theorem marks_items (links : List Link) (other : Link) :
    marks (links.flatMap item) = marks ((List.replicate links.length other).flatMap item) := by
  induction links with
  | nil => rfl
  | cons link links ih =>
    rw [List.length_cons, List.replicate_succ, List.flatMap_cons, List.flatMap_cons, marks_append,
      marks_append, ih, marks_item link other]

theorem onlyRefers_items (links : List Link) : OnlyRefers (links.flatMap item) := by
  induction links with
  | nil => exact onlyRefers_of_not_mem List.not_mem_nil
  | cons link links ih => exact (onlyRefers_item link).append ih

theorem onlyRefers_summary (count : Nat) (terms : Text) : OnlyRefers (summary count terms) := by
  unfold summary
  refine ((((onlyRefers_of_not_mem (by decide)).append (onlyRefers_render count)).append ?_).append
    (onlyRefers_escape terms)).append (onlyRefers_of_not_mem (by decide))
  split <;> exact onlyRefers_of_not_mem (by decide)

theorem marks_notice (terms other : Text) : marks (notice terms) = marks (notice other) := by
  unfold notice
  simp only [marks_append, marks_escape]

theorem marks_summary (count : Nat) (terms other : Text) :
    marks (summary count terms) = marks (summary count other) := by
  unfold summary
  simp only [marks_append, marks_escape]

/-- The marks below the form depend on the number of results only. -/
theorem marks_results (found : Results) : marks (results found) =
    marks (results ⟨[], List.replicate found.links.length ⟨[], [], 0⟩⟩) := by
  by_cases hnone : found.links = []
  · have hempty : found.links.isEmpty = true := List.isEmpty_iff.mpr hnone
    rw [results, if_pos hempty, marks_notice _ []]
    rw [results, hnone]
    rfl
  · have hfound : ¬ found.links.isEmpty = true := fun h => hnone (List.isEmpty_iff.mp h)
    have hlinks : ¬ (List.replicate found.links.length (⟨[], [], 0⟩ : Link)).isEmpty = true := by
      simpa using hnone
    rw [results, results, if_neg hfound, if_neg hlinks]
    simp only [marks_append, List.length_replicate]
    rw [marks_summary _ _ [], marks_items _ ⟨[], [], 0⟩]

theorem onlyRefers_notice (terms : Text) : OnlyRefers (notice terms) := by
  unfold notice
  exact ((onlyRefers_of_not_mem (by decide)).append (onlyRefers_escape terms)).append
    (onlyRefers_of_not_mem (by decide))

theorem onlyRefers_results (found : Results) : OnlyRefers (results found) := by
  unfold results
  split
  · exact onlyRefers_notice _
  · exact (((onlyRefers_summary _ _).append (onlyRefers_of_not_mem (by decide))).append
      (onlyRefers_items _)).append (onlyRefers_of_not_mem (by decide))

theorem onlyRefers_search (found : Option Results) : OnlyRefers (search found) := by
  have hopening : '&' ∉ opening := by decide +kernel
  unfold search
  refine ((onlyRefers_of_not_mem hopening).append ?_).append (onlyRefers_of_not_mem (by decide))
  cases found with
  | none => exact onlyRefers_of_not_mem List.not_mem_nil
  | some found => exact onlyRefers_results found

end Page

namespace Site

/-- The kind of page with which a site answers a request, unless it sends a static file. -/
def pageKind (site : Site) (request : Request) : PageKind :=
  if staticPrefix.isPrefixOf request.path then .missing
  else
    match searchText? request.path with
    | none => .landing
    | some text => .results (site.hits text).length

/-- A page that a site generates has the marks of its kind, whatever the request, the documents and
the crawled directory are called, and its ampersands begin references. -/
theorem page_marks (site : Site) (request : Request)
    (generated : staticPrefix.isPrefixOf request.path = false ∨
      (site.answer request).status = .notFound) :
    ∃ page, Utf8.decode? (site.answer request).body = some page ∧
      Markup.marks page = Markup.marks (site.pageKind request).skeleton ∧
      Markup.OnlyRefers page := by
  by_cases hstatic : staticPrefix.isPrefixOf request.path = true
  · have hmissing : (site.answer request).status = .notFound := by
      simpa [hstatic] using generated
    rw [pageKind, if_pos hstatic]
    rw [answer_of_static hstatic, fileResponse] at hmissing ⊢
    cases hread : site.root.read? (staticName request.path) with
    | some contents => simp [hread] at hmissing
    | none => exact ⟨_, Utf8.decode?_encode _, Page.marks_missing _, Page.onlyRefers_missing _⟩
  · rw [pageKind, if_neg hstatic, answer_of_dynamic (Bool.eq_false_iff.mpr hstatic)]
    refine ⟨_, Utf8.decode?_encode _, ?_, Page.onlyRefers_search _⟩
    cases searchText? request.path with
    | none => rfl
    | some text =>
      have hresults := Page.marks_results (site.results text (site.hits text))
      simp only [results, List.length_map] at hresults
      simp only [PageKind.skeleton, Page.search, Option.map_some, Option.getD_some,
        Markup.marks_append, results, hresults]

/-- A site whose only document is named after an attack, in a directory named after another. -/
def hostile : Site where
  root := ⟨.ofEntries [] [], []⟩
  engine := ⟨[.ofShard (Shard.ofEntries {
    terms := [("<b>".toList, [⟨1, 34⟩])]
    docs := [(1, "'&\"><script>".toList)] })], List.cons_ne_nil _ _⟩
  crawlRoot := "'".toList
  mediaType := .byExtension

def hostileSearch : Request :=
  .ofPath "/query?terms=%3CB%3E".toList

def hostileFile : Request :=
  .ofPath "/static/<b>".toList

/-- The search lists one result, and the file is missing. -/
theorem page_marks_hostile :
    (∃ page, Utf8.decode? (hostile.answer hostileSearch).body = some page ∧
        Markup.marks page = Markup.marks (PageKind.results 1).skeleton ∧
        Markup.OnlyRefers page) ∧
      (hostile.answer hostileFile).status = .notFound ∧
      ∃ page, Utf8.decode? (hostile.answer hostileFile).body = some page ∧
        Markup.marks page = Markup.marks PageKind.missing.skeleton ∧ Markup.OnlyRefers page := by
  have hfound : hostile.pageKind hostileSearch = .results 1 := by decide +kernel
  have hmissing : hostile.pageKind hostileFile = .missing := by decide +kernel
  have hname : staticName "/static/<b>".toList = "<b>".toList := by decide +kernel
  have hread : hostile.root.read? "<b>".toList = none := StaticRoot.read?_of_empty _ _
  have hstatus : (hostile.answer hostileFile).status = .notFound := by
    rw [answer_of_static (by decide), fileResponse, hostileFile, Request.ofPath, hname, hread]
  refine ⟨?_, hstatus, ?_⟩
  · rw [← hfound]
    exact page_marks hostile hostileSearch (Or.inl (by decide))
  · rw [← hmissing]
    exact page_marks hostile hostileFile (Or.inr hstatus)

end Site

end IndexSearch
