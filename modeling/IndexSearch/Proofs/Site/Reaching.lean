import IndexSearch.Proofs.Site.Links
import IndexSearch.Proofs.Url.Spelling

/-!
# Reaching static files

Every regular file under the static root can be asked for: a request whose path spells its name
behind the static prefix is answered with it, whatever characters the name has. Letters, digits and
`-_./` may stand for themselves there; what is spelled so has nothing in it that a reference loses or
reads as something else, and decoded once it is the name again, also where the name itself looks like
a percent form or a dot segment.

The name is the path of the file from the root, without links. A file whose path is too long to be
handed to the system in one piece is left out, and so is whether the server may read it.
-/

namespace IndexSearch

namespace Percent

/-- The characters that may stand for themselves in a name. -/
def isPlain (c : Char) : Bool :=
  c.isAlphanum || ['-', '_', '.', '/'].contains c

theorem ascii_of_isPlain {c : Char} (h : isPlain c = true) : c.toNat < 128 := by
  simp only [isPlain, Bool.or_eq_true, List.contains_eq_mem, List.mem_cons, List.not_mem_nil,
    or_false, decide_eq_true_eq] at h
  rcases h with halnum | rfl | rfl | rfl | rfl
  · exact ascii_of_isAlphanum halnum
  all_goals decide

def nameAlphabet : Alphabet where
  isPlain := isPlain
  read := id
  ascii := ascii_of_isPlain
  signless := by
    intro c h heq
    have hsign : c = '%' := eq_of_byte_eq (ascii_of_isPlain h) (by decide) heq
    rw [hsign] at h
    revert h
    decide
  read_sign := rfl
  read_digit _ := rfl

theorem spells_name (name : Text) :
    nameAlphabet.Spells (Utf8.encode name) (encode (fun c => !isPlain c) name) := by
  refine Alphabet.spells_encode (fun c hc => ⟨?_, rfl⟩) name
  show isPlain c = true
  simpa using hc

theorem decodeText_of_spells {name written : Text}
    (h : nameAlphabet.Spells (Utf8.encode name) written) : decodeText written = name := by
  have hbytes : decode ((Utf8.encode written).map id) = Utf8.encode name := h.decode_map
  rw [List.map_id] at hbytes
  rw [decodeText, hbytes, Utf8.decodeLossy_encode]

section

variable {bytes : Bytes} {written : Text} (spells : nameAlphabet.Spells bytes written)

include spells

/-- No character of a spelled name is lost in a reference, ends its path or is encoded in it. -/
theorem kept_of_spells : ∀ c ∈ written,
    Target.isEdge c = false ∧ Target.endsPath c = false ∧ c ≠ '\\' ∧ inPathSet c = false :=
  spells.forall_mem (by decide +kernel)

/-- A spelled name is the whole path of a reference, -/
theorem pathPart_of_spells : Target.pathPart written = written := by
  have hkept := kept_of_spells spells
  exact Target.pathPart_eq_self_iff.mpr
    ⟨Target.tidy_of_edgeless fun c hc => (hkept c hc).1, fun c hc => (hkept c hc).2.1⟩

/-- and stays there as it is written. -/
theorem encode_slashed_of_spells : encode inPathSet (Target.slashed written) = written := by
  have hkept := kept_of_spells spells
  rw [Target.slashed_eq_self_iff.mpr fun hback => (hkept _ hback).2.2.1 rfl]
  exact encode_of_clear fun c hc => (hkept c hc).2.2.2

end

end Percent

open FileSystem Percent Target

/-- A segment that decodes to a dot segment stands for a name that no directory has. -/
theorem dotless_of_spells {name written : Text}
    (spells : nameAlphabet.Spells (Utf8.encode name) written)
    (named : ∀ part ∈ namesOf name, isEntryName part = true) :
    ∀ segment ∈ written.splitOn '/', isDot segment = false := by
  intro segment hsegment
  rw [Bool.eq_false_iff]
  intro hdot
  have hname : name = ['/'].intercalate ((written.splitOn '/').map decodeText) := by
    rw [← decodeText_intercalate, List.intercalate_splitOn, decodeText_of_spells spells]
  -- Slashes may be spelled too, so only a segment without them is a part of the name for sure.
  have hmem : '/' ∉ decodeText segment → decodeText segment ∈ namesOf name := by
    intro hslash
    rw [hname]
    exact mem_splitOn_intercalate hslash (List.mem_map_of_mem hsegment)
  rcases decodeText_dot hdot with hsingle | hdouble
  · rw [hsingle] at hmem
    exact absurd (named _ (hmem (by decide))) (by decide)
  · rw [hdouble] at hmem
    exact absurd (named _ (hmem (by decide))) (by decide)

/-- A spelling behind the static prefix asks for the name that it spells. -/
theorem staticName_of_spells {name written : Text}
    (spells : nameAlphabet.Spells (Utf8.encode name) written)
    (named : ∀ part ∈ namesOf name, isEntryName part = true) :
    staticName (staticPrefix ++ written) = name := by
  have hwritten : encode inPathSet (slashed (pathPart written)) = written := by
    rw [pathPart_of_spells spells, encode_slashed_of_spells spells]
  have hdotless : ∀ segment ∈ linkedSegments written, isDot segment = false := by
    rw [linkedSegments, hwritten]
    exact dotless_of_spells spells named
  rw [staticName_link_of_dotless hdotless, hwritten, decodeText_of_spells spells]

namespace Site

/-- Every file under the root is reached by any spelling of its name, of which there is one that
writes as a percent form just what is no plain character. It is sent with the media type that its
name tells, and as plain text if the name tells none. -/
theorem file_reachable {site : Site} {name : Text} {contents : Bytes}
    (held : site.root.files.HoldsFile (site.root.path ++ namesOf name) contents)
    (fitting : fits (site.root.path ++ namesOf name) = true) :
    nameAlphabet.Spells (Utf8.encode name) (encode (fun c => !isPlain c) name) ∧
    ∀ written, nameAlphabet.Spells (Utf8.encode name) written →
      ∀ request : Request, request.path = staticPrefix ++ written →
        site.answer request =
          ⟨.ok, (site.mediaType.ofName? name).getD "text/plain".toList, contents⟩ := by
  refine ⟨spells_name name, fun written spells request asked => ?_⟩
  have hstored := StaticRoot.stores_of_holdsFile held fitting
  have hname : staticName (staticPrefix ++ written) = name :=
    staticName_of_spells spells hstored.named
  rw [answer_below asked, hname, fileResponse, StaticRoot.read?_of_stores hstored]
  rfl

theorem holdsFile_holding {name : Text} (storable : Storable name) (contents : Bytes) :
    (holding name contents).root.files.HoldsFile (staticPath name) contents := by
  refine (resolved_holding storable contents).holdsFile ?_ ?_ ?_
  · rw [node?_holding, if_pos rfl]
  · have hclear := storable.clear
    have hdir : '\x00' ∉ spelled [staticDir] := by decide
    have hwritten : spelled (staticPath name) = spelled [staticDir] ++ '/' :: name := by
      rw [← spelled_namesOf, ← spelled_append]
      rfl
    rw [hasNul, List.contains_eq_mem, decide_eq_false_iff_not] at hclear ⊢
    rw [hwritten, List.mem_append, List.mem_cons, not_or, not_or]
    exact ⟨hdir, by decide, hclear⟩
  · exact List.forall_mem_cons.mpr ⟨by decide, storable.short⟩

/-- A picture whose name looks like dot segments, percent forms, a query and a fragment. -/
theorem file_reachable_hostile :
    let name := "%2e%2e/..%2f?\\#é\n.svg".toList
    let site := holding name [104, 105]
    site.root.files.HoldsFile (site.root.path ++ namesOf name) [104, 105] ∧
      fits (site.root.path ++ namesOf name) = true ∧
      site.answer (.ofPath "/static/%252e%252e/..%252f%3F%5C%23%C3%A9%0A.svg".toList) =
        ⟨.ok, "image/svg+xml".toList, [104, 105]⟩ := by
  intro name site
  have hstorable : Storable name := by decide
  have hheld : site.root.files.HoldsFile (site.root.path ++ namesOf name) [104, 105] :=
    holdsFile_holding hstorable [104, 105]
  have hfitting : fits (site.root.path ++ namesOf name) = true := hstorable.fitting
  have htype : site.mediaType.ofName? name = some "image/svg+xml".toList := by decide +kernel
  obtain ⟨hspells, hreached⟩ := file_reachable hheld hfitting
  have hanswer := hreached _ hspells
    (.ofPath "/static/%252e%252e/..%252f%3F%5C%23%C3%A9%0A.svg".toList) (by decide +kernel)
  rw [htype, Option.getD_some] at hanswer
  exact ⟨hheld, hfitting, hanswer⟩

end Site

end IndexSearch
