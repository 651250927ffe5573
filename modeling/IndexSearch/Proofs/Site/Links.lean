import IndexSearch.Files.CommonTypes
import IndexSearch.Proofs.Files.Reading
import IndexSearch.Proofs.Site.Confinement
import IndexSearch.Proofs.Site.Injection
import IndexSearch.Proofs.Url.Path
import IndexSearch.Proofs.Url.Reference
import IndexSearch.Site.Answer

/-!
# Links to static files

A local result is linked to under its name as it is, and the link is read as a reference: what
stands behind a question mark or a number sign is cut off, backslashes are slashes, percent forms
are decoded, and some characters are lost. So a link leads to its own file for exactly those names
that have none of this in them, and to some other name for all the others.
-/

namespace IndexSearch

open FileSystem Percent Target

/-- The characters that mean something else in a reference, or nothing. -/
def lostChars : List Char :=
  ['?', '#', '\\', '\t', '\n', '\r']

/-- A name that a link can give as it is. -/
structure Linkable (name : Text) : Prop where
  clear : ∀ c ∈ name, c ∉ lostChars
  ends : ∀ c ∈ name.getLast?, 0x20 < c.toNat
  formless : hasForm name = false

theorem not_mem_lostChars_iff {c : Char} :
    c ∉ lostChars ↔ isKept c = true ∧ endsPath c = false ∧ c ≠ '\\' := by
  simp only [lostChars, List.mem_cons, List.not_mem_nil, or_false, not_or, isKept, endsPath,
    Bool.not_eq_true', Bool.or_eq_false_iff, beq_eq_false_iff_ne]
  constructor
  · rintro ⟨hquery, hfragment, hback, htab, hfeed, hreturn⟩
    exact ⟨⟨⟨htab, hfeed⟩, hreturn⟩, ⟨hquery, hfragment⟩, hback⟩
  · rintro ⟨⟨⟨htab, hfeed⟩, hreturn⟩, ⟨hquery, hfragment⟩, hback⟩
    exact ⟨hquery, hfragment, hback, htab, hfeed, hreturn⟩

/-- A name is linkable if nothing of it is lost, turned around or decoded in a reference. -/
theorem linkable_iff {name : Text} :
    Linkable name ↔ pathPart name = name ∧ '\\' ∉ name ∧ hasForm name = false := by
  have hedge : ∀ c : Char, isEdge c = false ↔ 0x20 < c.toNat := by
    intro c
    rw [isEdge, decide_eq_false_iff_not, Nat.not_le]
  rw [pathPart_eq_self_iff, tidy_eq_self_iff]
  constructor
  · intro h
    have hclear := fun c hc => not_mem_lostChars_iff.mp (h.clear c hc)
    refine ⟨⟨⟨?_, ?_⟩, ?_⟩, ?_, h.formless⟩
    · exact fun c hc => (hedge c).mpr (h.ends c hc)
    · exact fun c hc => (hclear c hc).1
    · exact fun c hc => (hclear c hc).2.1
    · exact fun hback => (hclear _ hback).2.2 rfl
  · rintro ⟨⟨⟨hends, hkept⟩, hpath⟩, hback, hform⟩
    refine ⟨fun c hc => ?_, fun c hc => (hedge c).mp (hends c hc), hform⟩
    have hplain : c ≠ '\\' := by
      rintro rfl
      exact hback hc
    exact not_mem_lostChars_iff.mpr ⟨hkept c hc, hpath c hc, hplain⟩

instance decidableLinkable (name : Text) : Decidable (Linkable name) :=
  decidable_of_iff _ linkable_iff.symm

def staticDir : Text :=
  "static".toList

theorem staticDir_alphanumeric : ∀ c ∈ staticDir, c.isAlphanum = true :=
  List.all_eq_true.mp (by decide)

def linkedSegments (name : Text) : List Text :=
  (encode inPathSet (slashed (pathPart name))).splitOn '/'

/-- A link resolves to the directory of static files and the segments behind it. -/
theorem resolve?_link (name : Text) : ∃ query, resolve? (staticPrefix ++ name) =
    some ⟨'/' :: joinSegments .special [staticDir] (linkedSegments name), query⟩ := by
  obtain ⟨query, hresolve⟩ := resolve?_into staticDir_alphanumeric name
  have hsplit : (encode inPathSet (slashed (staticDir ++ '/' :: pathPart name))).splitOn '/' =
      staticDir :: linkedSegments name := by
    have hencoded : encode inPathSet (slashed (staticDir ++ '/' :: pathPart name)) =
        staticDir ++ '/' :: encode inPathSet (slashed (pathPart name)) := by
      rw [slashed_append, encode, List.flatMap_append]
      rfl
    have hslashless : ∀ c ∈ staticDir, (c == '/') = false := by
      intro c hc
      rw [beq_eq_false_iff_ne]
      rintro rfl
      exact absurd (staticDir_alphanumeric _ hc) (by decide)
    rw [hencoded]
    exact List.splitOnP_append_cons_of_forall_mem hslashless '/' (by decide) _
  have hpath : pathOf .special (staticDir ++ '/' :: pathPart name) =
      '/' :: joinSegments .special [staticDir] (linkedSegments name) := by
    obtain ⟨first, others, hsegments⟩ :=
      List.exists_cons_of_ne_nil (List.splitOn_ne_nil '/' (encode inPathSet
        (slashed (pathPart name))))
    rw [pathOf, splitOnP_isSlash, ← encode_slashed, hsplit, linkedSegments, hsegments]
    rfl
  exact ⟨query, by rw [← hpath]; exact hresolve⟩

theorem staticName_link (name : Text) : staticName (staticPrefix ++ name) =
    if (staticDir ++ ['/']).isPrefixOf
        (joinSegments .special [staticDir] (linkedSegments name)) then
      decodeText ((joinSegments .special [staticDir] (linkedSegments name)).drop
        (staticDir.length + 1))
    else [] := by
  obtain ⟨query, hresolve⟩ := resolve?_link name
  rw [staticName, hresolve]
  rfl

/-- Without dot segments a link asks for what is left of it, percent-decoded. -/
theorem staticName_link_of_dotless {name : Text}
    (dotless : ∀ segment ∈ linkedSegments name, isDot segment = false) :
    staticName (staticPrefix ++ name) =
      decodeText (encode inPathSet (slashed (pathPart name))) := by
  have hpath : joinSegments .special [staticDir] (linkedSegments name) =
      (staticDir ++ ['/']) ++ encode inPathSet (slashed (pathPart name)) := by
    rw [joinSegments_of_dotless _ dotless, linkedSegments, List.intercalate_splitOn]
    rfl
  rw [staticName_link, hpath, if_pos (List.isPrefixOf_iff_prefix.mpr (List.prefix_append _ _))]
  rfl

/-- A link asks for no more than what is left of it, and for less if it has dot segments. -/
theorem length_staticName_link_le {name : Text}
    (nonempty : staticName (staticPrefix ++ name) ≠ []) :
    (staticName (staticPrefix ++ name)).length + (linkedSegments name).countP isDot ≤
      (decodeText (encode inPathSet (slashed (pathPart name)))).length := by
  have hbound := length_decodeText_joinSegments_le [staticDir]
    (List.splitOn_ne_nil '/' (encode inPathSet (slashed (pathPart name))))
  have hsize := length_decodeText_intercalate
    (List.splitOn_ne_nil '/' (encode inPathSet (slashed (pathPart name))))
  have hdir : size [staticDir] = staticDir.length + 1 := by decide +kernel
  rw [List.intercalate_splitOn] at hsize
  rw [staticName_link] at nonempty ⊢
  split at nonempty
  · rename_i hbegins
    -- What the directory adds to both sides of the bound is the same.
    obtain ⟨rest, hrest⟩ := List.isPrefixOf_iff_prefix.mp hbegins
    have hread : decodeText staticDir = staticDir := by decide +kernel
    rw [if_pos hbegins]
    rw [linkedSegments] at hrest ⊢
    rw [← hrest] at hbound ⊢
    rw [List.append_assoc, List.singleton_append, decodeText_append_slash, List.length_append,
      List.length_cons, hread] at hbound
    have hdrop : (staticDir ++ ['/'] ++ rest).drop (staticDir.length + 1) = rest := rfl
    rw [hdrop]
    omega
  · exact absurd rfl nonempty

theorem length_slashed_pathPart_le (name : Text) :
    (slashed (pathPart name)).length ≤ name.length := by
  rw [length_slashed]
  exact (pathPart_sublist name).length_le

theorem not_inPathSet_percent : inPathSet '%' = false := by
  decide

theorem not_inPathSet_of_isAlphanum (c : Char) (h : c.isAlphanum = true) :
    inPathSet c = false :=
  forall_ascii (motive := fun c => c.isAlphanum = true → inPathSet c = false) (by decide +kernel)
    (ascii_of_isAlphanum h) h

/-- A link asks for a name that is no longer than the one it was made for. -/
theorem length_staticName_le (name : Text) :
    (staticName (staticPrefix ++ name)).length ≤ name.length := by
  by_cases hnone : staticName (staticPrefix ++ name) = []
  · rw [hnone]
    exact Nat.zero_le _
  · have hshort := length_staticName_link_le hnone
    have hread := length_decodeText_encode_le not_inPathSet_percent not_inPathSet_of_isAlphanum
      (slashed (pathPart name))
    have hpart := length_slashed_pathPart_le name
    omega

/-- The segments of a name without percent forms are no dot segments if its parts are none. -/
theorem dotless_of_named {name : Text} (formless : hasForm name = false)
    (named : ∀ part ∈ namesOf name, isEntryName part = true) :
    ∀ segment ∈ (encode inPathSet name).splitOn '/', isDot segment = false := by
  intro segment hsegment
  rw [splitOn_encode] at hsegment
  obtain ⟨part, hpart, rfl⟩ := List.mem_map.mp hsegment
  have hform : hasForm part = false := by
    rw [Bool.eq_false_iff] at formless ⊢
    exact fun h => formless (hasForm_of_isInfix (isInfix_of_mem_splitOn hpart) h)
  have hentry := named part hpart
  rw [Bool.eq_false_iff]
  intro hdot
  have hread := decodeText_dot hdot
  rw [decodeText_encode hform] at hread
  rcases hread with rfl | rfl
  · revert hentry
    decide
  · revert hentry
    decide

/-- A link leads back to its own name exactly if the name can be given as it is. -/
theorem staticName_link_iff {name : Text}
    (named : ∀ part ∈ namesOf name, isEntryName part = true) :
    staticName (staticPrefix ++ name) = name ↔ Linkable name := by
  rw [linkable_iff]
  constructor
  · intro hback
    have hnonempty : name ≠ [] := by
      rintro rfl
      exact absurd (named [] (by decide)) (by decide)
    have hpart := length_slashed_pathPart_le name
    have hsame := length_slashed (pathPart name)
    have hshort := length_staticName_link_le (hback.symm ▸ hnonempty)
    have hread := length_decodeText_encode_le not_inPathSet_percent not_inPathSet_of_isAlphanum
      (slashed (pathPart name))
    rw [hback] at hshort
    -- The name comes back at its full length, so nothing can have been lost on the way.
    have hwhole : pathPart name = name := (pathPart_sublist name).eq_of_length_le (by omega)
    have hformless : hasForm (slashed (pathPart name)) = false := by
      rw [Bool.eq_false_iff]
      intro hform
      have hless := length_decodeText_encode_lt not_inPathSet_percent not_inPathSet_of_isAlphanum
        hform
      omega
    have hdotless : ∀ segment ∈ linkedSegments name, isDot segment = false := by
      have hnone : (linkedSegments name).countP isDot = 0 := by omega
      intro segment hsegment
      simpa using List.countP_eq_zero.mp hnone segment hsegment
    rw [staticName_link_of_dotless hdotless, decodeText_encode hformless, hwhole] at hback
    rw [hwhole, hback] at hformless
    exact ⟨hwhole, slashed_eq_self_iff.mp hback, hformless⟩
  · rintro ⟨hpart, hback, hform⟩
    have hslashed : slashed (pathPart name) = name := by
      rw [hpart, slashed_eq_self_iff]
      exact hback
    have hdotless : ∀ segment ∈ linkedSegments name, isDot segment = false := by
      rw [linkedSegments, hslashed]
      exact dotless_of_named hform named
    rw [staticName_link_of_dotless hdotless, hslashed, decodeText_encode hform]

/-- A local result is linked to under the name that it has in the crawled directory. -/
theorem Hit.href_link {hit : Hit} {crawlRoot name : Text} (here : hit.source = .localFile)
    (named : hit.name = crawlRoot ++ name) : (hit.link crawlRoot).href = staticPrefix ++ name := by
  have hprefix : crawlRoot.isPrefixOf (crawlRoot ++ name) = true :=
    List.isPrefixOf_iff_prefix.mpr (List.prefix_append _ _)
  rw [link, here]
  simp only [relativeName, named, if_pos hprefix, List.drop_left]

namespace Site

/-- Below the static prefix a path asks for a file. -/
theorem answer_below {site : Site} {request : Request} {text : Text}
    (asked : request.path = staticPrefix ++ text) :
    site.answer request = site.fileResponse (staticName (staticPrefix ++ text)) := by
  have hstatic : staticPrefix.isPrefixOf request.path = true := by
    rw [asked]
    exact List.isPrefixOf_iff_prefix.mpr (List.prefix_append _ _)
  rw [answer_of_static hstatic, asked]

/-- The link of a local result is answered with the file that it asks for. That is the result's own
file if the name can be given as it is. -/
theorem link_leads_back {site : Site} {hit : Hit} {name : Text} {contents : Bytes}
    (here : hit.source = .localFile) (named : hit.name = site.crawlRoot ++ name)
    (stored : site.root.Stores name contents) (linkable : Linkable name) {request : Request}
    (followed : request.path = (hit.link site.crawlRoot).href) :
    site.answer request = ⟨.ok, site.mediaType.ofName name, contents⟩ := by
  have hpath : request.path = staticPrefix ++ name := by
    rw [followed, Hit.href_link here named]
  have hname : staticName (staticPrefix ++ name) = name :=
    (staticName_link_iff stored.named).mpr linkable
  rw [answer_below hpath, hname, fileResponse, StaticRoot.read?_of_stores stored]

def staticPath (name : Text) : Path :=
  staticDir :: namesOf name

/-- A name that the system admits for a static file. -/
structure Storable (name : Text) : Prop where
  named : ∀ part ∈ namesOf name, isEntryName part = true
  clear : hasNul name = false
  short : ∀ part ∈ namesOf name, (Utf8.encode part).length ≤ maxName
  fitting : fits (staticPath name) = true

instance decidableStorable (name : Text) : Decidable (Storable name) :=
  decidable_of_iff
    ((∀ part ∈ namesOf name, isEntryName part = true) ∧ hasNul name = false ∧
      (∀ part ∈ namesOf name, (Utf8.encode part).length ≤ maxName) ∧
      fits (staticPath name) = true)
    ⟨fun ⟨named, clear, short, fitting⟩ => ⟨named, clear, short, fitting⟩,
      fun h => ⟨h.named, h.clear, h.short, h.fitting⟩⟩

/-- A site with a single file, which is the only document of its engine. -/
def holding (name : Text) (contents : Bytes) : Site where
  root := {
    files := .ofEntries ((staticPath name, .file contents) ::
      (List.range (staticPath name).length).map fun count =>
        ((staticPath name).take count, .directory)) []
    path := [staticDir] }
  engine := ⟨[.ofShard (Shard.ofEntries {
    terms := [("x".toList, [⟨1, 2⟩])]
    docs := [(1, "./".toList ++ name)] })], List.cons_ne_nil _ _⟩
  crawlRoot := "./".toList
  mediaType := .byExtension

theorem node?_holding (name : Text) (contents : Bytes) (path : Path) :
    (holding name contents).root.files.node? path =
      if path = staticPath name then some (.file contents)
      else if path <+: staticPath name then some .directory
      else none := by
  have hnode : (holding name contents).root.files.node? path =
      if path = [] then some .directory
      else (((staticPath name, Node.file contents) ::
        (List.range (staticPath name).length).map fun count =>
          ((staticPath name).take count, Node.directory)).find?
            fun entry => decide (entry.1 = path)).map Prod.snd := rfl
  have hroot : staticPath name ≠ [] := List.cons_ne_nil _ _
  rw [hnode]
  by_cases hnil : path = []
  · rw [if_pos hnil, if_neg (hnil ▸ hroot.symm), if_pos (hnil ▸ List.nil_prefix)]
  · rw [if_neg hnil, List.find?_cons]
    by_cases hfile : path = staticPath name
    · rw [if_pos hfile, decide_eq_true hfile.symm]
      rfl
    · rw [if_neg hfile, decide_eq_false (Ne.symm hfile)]
      by_cases hbegins : path <+: staticPath name
      · have hproper : path.length < (staticPath name).length :=
          Nat.lt_of_le_of_ne hbegins.length_le fun heq => hfile (hbegins.eq_of_length heq)
        have hmem : (path, Node.directory) ∈ (List.range (staticPath name).length).map
            fun count => ((staticPath name).take count, Node.directory) := by
          refine List.mem_map.mpr ⟨path.length, List.mem_range.mpr hproper, ?_⟩
          rw [← List.prefix_iff_eq_take.mp hbegins]
        rw [if_pos hbegins]
        cases hfind : ((List.range (staticPath name).length).map fun count =>
            ((staticPath name).take count, Node.directory)).find?
              fun entry => decide (entry.1 = path) with
        | none => exact absurd (List.find?_eq_none.mp hfind _ hmem) (by simp)
        | some entry =>
          obtain ⟨count, _, rfl⟩ := List.mem_map.mp (List.mem_of_find?_eq_some hfind)
          rfl
      · rw [if_neg hbegins, List.find?_eq_none.mpr]
        · rfl
        · intro entry hentry hpath
          obtain ⟨count, _, rfl⟩ := List.mem_map.mp hentry
          exact hbegins (of_decide_eq_true hpath ▸ List.take_prefix _ _)

theorem linkless_holding (name : Text) (contents : Bytes) (path : Path) (text : Text) :
    (holding name contents).root.files.node? path ≠ some (.link text) := by
  rw [node?_holding]
  split
  · simp
  · split
    · simp
    · simp

section

variable {name : Text} (storable : Storable name)

include storable

theorem resolved_holding (contents : Bytes) :
    (holding name contents).root.files.Resolved (staticPath name) := by
  refine ⟨?_, ?_, ?_⟩
  · exact List.forall_mem_cons.mpr ⟨by decide, storable.named⟩
  · intro above hbegins hproper
    rw [node?_holding, if_neg hproper, if_pos hbegins]
  · refine Or.inr ⟨contents, ?_⟩
    rw [node?_holding, if_pos rfl]

theorem stores_holding (contents : Bytes) : (holding name contents).root.Stores name contents where
  resolved := resolved_holding storable contents
  file := by
    have hpath : (holding name contents).root.path ++ namesOf name = staticPath name := rfl
    rw [hpath, node?_holding, if_pos rfl]
  clear := storable.clear
  short := storable.short
  fitting := storable.fitting

/-- A file whose name cannot be given as it is is not found through its link, where there is no
other. -/
theorem read?_holding (unlinkable : ¬ Linkable name) (contents : Bytes) :
    (holding name contents).root.read? (staticName (staticPrefix ++ name)) = none := by
  rw [Option.eq_none_iff_forall_ne_some]
  intro found hread
  refine unlinkable ((staticName_link_iff storable.named).mp ?_)
  obtain ⟨path, hlocate, hnode⟩ := StaticRoot.read?_eq_some hread
  have hpath : path = staticPath name := by
    rw [node?_holding] at hnode
    split at hnode
    · assumption
    · split at hnode
      · cases hnode
      · cases hnode
  subst hpath
  obtain ⟨_, hwalk⟩ := StaticRoot.locate?_eq_some hlocate
  obtain ⟨hlength, hsame⟩ := walk_linkless (linkless_holding name contents) hwalk
  have hroot : (holding name contents).root.path = [staticDir] := rfl
  have hspelled : spelled (staticPath name) = spelled [staticDir] ++ '/' :: name := by
    rw [← spelled_namesOf, ← spelled_append]
    rfl
  have hshort := length_staticName_le name
  have hslashes := List.dropWhile_suffix (· == '/') (l := staticName (staticPrefix ++ name))
  have hdropped := hslashes.length_le
  rw [hroot, spelled_namesOf, hspelled, List.length_append, List.length_cons,
    List.length_cons] at hlength hsame
  -- The walk has to spend all characters of the name that it was given.
  have hnames := congrArg spelled (hsame (by omega))
  rw [hspelled, spelled_append, spelled_namesOf] at hnames
  have hname := (List.cons.inj (List.append_cancel_left hnames)).2
  rw [← hname] at hslashes
  exact (hslashes.eq_of_length_le hshort).symm

theorem status_holding (unlinkable : ¬ Linkable name) (contents : Bytes) {request : Request}
    (followed : request.path = staticPrefix ++ name) :
    ((holding name contents).answer request).status = .notFound := by
  rw [answer_below followed, fileResponse, read?_holding storable unlinkable]

end

theorem search_holding (name : Text) (contents : Bytes) :
    (holding name contents).engine.search ["x".toList] = .ok [⟨"./".toList ++ name, 2⟩] :=
  congrArg Except.ok (List.mergeSort_singleton (⟨"./".toList ++ name, 2⟩ : Hit))

/-- Links of local results to the file that stands under their name are answered with that file, on
every site that has one of this name, exactly if the name can be given as it is. -/
theorem links_lead_back_iff {name : Text} (storable : Storable name) :
    (∀ (site : Site) (hit : Hit) (contents : Bytes) (request : Request),
      hit.source = .localFile → hit.name = site.crawlRoot ++ name →
        site.root.Stores name contents →
          request.path = Markup.unescape (Markup.escape (hit.link site.crawlRoot).href) →
            (site.answer request).status = .ok ∧ (site.answer request).body = contents) ↔
      Linkable name := by
  constructor
  · intro answered
    by_contra unlinkable
    have hhref : (Hit.link "./".toList ⟨"./".toList ++ name, 2⟩).href = staticPrefix ++ name :=
      Hit.href_link rfl rfl
    have hfound := answered (holding name []) ⟨"./".toList ++ name, 2⟩ []
      (.ofPath (staticPrefix ++ name)) rfl rfl (stores_holding storable [])
      ((Markup.unescape_escape _).trans hhref).symm
    have hmissing : ((holding name []).answer (.ofPath (staticPrefix ++ name))).status =
        .notFound := status_holding storable unlinkable [] rfl
    rw [hfound.1] at hmissing
    cases hmissing
  · intro linkable site hit contents request here named stored followed
    rw [Markup.unescape_escape] at followed
    rw [link_leads_back here named stored linkable followed]
    exact ⟨rfl, rfl⟩

/-- A percent sign and spaces inside a name do no harm. -/
theorem links_lead_back_iff_percent :
    let name := "100% of it.txt".toList
    let site := holding name [104, 105]
    let hit : Hit := ⟨"./100% of it.txt".toList, 2⟩
    site.engine.search ["x".toList] = .ok [hit] ∧ site.root.Stores name [104, 105] ∧
      Linkable name ∧
      (site.answer (.ofPath (hit.link site.crawlRoot).href)).status = .ok ∧
      (site.answer (.ofPath (hit.link site.crawlRoot).href)).body = [104, 105] := by
  intro name site hit
  have hstorable : Storable name := by decide
  have hstored : site.root.Stores name [104, 105] := stores_holding hstorable _
  have hlinkable : Linkable name := by decide
  have hanswer := (links_lead_back_iff hstorable).mpr hlinkable site hit [104, 105]
    (.ofPath (hit.link site.crawlRoot).href) (by decide) rfl hstored
    (Markup.unescape_escape _).symm
  exact ⟨search_holding name _, hstored, hlinkable, hanswer⟩

/-- A question mark in a name leads its link astray: the file is there and its document is found,
but the link is answered as missing. -/
theorem link_astray :
    let name := "a?b".toList
    let site := holding name [104, 105]
    let hit : Hit := ⟨"./a?b".toList, 2⟩
    site.engine.search ["x".toList] = .ok [hit] ∧ hit.source = .localFile ∧
      hit.name = site.crawlRoot ++ name ∧ site.root.Stores name [104, 105] ∧
      (site.answer (.ofPath
        (Markup.unescape (Markup.escape (hit.link site.crawlRoot).href)))).status = .notFound := by
  intro name site hit
  have hstorable : Storable name := by decide
  have hunlinkable : ¬ Linkable name := by decide
  have hsource : hit.source = .localFile := by decide
  refine ⟨search_holding name _, hsource, rfl, stores_holding hstorable _, ?_⟩
  refine status_holding hstorable hunlinkable _ ?_
  exact (Markup.unescape_escape _).trans (Hit.href_link hsource rfl)

end Site

end IndexSearch
