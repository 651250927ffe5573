import IndexSearch.Proofs.Site.Client
import IndexSearch.Proofs.Site.Injection
import Mathlib.Data.List.Forall2

/-!
# What a result page says

A result page is read by its template: what is fixed has to be there, and what was put in goes as
far as the first character that is fixed again. Since escaped text has no such character, the reader
comes to the search text, to the number of results and to the results themselves, whatever names and
texts they have, also if these look like pieces of the template or like references. A page that was
put together in another way is not considered.
-/

namespace IndexSearch

namespace Page

structure Item where
  href : Text
  label : Text
  rank : Nat
deriving DecidableEq, Repr

/-- A search as it is read from a page, with the number of results that the page states. -/
structure Reading where
  terms : Text
  count : Nat
  items : List Item
deriving DecidableEq, Repr

abbrev Scan (α : Type) := StateT Text Option α

def fixed (text : Text) : Scan Unit := fun page =>
  (text.isPrefixOf? page).map ((), ·)

/-- Reads up to the first character of an ending, which has to be there as a whole. -/
def upTo (ending : Text) : Scan Text := fun page =>
  let (content, rest) := page.span fun c => ending.head? != some c
  (ending.isPrefixOf? rest).map (content, ·)

def field (ending : Text) : Scan Text := do
  let written ← upTo ending
  pure (Markup.unescape written)

def number (ending : Text) : Scan Nat := do
  let digits ← upTo ending
  StateT.lift (Numeral.parse? 10 digits)

def readItem : Scan Item := do
  fixed "<li>\n<a href=\"".toList
  let href ← field "\">".toList
  let label ← field "</a> [".toList
  let rank ← number "]<br>\n</li>\n".toList
  pure ⟨href, label, rank⟩

/-- A reader that takes a number of characters at least. -/
def Takes {α : Type} (scan : Scan α) (least : Nat) : Prop :=
  ∀ page value rest, scan page = some (value, rest) → rest.length + least ≤ page.length

namespace Takes

variable {α β : Type}

theorem of_unread (value : Option α) : Takes (StateT.lift value : Scan α) 0 := by
  intro page result rest hread
  cases value with
  | none => cases hread
  | some value =>
    cases hread
    exact Nat.le_refl _

theorem bind {first : Scan α} {next : α → Scan β} {least more : Nat} (hfirst : Takes first least)
    (hnext : ∀ value, Takes (next value) more) : Takes (first >>= next) (least + more) := by
  intro page result rest hread
  obtain ⟨⟨value, middle⟩, hmiddle, hrest⟩ := Option.bind_eq_some_iff.mp hread
  have hbefore := hfirst page value middle hmiddle
  have hafter := hnext value middle result rest hrest
  omega

end Takes

theorem takes_fixed (text : Text) : Takes (fixed text) text.length := by
  intro page value rest hread
  obtain ⟨left, hleft, heq⟩ := Option.map_eq_some_iff.mp hread
  cases heq
  rw [← List.isPrefixOf?_eq_some_iff_append_eq.mp hleft, List.length_append]
  omega

theorem takes_upTo (ending : Text) : Takes (upTo ending) 0 := by
  intro page value rest hread
  rw [upTo, List.span_eq_takeWhile_dropWhile] at hread
  obtain ⟨left, hleft, heq⟩ := Option.map_eq_some_iff.mp hread
  cases heq
  have hsuffix := List.dropWhile_suffix (l := page) fun c => ending.head? != some c
  have hlength := hsuffix.length_le
  rw [← List.isPrefixOf?_eq_some_iff_append_eq.mp hleft, List.length_append] at hlength
  omega

/-- An item has its own fixed beginning. -/
theorem length_of_readItem {page rest : Text} {item : Item}
    (h : readItem page = some (item, rest)) : rest.length < page.length := by
  have hfield : ∀ ending, Takes (field ending) (0 + 0) := fun ending =>
    (takes_upTo ending).bind fun _ => .of_unread (some _)
  have hnumber : ∀ ending, Takes (number ending) (0 + 0) := fun ending =>
    (takes_upTo ending).bind fun _ => .of_unread _
  have htakes : Takes readItem _ :=
    (takes_fixed _).bind fun _ => (hfield _).bind fun _ => (hfield _).bind fun _ =>
      (hnumber _).bind fun _ => .of_unread (some _)
  have hitem := htakes page item rest h
  have hfixed : 0 < "<li>\n<a href=\"".toList.length := by decide
  omega

def readItems : Scan (List Item) := fun page =>
  match "</ul>\r\n".toList.isPrefixOf? page with
  | some rest => some ([], rest)
  | none =>
    match _h : readItem page with
    | none => none
    | some (item, rest) => (readItems rest).map fun found => (item :: found.1, found.2)
termination_by page => page.length
decreasing_by exact length_of_readItem _h

def readNotice : Scan Reading := do
  fixed "No results found for <b>".toList
  let terms ← field "</b><p>\r\n\r\n".toList
  pure ⟨terms, 0, []⟩

def readList : Scan Reading := do
  let count ← number " result".toList
  fixed (if 1 < count then "s found for <b>".toList else " found for <b>".toList)
  let terms ← field "</b><p>\r\n\r\n".toList
  fixed "<ul>\r\n".toList
  let items ← readItems
  pure ⟨terms, count, items⟩

def readResults : Scan Reading := do
  fixed "<p><br>\r\n".toList
  readNotice <|> readList

/-- What a page says of a search, if it is all there and nothing else is. -/
def read? (page : Text) : Option Reading :=
  match readResults page with
  | some (reading, []) => some reading
  | _ => none

/-- A reader takes what was written for a value, whatever follows. -/
def Reads {α : Type} (scan : Scan α) (written : Text) (value : α) : Prop :=
  ∀ rest, scan (written ++ rest) = some (value, rest)

namespace Reads

variable {α β : Type}

theorem pure (value : α) : Reads (pure value : Scan α) [] value :=
  fun _ => rfl

theorem lift {value? : Option α} {value : α} (h : value? = some value) :
    Reads (StateT.lift value? : Scan α) [] value := by
  intro rest
  rw [h]
  rfl

theorem bind {first : Scan α} {next : α → Scan β} {written more : Text} {value : α} {result : β}
    (hfirst : Reads first written value) (hnext : Reads (next value) more result) :
    Reads (first >>= next) (written ++ more) result := by
  intro rest
  change (first (written ++ more ++ rest)).bind (fun found => next found.1 found.2) = _
  rw [List.append_assoc, hfirst, Option.bind_some]
  exact hnext rest

variable {first second : Scan α} {written : Text} {value : α}

theorem or_left (h : Reads first written value) : Reads (first <|> second) written value := by
  intro rest
  change ((first (written ++ rest)).orElse fun _ => second (written ++ rest)) = _
  rw [h]
  rfl

theorem or_right (refused : ∀ rest, first (written ++ rest) = none)
    (h : Reads second written value) : Reads (first <|> second) written value := by
  intro rest
  change ((first (written ++ rest)).orElse fun _ => second (written ++ rest)) = _
  rw [refused, Option.orElse_none, h]

end Reads

theorem reads_fixed (text : Text) : Reads (fixed text) text () := by
  intro rest
  rw [fixed, Response.isPrefixOf?_append]
  rfl

/-- What was put in is read as a whole if its characters are of another kind than the one with which
the ending begins. -/
theorem reads_upTo {kind : Char → Bool} {content ending : Text}
    (mark : ending.head?.any kind = true) (clear : ∀ c ∈ content, kind c = false) :
    Reads (upTo ending) (content ++ ending) content := by
  intro rest
  cases ending with
  | nil => cases mark
  | cons first others =>
    have hfirst : kind first = true := mark
    have hcontent : ∀ c ∈ content, ((first :: others).head? != some c) = true := by
      intro c hc
      rw [List.head?_cons, bne_iff_ne, ne_eq, Option.some.injEq]
      rintro rfl
      rw [clear first hc] at hfirst
      cases hfirst
    have hspan : (content ++ first :: others ++ rest).span
        (fun c => (first :: others).head? != some c) = (content, first :: others ++ rest) := by
      rw [List.append_assoc, List.span_eq_takeWhile_dropWhile,
        List.takeWhile_append_of_pos hcontent, List.dropWhile_append_of_pos hcontent]
      simp
    rw [upTo, hspan]
    dsimp only
    rw [Response.isPrefixOf?_append]
    rfl

/-- A text that was put in is read where a mark follows it. -/
theorem reads_field (text : Text) {ending : Text} (mark : ending.head?.any Markup.isMark = true) :
    Reads (field ending) (Markup.escape text ++ ending) text := by
  have hclear : ∀ c ∈ Markup.escape text, Markup.isMark c = false := by
    simpa using List.filter_eq_nil_iff.mp (Markup.marks_escape text)
  have hread : Reads (field ending) (Markup.escape text ++ ending ++ [])
      (Markup.unescape (Markup.escape text)) := (reads_upTo mark hclear).bind (.pure _)
  rwa [List.append_nil, Markup.unescape_escape] at hread

/-- So is a number where something else than a digit follows it. -/
theorem reads_number (n : Nat) {ending : Text}
    (mark : ending.head?.any (fun c => !decide (48 ≤ c.toNat ∧ c.toNat ≤ 57)) = true) :
    Reads (number ending) (Numeral.render n ++ ending) n := by
  have hclear : ∀ c ∈ Numeral.render n, (!decide (48 ≤ c.toNat ∧ c.toNat ≤ 57)) = false := by
    intro c hc
    rw [decide_eq_true (Numeral.isDigit_of_mem_render hc)]
    rfl
  have hread : Reads (number ending) (Numeral.render n ++ ending ++ []) n :=
    (reads_upTo mark hclear).bind (.lift (Numeral.parse?_render n))
  rwa [List.append_nil] at hread

/-- The pieces of a template with three fields, each with what ends it. -/
theorem append_fields (opening first middle second between third closing : Text) :
    opening ++ first ++ middle ++ second ++ between ++ third ++ closing =
      opening ++ (first ++ middle ++ (second ++ between ++ (third ++ closing ++ []))) := by
  simp

def shown (link : Link) : Item :=
  ⟨link.href, link.label, link.rank.toNat⟩

theorem reads_item (link : Link) : Reads readItem (item link) (shown link) := by
  have hhref : Reads (field "\">".toList) (Markup.escape link.href ++ "\">".toList) link.href :=
    reads_field _ (by decide)
  have hlabel : Reads (field "</a> [".toList) (Markup.escape link.label ++ "</a> [".toList)
      link.label := reads_field _ (by decide)
  have hrank : Reads (number "]<br>\n</li>\n".toList)
      (Numeral.render link.rank.toNat ++ "]<br>\n</li>\n".toList) link.rank.toNat :=
    reads_number _ (by decide)
  have hread : Reads readItem ("<li>\n<a href=\"".toList ++
      (Markup.escape link.href ++ "\">".toList ++
        (Markup.escape link.label ++ "</a> [".toList ++
          (Numeral.render link.rank.toNat ++ "]<br>\n</li>\n".toList ++ [])))) (shown link) :=
    (reads_fixed _).bind (hhref.bind (hlabel.bind (hrank.bind (.pure _))))
  rwa [← append_fields] at hread

theorem readItems_of_readItem {page rest : Text} {item : Item}
    (opened : "</ul>\r\n".toList.isPrefixOf? page = none)
    (h : readItem page = some (item, rest)) :
    readItems page = (readItems rest).map fun found => (item :: found.1, found.2) := by
  rw [readItems, opened]
  dsimp only
  split
  · rename_i h'
    rw [h] at h'
    cases h'
  · rename_i h'
    rw [h] at h'
    cases h'
    rfl

/-- An item does not close the list, and the end of the list is no item. -/
theorem reads_items (links : List Link) :
    Reads readItems (links.flatMap item ++ "</ul>\r\n".toList) (links.map shown) := by
  intro rest
  induction links with
  | nil =>
    rw [List.flatMap_nil, List.nil_append, readItems, Response.isPrefixOf?_append]
    rfl
  | cons link links ih =>
    have hopened (more : Text) : "</ul>\r\n".toList.isPrefixOf? (item link ++ more) = none := rfl
    rw [List.flatMap_cons, List.append_assoc, List.append_assoc,
      ← List.append_assoc (links.flatMap item),
      readItems_of_readItem (hopened _) (reads_item link _), ih]
    rfl

theorem reads_terms (terms : Text) : Reads (field "</b><p>\r\n\r\n".toList)
    (Markup.escape terms ++ "</b><p>\r\n\r\n".toList) terms :=
  reads_field terms (by decide)

theorem reads_notice (terms : Text) : Reads readResults (notice terms) ⟨terms, 0, []⟩ := by
  have hnotice : Reads readNotice ("No results found for <b>".toList ++
      (Markup.escape terms ++ "</b><p>\r\n\r\n".toList ++ [])) ⟨terms, 0, []⟩ :=
    (reads_fixed _).bind ((reads_terms terms).bind (.pure _))
  have hread : Reads readResults ("<p><br>\r\n".toList ++ ("No results found for <b>".toList ++
      (Markup.escape terms ++ "</b><p>\r\n\r\n".toList ++ []))) ⟨terms, 0, []⟩ :=
    (reads_fixed _).bind hnotice.or_left
  rw [List.append_nil, ← List.append_assoc, ← List.append_assoc] at hread
  exact hread

/-- No number begins as the notice does. -/
theorem readNotice_render (n : Nat) (rest : Text) :
    readNotice (Numeral.render n ++ rest) = none := by
  have hfixed : fixed "No results found for <b>".toList (Numeral.render n ++ rest) = none := by
    rw [fixed, Option.map_eq_none_iff, Option.eq_none_iff_forall_ne_some]
    intro left hleft
    obtain ⟨c, digits, hrender⟩ := List.exists_cons_of_ne_nil (Numeral.render_ne_nil n)
    have hdigit : 48 ≤ c.toNat ∧ c.toNat ≤ 57 :=
      Numeral.isDigit_of_mem_render (hrender ▸ List.mem_cons_self)
    have hsame := List.isPrefixOf?_eq_some_iff_append_eq.mp hleft
    rw [hrender] at hsame
    obtain ⟨rfl, -⟩ := List.cons.inj hsame
    revert hdigit
    decide
  change (fixed "No results found for <b>".toList (Numeral.render n ++ rest)).bind _ = none
  rw [hfixed, Option.bind_none]

theorem reads_list (terms : Text) (links : List Link) :
    Reads readList (Numeral.render links.length ++ " result".toList ++
      ((if 1 < links.length then "s found for <b>".toList else " found for <b>".toList) ++
        (Markup.escape terms ++ "</b><p>\r\n\r\n".toList ++
          ("<ul>\r\n".toList ++ (links.flatMap item ++ "</ul>\r\n".toList ++ [])))))
      ⟨terms, links.length, links.map shown⟩ := by
  have hcount : Reads (number " result".toList)
      (Numeral.render links.length ++ " result".toList) links.length := reads_number _ (by decide)
  exact hcount.bind ((reads_fixed _).bind ((reads_terms terms).bind
    ((reads_fixed _).bind ((reads_items links).bind (.pure _)))))

theorem append_pieces (opening count noun more terms middle list items closing : Text) :
    opening ++ count ++ (noun ++ more) ++ terms ++ middle ++ list ++ items ++ closing =
      opening ++ (count ++ noun ++ (more ++ (terms ++ middle ++ (list ++
        (items ++ closing ++ []))))) := by
  simp

/-- Whatever was found, the reader takes the page for it as a whole. -/
theorem reads_results (found : Results) :
    Reads readResults (results found) ⟨found.terms, found.links.length, found.links.map shown⟩ := by
  obtain ⟨terms, links⟩ := found
  by_cases hnone : links = []
  · subst hnone
    exact reads_notice terms
  · have hfound : ¬ links.isEmpty = true := fun h => hnone (List.isEmpty_iff.mp h)
    have hnoun : (if 1 < links.length then " results found for <b>".toList
        else " result found for <b>".toList) = " result".toList ++
        (if 1 < links.length then "s found for <b>".toList else " found for <b>".toList) := by
      split <;> rfl
    rw [results, if_neg hfound]
    unfold summary
    rw [hnoun, append_pieces]
    refine (reads_fixed _).bind (.or_right (fun rest => ?_) (reads_list terms links))
    rw [List.append_assoc, List.append_assoc]
    exact readNotice_render _ _

theorem read?_results (found : Results) :
    read? (results found) = some ⟨found.terms, found.links.length, found.links.map shown⟩ := by
  have hread := reads_results found []
  rw [List.append_nil] at hread
  rw [read?, hread]

/-- An item says all of a result that its line was made of. -/
theorem shown_injective : Function.Injective shown := by
  rintro ⟨href, label, rank⟩ ⟨otherHref, otherLabel, otherRank⟩ hsame
  have hfields := Item.mk.inj hsame
  dsimp only at hfields
  obtain ⟨rfl, rfl, hrank⟩ := hfields
  rw [UInt64.toNat_inj.mp hrank]

end Page

namespace Hit

/-- What an item says of a hit: its rank, and for a document on the web its name, both as label and
as address. A local document is called by its name after the crawled directory, if it begins with
that, and its address is that of a static file. -/
structure ShownAs (crawlRoot : Text) (hit : Hit) (item : Page.Item) : Prop where
  rank : item.rank = hit.rank.toNat
  web : "http://".toList <+: hit.name → item.href = hit.name ∧ item.label = hit.name
  address : ¬ "http://".toList <+: hit.name → item.href = "/static/".toList ++ item.label
  relative : ¬ "http://".toList <+: hit.name →
    hit.name = crawlRoot ++ item.label ∨ ¬ crawlRoot <+: hit.name ∧ item.label = hit.name

theorem link_of_web {hit : Hit} (web : "http://".toList <+: hit.name) (crawlRoot : Text) :
    hit.link crawlRoot = ⟨hit.name, hit.name, hit.rank⟩ := by
  have hsource : hit.source = .web := if_pos (List.isPrefixOf_iff_prefix.mpr web)
  rw [link, hsource]

theorem link_of_not_web {hit : Hit} (here : ¬ "http://".toList <+: hit.name) (crawlRoot : Text) :
    hit.link crawlRoot =
      ⟨staticPrefix ++ hit.relativeName crawlRoot, hit.relativeName crawlRoot, hit.rank⟩ := by
  have hsource : hit.source = .localFile :=
    if_neg fun h => here (List.isPrefixOf_iff_prefix.mp h)
  rw [link, hsource]

theorem relativeName_cases (hit : Hit) (crawlRoot : Text) :
    hit.name = crawlRoot ++ hit.relativeName crawlRoot ∨
      ¬ crawlRoot <+: hit.name ∧ hit.relativeName crawlRoot = hit.name := by
  rw [relativeName]
  by_cases hbegins : crawlRoot <+: hit.name
  · rw [if_pos (List.isPrefixOf_iff_prefix.mpr hbegins)]
    exact Or.inl (List.prefix_iff_eq_append.mp hbegins).symm
  · rw [if_neg (fun h => hbegins (List.isPrefixOf_iff_prefix.mp h))]
    exact Or.inr ⟨hbegins, rfl⟩

theorem shownAs_link (crawlRoot : Text) (hit : Hit) :
    hit.ShownAs crawlRoot (Page.shown (hit.link crawlRoot)) := by
  by_cases hweb : "http://".toList <+: hit.name
  · rw [link_of_web hweb]
    exact ⟨rfl, fun _ => ⟨rfl, rfl⟩, fun here => absurd hweb here, fun here => absurd hweb here⟩
  · rw [link_of_not_web hweb]
    exact ⟨rfl, fun web => absurd web hweb, fun _ => rfl, fun _ => hit.relativeName_cases crawlRoot⟩

end Hit

namespace Page

/-- The page of a search reads as the text that was searched for, the number of its results and one
item for each of them in their order. Pages for different texts or results are different. -/
theorem results_readable :
    (∀ crawlRoot terms hits, ∃ items,
      read? (results ⟨terms, hits.map (Hit.link crawlRoot)⟩) = some ⟨terms, hits.length, items⟩ ∧
        List.Forall₂ (Hit.ShownAs crawlRoot) hits items) ∧
    ∀ found other : Results, results found = results other → found = other := by
  constructor
  · intro crawlRoot terms hits
    refine ⟨(hits.map (Hit.link crawlRoot)).map shown, ?_, ?_⟩
    · rw [read?_results, List.length_map]
    · rw [List.map_map, List.forall₂_map_right_iff, List.forall₂_same]
      exact fun hit _ => hit.shownAs_link crawlRoot
  · rintro ⟨terms, links⟩ ⟨otherTerms, others⟩ hsame
    have hread := congrArg read? hsame
    rw [read?_results, read?_results] at hread
    have hfields := Reading.mk.inj (Option.some.inj hread)
    dsimp only at hfields
    obtain ⟨rfl, -, hlinks⟩ := hfields
    rw [List.map_injective_iff.mpr shown_injective hlinks]

/-- Names and a search text that look like the template, and a text that looks escaped. -/
theorem results_readable_hostile :
    let hits : List Hit := [⟨"http://a\">&lt;</a> [1]<br>".toList, 3⟩,
      ⟨"./</ul>\r\n".toList, 18446744073709551615⟩]
    (∃ items, read? (results ⟨"</b><p>".toList, hits.map (Hit.link "./".toList)⟩) =
        some ⟨"</b><p>".toList, 2, items⟩ ∧ List.Forall₂ (Hit.ShownAs "./".toList) hits items) ∧
      results ⟨"&lt;".toList, []⟩ ≠ results ⟨"<".toList, []⟩ := by
  intro hits
  refine ⟨results_readable.1 "./".toList "</b><p>".toList hits, fun hsame => ?_⟩
  have hfound := results_readable.2 _ _ hsame
  revert hfound
  decide

end Page

end IndexSearch
