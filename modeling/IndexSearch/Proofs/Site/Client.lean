import IndexSearch.Files.CommonTypes
import IndexSearch.Proofs.Http.Lines
import IndexSearch.Proofs.Text.Decimal
import IndexSearch.Site.Answer

/-!
# What a client reads back

A client takes the bytes up to the first blank line for a head, finds the status, the content type
and the length of the body in its lines, and takes that many bytes after it for the body. From
responses that were sent one after the other it so gets back exactly these, whatever their bodies
contain, provided that no content type has a line break. No response of a site has one, if there is
none in the media types that names tell.
-/

namespace IndexSearch

def Status.ofCode? (code : Nat) : Option Status :=
  [Status.ok, .notFound].find? fun status => status.code == code

theorem Status.ofCode?_code (status : Status) : ofCode? status.code = some status := by
  cases status <;> rfl

/-- The value of a header, in the first of some lines that begins with its name. -/
def fieldValue? (name : Text) (lines : List Text) : Option Text :=
  lines.findSome? fun line => (name ++ ": ".toList).isPrefixOf? line

namespace Response

def typeField : Text :=
  "Content-Type".toList

def lengthField : Text :=
  "Content-Length".toList

/-- The response at the front of some bytes, with the bytes after it. -/
def read? (bytes : Bytes) : Option (Response × Bytes) := do
  let (head, rest) ← cutHead? bytes 0
  let lines := (← Utf8.decode? head).splitOnP Request.isLineEnd
  let code ← ((← lines.head?).splitOnP (· == ' '))[1]?
  let status ← Status.ofCode? (← Numeral.parse? 10 code)
  let contentType ← fieldValue? typeField lines
  let length ← Numeral.parse? 10 (← fieldValue? lengthField lines)
  if length ≤ rest.length then
    some (⟨status, contentType, rest.take length⟩, rest.drop length)
  else none

/-- Reading a response takes its head at least. -/
theorem length_of_read? {bytes rest : Bytes} {response : Response}
    (h : read? bytes = some (response, rest)) : rest.length < bytes.length := by
  simp only [read?, Option.bind_eq_bind, Option.bind_eq_some_iff, Prod.exists] at h
  obtain ⟨head, after, hcut, _, _, _, _, _, _, _, _, _, _, _, _, _, _, _, _, hrest⟩ := h
  obtain ⟨rfl, hne⟩ := cutHead?_eq_some hcut
  have hhead := List.length_pos_iff.mpr hne
  split at hrest
  · simp only [Option.some.injEq, Prod.mk.injEq] at hrest
    rw [← hrest.2, List.length_drop, List.length_append]
    omega
  · cases hrest

/-- The responses that a client reads one after the other, with the bytes that it cannot read. -/
def readAll (bytes : Bytes) : List Response × Bytes :=
  match _h : read? bytes with
  | none => ([], bytes)
  | some (response, rest) => (response :: (readAll rest).1, (readAll rest).2)
termination_by bytes.length
decreasing_by all_goals exact length_of_read? _h

theorem readAll_of_read? {bytes rest : Bytes} {response : Response}
    (h : read? bytes = some (response, rest)) :
    readAll bytes = (response :: (readAll rest).1, (readAll rest).2) := by
  rw [readAll]
  split
  · rename_i h'
    rw [h] at h'
    cases h'
  · rename_i h'
    rw [h] at h'
    cases h'
    rfl

def statusLine (response : Response) : Text :=
  "HTTP/1.1 ".toList ++ Numeral.render response.status.code ++ [' '] ++ response.status.reason

def lines (response : Response) : List Text :=
  [response.statusLine, typeField ++ ": ".toList ++ response.contentType,
    lengthField ++ ": ".toList ++ Numeral.render response.body.length]

theorem headOfLines_of_breaks {first second third before between after : Text}
    (hbefore : before = lineBreak ++ second) (hbetween : between = lineBreak ++ third)
    (hafter : after = lineBreak ++ lineBreak) (value other : Text) :
    first ++ before ++ value ++ between ++ other ++ after =
      headOfLines [first, second ++ value, third ++ other] := by
  subst hbefore hbetween hafter
  simp [headOfLines]

theorem head_eq_headOfLines (response : Response) :
    response.head = headOfLines response.lines :=
  headOfLines_of_breaks (by decide) (by decide) (by decide) response.contentType
    (Numeral.render response.body.length)

theorem isLine_render (n : Nat) : Text.IsLine (Numeral.render n) :=
  ⟨Numeral.not_mem_render n (by decide), Numeral.not_mem_render n (by decide)⟩

theorem isLine_statusLine (response : Response) : response.statusLine.IsLine := by
  have hreason : response.status.reason.IsLine := by cases response.status <;> decide
  have hprotocol : Text.IsLine "HTTP/1.1 ".toList := by decide
  have hspace : Text.IsLine [' '] := by decide
  unfold statusLine
  exact Text.isLine_append.mpr ⟨Text.isLine_append.mpr
    ⟨Text.isLine_append.mpr ⟨hprotocol, isLine_render _⟩, hspace⟩, hreason⟩

/-- The lines of a response are not empty and have no line break, if its content type has none. -/
theorem proper_lines {response : Response} (plain : response.contentType.IsLine) :
    ∀ line ∈ response.lines, line ≠ [] ∧ line.IsLine := by
  intro line hmem
  simp only [lines, List.mem_cons, List.not_mem_nil, or_false] at hmem
  rcases hmem with rfl | rfl | rfl
  · exact ⟨List.cons_ne_nil _ _, isLine_statusLine response⟩
  · exact ⟨List.cons_ne_nil _ _, Text.isLine_append.mpr ⟨by decide, plain⟩⟩
  · exact ⟨List.cons_ne_nil _ _, Text.isLine_append.mpr ⟨by decide, isLine_render _⟩⟩

/-- The second word of the first line is the code of the status. -/
theorem splitOnP_statusLine (response : Response) :
    (response.statusLine.splitOnP (· == ' '))[1]? =
      some (Numeral.render response.status.code) := by
  have hdigits : ' ' ∉ Numeral.render response.status.code :=
    Numeral.not_mem_render _ (by decide)
  have hsplit : response.statusLine = "HTTP/1.1".toList ++
      ' ' :: (Numeral.render response.status.code ++ ' ' :: response.status.reason) := by
    have hprotocol : "HTTP/1.1 ".toList = "HTTP/1.1".toList ++ [' '] := by decide
    unfold statusLine
    rw [hprotocol]
    simp
  rw [hsplit, splitOnP_words (by decide) hdigits]

theorem isPrefixOf?_append (text rest : Text) : text.isPrefixOf? (text ++ rest) = some rest := by
  induction text with
  | nil => rfl
  | cons c text ih => simp [List.isPrefixOf?, ih]

theorem fieldValue?_lines (response : Response) (rest : List Text) :
    let lines := response.lines.flatMap (fun line => [line, []]) ++ rest
    fieldValue? typeField lines = some response.contentType ∧
      fieldValue? lengthField lines = some (Numeral.render response.body.length) := by
  -- The lines before the one that is found do not begin with its name.
  constructor
  · exact isPrefixOf?_append (typeField ++ ": ".toList) response.contentType
  · exact isPrefixOf?_append (lengthField ++ ": ".toList) (Numeral.render response.body.length)

/-- A client reads a response back, whatever follows it. -/
theorem read?_render_append {response : Response} (plain : response.contentType.IsLine)
    (rest : Bytes) : read? (response.render ++ rest) = some (response, rest) := by
  have hproper := proper_lines plain
  have hhead : IsHead (Utf8.encode response.head) := by
    rw [head_eq_headOfLines]
    exact isHead_headOfLines (List.cons_ne_nil _ _) hproper
  have hcut : cutHead? (response.render ++ rest) 0 =
      some (Utf8.encode response.head, response.body ++ rest) := by
    rw [render, List.append_assoc]
    exact cutHead?_head_append hhead _
  have hlines : response.head.splitOnP Request.isLineEnd =
      response.lines.flatMap (fun line => [line, []]) ++ [[], [], []] := by
    rw [head_eq_headOfLines]
    exact splitOnP_headOfLines fun line hmem => (hproper line hmem).2
  have hfirst : (response.lines.flatMap (fun line => [line, []]) ++ [[], [], []]).head? =
      some response.statusLine := rfl
  obtain ⟨htype, hlength⟩ := fieldValue?_lines response [[], [], []]
  have hbody : response.body.length ≤ (response.body ++ rest).length := by
    rw [List.length_append]
    exact Nat.le_add_right _ _
  simp only [read?, hcut, Utf8.decode?_encode, hlines, hfirst, splitOnP_statusLine,
    Numeral.parse?_render, Status.ofCode?_code, htype, hlength, Option.bind_eq_bind,
    Option.bind_some, if_pos hbody, List.take_left, List.drop_left]

/-- A client reads all of some responses back, and nothing is left over. -/
theorem readAll_render {responses : List Response}
    (plain : ∀ response ∈ responses, response.contentType.IsLine) :
    readAll (responses.flatMap render) = (responses, []) := by
  induction responses with
  | nil =>
    have hnone : read? [] = none := rfl
    rw [List.flatMap_nil, readAll]
    split
    · rfl
    · rename_i h
      rw [hnone] at h
      cases h
  | cons response responses ih =>
    rw [List.forall_mem_cons] at plain
    rw [List.flatMap_cons, readAll_of_read? (read?_render_append plain.1 _), ih plain.2]

end Response

namespace MediaType

/-- No media type that a name tells has a line break. -/
def Unbroken (types : MediaType) : Prop :=
  ∀ name type, types.ofName? name = some type → type.IsLine

theorem Unbroken.isLine_ofName {types : MediaType} (unbroken : types.Unbroken) (name : Text) :
    (types.ofName name).IsLine := by
  have hplain : plainText.IsLine := by decide
  rw [ofName]
  cases htype : types.ofName? name with
  | none => exact hplain
  | some type => exact unbroken name type htype

theorem unbroken_byExtension : byExtension.Unbroken := by
  have hcommon : ∀ entry ∈ common, Text.IsLine entry.1.toList := by decide +kernel
  intro name type htype
  obtain ⟨extension, _, hfound⟩ := Option.bind_eq_some_iff.mp htype
  obtain ⟨entry, hentry, htold⟩ := Option.bind_eq_some_iff.mp hfound
  cases htold
  exact hcommon entry (List.mem_of_find?_eq_some hentry)

end MediaType

/-- No content type of a site's responses has a line break, if no media type has one. -/
theorem Site.isLine_contentType {site : Site} (unbroken : site.mediaType.Unbroken)
    (request : Request) : (site.answer request).contentType.IsLine := by
  have hhtml : htmlType.IsLine := by decide
  cases hstatic : staticPrefix.isPrefixOf request.path with
  | true =>
    rw [answer_of_static hstatic, fileResponse]
    split
    · exact unbroken.isLine_ofName _
    · exact hhtml
  | false =>
    rw [answer_of_dynamic hstatic]
    exact hhtml

/-- Responses whose content types have no line break can be read back from their bytes, all of them
and in order. The responses of a site are such if its media types have none. -/
theorem Site.responses_decodable :
    (∀ responses : List Response, (∀ response ∈ responses, response.contentType.IsLine) →
        Response.readAll (responses.flatMap Response.render) = (responses, [])) ∧
      ∀ site : Site, site.mediaType.Unbroken →
        ∀ request : Request, (site.answer request).contentType.IsLine :=
  ⟨fun _ plain => Response.readAll_render plain, fun _ => Site.isLine_contentType⟩

/-- Responses whose bodies hold a blank line and another response, and whose content types look
like headers. -/
def Response.nested : List Response :=
  [⟨.ok, "Content-Length: 7".toList, Response.render ⟨.notFound, "text/plain".toList, [1, 2]⟩⟩,
    ⟨.notFound, [], blankLine⟩, ⟨.ok, " text/css".toList, []⟩]

/-- What is inside of a body is not taken for a response. The types of common extensions have no
line breaks, so no site with these types sends any in a content type. -/
theorem Site.responses_decodable_nested :
    (∀ response ∈ Response.nested, response.contentType.IsLine) ∧
      Response.readAll (Response.nested.flatMap Response.render) = (Response.nested, []) ∧
      ∀ (site : Site) (request : Request), site.mediaType = .byExtension →
        (site.answer request).contentType.IsLine := by
  have hplain : ∀ response ∈ Response.nested, response.contentType.IsLine := by
    simp only [Response.nested, List.forall_mem_cons]
    decide
  refine ⟨hplain, Site.responses_decodable.1 Response.nested hplain, ?_⟩
  intro site request hcommon
  have hunbroken : site.mediaType.Unbroken := hcommon ▸ MediaType.unbroken_byExtension
  exact Site.responses_decodable.2 site hunbroken request

end IndexSearch
