import IndexSearch.Files.MediaType
import IndexSearch.Files.StaticRoot
import IndexSearch.Http.Request
import IndexSearch.Http.Response
import IndexSearch.Search.Engine
import IndexSearch.Site.Page
import IndexSearch.Url.Form
import IndexSearch.Url.Resolve

/-!
# Answers

A site answers every request. A path below the static prefix asks for a file; every other path
gets the search page, which shows a search if the path is that of the query page and its query
has the terms.
-/

namespace IndexSearch

/-- What a server offers: static files with their media types, an engine, and the directory that its
documents' names begin with. -/
structure Site where
  root : StaticRoot
  engine : Engine
  crawlRoot : Text
  [mediaType : MediaType]

def queryPath : Text :=
  "/query".toList

def termsField : Text :=
  "terms".toList

/-- The name that a request path asks for below the static prefix, percent-decoded; it is empty if
the path resolves to somewhere else. -/
def staticName (path : Text) : Text :=
  match Target.resolve? path with
  | none => []
  | some target =>
    if staticPrefix.isPrefixOf target.path then
      Percent.decodeText (target.path.drop staticPrefix.length)
    else []

def searchText? (path : Text) : Option Text := do
  let target ← Target.resolve? path
  if target.path = queryPath then Form.value? (← target.query) termsField else none

def shownTerms (text : Text) : Text :=
  Text.lower (Text.trim text)

namespace Site

def fileResponse (site : Site) (name : Text) : Response :=
  match site.root.read? name with
  | some contents => ⟨.ok, site.mediaType.ofName name, contents⟩
  | none => ⟨.notFound, htmlType, Utf8.encode (Page.missing name)⟩

/-- The hits of a search text. A text without words has none, and neither has a search that a
shard gave up on. -/
def hitsBy (text : Text) (search : Search) : List Hit :=
  let words := (shownTerms text).words
  if words.isEmpty then []
  else
    match search words with
    | .ok hits => hits
    | .error _ => []

def hits (site : Site) (text : Text) : List Hit :=
  hitsBy text site.engine.search

def results (site : Site) (text : Text) (hits : List Hit) : Results :=
  ⟨shownTerms text, hits.map (Hit.link site.crawlRoot)⟩

/-- The response to a request, by a given way to search. -/
def answerBy (site : Site) (request : Request) (search : Search) : Response :=
  if staticPrefix.isPrefixOf request.path then site.fileResponse (staticName request.path)
  else
    let found := (searchText? request.path).map fun text => site.results text (hitsBy text search)
    ⟨.ok, htmlType, Utf8.encode (Page.search found)⟩

def answer (site : Site) (request : Request) : Response :=
  site.answerBy request site.engine.search

section

variable {site : Site} {request : Request}

theorem answer_of_static (static : staticPrefix.isPrefixOf request.path = true) :
    site.answer request = site.fileResponse (staticName request.path) :=
  if_pos static

theorem answer_of_dynamic (dynamic : staticPrefix.isPrefixOf request.path = false) :
    site.answer request = ⟨.ok, htmlType, Utf8.encode (Page.search
      ((searchText? request.path).map fun text => site.results text (site.hits text)))⟩ :=
  if_neg (dynamic ▸ Bool.false_ne_true)

end

end Site

end IndexSearch
