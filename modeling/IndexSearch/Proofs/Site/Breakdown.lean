import IndexSearch.Files.CommonTypes
import IndexSearch.Proofs.Files.Reading
import IndexSearch.Proofs.Site.Client
import IndexSearch.Proofs.Site.Serving
import IndexSearch.Proofs.Steps

/-!
# Shards that give up

A shard that gives up on every term makes every search fail, whatever the other shards found
before. That failure is turned into a search without hits at the one place where a page asks for
them, so a connection goes as it would with shards that know no term: the same bytes are written,
the same requests follow, and it is left in the same state.
-/

namespace IndexSearch

namespace Reader

/-- A reader that gives up, for whatever cause, on every term. -/
def GivesUp (reader : Reader) : Prop :=
  ∀ term, ∃ cause, reader.postings term = .error cause

/-- A reader that has never seen any term. -/
def KnowsNoTerm (reader : Reader) : Prop :=
  ∀ term, reader.postings term = .ok none

theorem givesUp_failing (message : Text) : (failing message).GivesUp :=
  fun _ => ⟨.reader message, rfl⟩

theorem exists_hits_error {reader : Reader} (broken : reader.GivesUp) (first : Text)
    (others : List Text) : ∃ cause, reader.hits first others = .error cause := by
  obtain ⟨cause, hcause⟩ := broken first
  exact ⟨cause, by simp [hits, candidates, hcause, bind, Except.bind]⟩

theorem hits_of_knowsNoTerm {reader : Reader} (quiet : reader.KnowsNoTerm) (first : Text)
    (others : List Text) : reader.hits first others = .ok [] := by
  simp [hits, candidates, quiet first, MatchList.empty, bind, Except.bind]

end Reader

namespace Engine

/-- The readers are searched up to one that gives up. What those before it found is lost. -/
theorem exists_search_error {engine : Engine} (broken : ∃ reader ∈ engine.readers, reader.GivesUp)
    (terms : List Text) : ∃ cause, engine.search terms = .error cause := by
  cases terms with
  | nil => exact ⟨.noTerms, rfl⟩
  | cons first others =>
    have hfails : ∃ reader ∈ engine.readers, ∃ cause, reader.hits first others = .error cause := by
      obtain ⟨reader, hmem, hbroken⟩ := broken
      exact ⟨reader, hmem, Reader.exists_hits_error hbroken first others⟩
    obtain ⟨cause, hcause⟩ := exists_mapM_eq_error hfails
    exact ⟨cause, by simp [search, hcause, bind, Except.bind]⟩

theorem search_of_knowsNoTerm {engine : Engine}
    (quiet : ∀ reader ∈ engine.readers, reader.KnowsNoTerm) {terms : List Text}
    (nonempty : terms ≠ []) : engine.search terms = .ok [] := by
  obtain ⟨first, others, rfl⟩ := List.exists_cons_of_ne_nil nonempty
  have hhits : engine.readers.mapM (fun reader => reader.hits first others) =
      .ok (engine.readers.map fun _ => []) :=
    mapM_eq_ok_map fun reader hmem => Reader.hits_of_knowsNoTerm (quiet reader hmem) first others
  have hnothing : (engine.readers.map fun _ => ([] : List Hit)).flatten = [] := by simp
  simp only [search, hhits, bind, Except.bind, hnothing, Hit.sort, List.mergeSort_nil]

end Engine

namespace Site

theorem hits_of_givesUp {site : Site} (broken : ∃ reader ∈ site.engine.readers, reader.GivesUp)
    (text : Text) : site.hits text = [] := by
  obtain ⟨cause, hcause⟩ := Engine.exists_search_error broken (shownTerms text).words
  simp [hits, hitsBy, hcause]

theorem hits_of_knowsNoTerm {site : Site}
    (quiet : ∀ reader ∈ site.engine.readers, reader.KnowsNoTerm) (text : Text) :
    site.hits text = [] := by
  by_cases hwords : (shownTerms text).words = []
  · simp [hits, hitsBy, hwords]
  · simp [hits, hitsBy, Engine.search_of_knowsNoTerm quiet hwords]

/-- A page that shows a search without hits has the notice in the place of a list. -/
theorem answer_of_no_hits {site : Site} {request : Request} {text : Text}
    (nothing : site.hits text = []) (dynamic : staticPrefix.isPrefixOf request.path = false)
    (asked : searchText? request.path = some text) :
    site.answer request = ⟨.ok, htmlType,
      Utf8.encode (Page.opening ++ Page.notice (shownTerms text) ++ Page.closing)⟩ := by
  have hpage : Page.search (some (site.results text (site.hits text))) =
      Page.opening ++ Page.notice (shownTerms text) ++ Page.closing := by
    simp [Page.search, Page.results, results, nothing]
  rw [answer_of_dynamic dynamic, asked, Option.map_some, hpage]

/-- Two sites that a client cannot tell apart: their files are the same and have the same types, and
every search text has the same hits, which are linked to in the same way. -/
structure Alike (site other : Site) : Prop where
  root : site.root = other.root
  crawlRoot : site.crawlRoot = other.crawlRoot
  mediaType : site.mediaType = other.mediaType
  hits : ∀ text, site.hits text = other.hits text

namespace Alike

variable {site other : Site} (alike : site.Alike other)

include alike

theorem answer (request : Request) : site.answer request = other.answer request := by
  have hfile : site.fileResponse = other.fileResponse := by
    funext name
    rw [fileResponse, fileResponse, alike.root, alike.mediaType]
  have hresults (text : Text) :
      site.results text (site.hits text) = other.results text (other.hits text) := by
    rw [results, results, alike.hits, alike.crawlRoot]
  cases hstatic : staticPrefix.isPrefixOf request.path with
  | true => rw [answer_of_static hstatic, answer_of_static hstatic, hfile]
  | false => simp only [answer_of_dynamic hstatic, hresults]

theorem exchange (policy : ClosePolicy) (connection : Connection) :
    site.exchange policy connection = other.exchange policy connection := by
  simp only [Site.exchange, alike.answer]

/-- Every exchange goes the same way on both sites, so serving a connection does. -/
theorem serve (policy : ClosePolicy) (connection : Connection) :
    site.serve policy connection = other.serve policy connection := by
  fun_induction Site.serve site policy connection with
  | case1 connection after exchanged =>
    rw [alike.exchange] at exchanged
    rw [serve_of_exchange_false exchanged]
  | case2 connection after exchanged ih =>
    rw [alike.exchange] at exchanged
    rw [ih, serve_of_exchange_true exchanged]

end Alike

theorem alike_of_givesUp {site : Site} (broken : ∃ reader ∈ site.engine.readers, reader.GivesUp)
    {engine : Engine} (quiet : ∀ reader ∈ engine.readers, reader.KnowsNoTerm) :
    site.Alike { site with engine } where
  root := rfl
  crawlRoot := rfl
  mediaType := rfl
  hits text := by
    have hquiet : ∀ reader ∈ ({ site with engine } : Site).engine.readers, reader.KnowsNoTerm :=
      quiet
    rw [hits_of_givesUp broken, hits_of_knowsNoTerm hquiet]

/-- Where one of the shards gives up, no search succeeds and every page that shows one has the
notice that nothing was found. Serving any stream ends all the same, with the connection that
shards without terms would have left. What is written are the responses to the requests, in order
and as far as the limit lets them through, and a client reads each of them back if no media type has
a line break. -/
theorem serve_breakdown {site : Site} (broken : ∃ reader ∈ site.engine.readers, reader.GivesUp) :
    (∀ terms, ∃ cause, site.engine.search terms = .error cause) ∧
    (∀ request text, staticPrefix.isPrefixOf request.path = false →
      searchText? request.path = some text →
        site.answer request = ⟨.ok, htmlType,
          Utf8.encode (Page.opening ++ Page.notice (shownTerms text) ++ Page.closing)⟩) ∧
    ∀ (policy : ClosePolicy) (stream : Stream),
      let start : Connection := ⟨stream, []⟩
      let requests :=
        policy.answered ((headsOf (Stream.delivered stream.incoming)).map Request.ofHead)
      (∃ later, site.Reaches policy start later ∧
          site.exchange policy later = (false, site.serve policy start)) ∧
        (∀ engine : Engine, (∀ reader ∈ engine.readers, reader.KnowsNoTerm) →
          site.serve policy start = { site with engine }.serve policy start) ∧
        (stream.written = [] → stream.writeChunk ≠ some 0 →
          (site.serve policy start).stream.written =
              Stream.capped stream.writeLimit (site.respondAll requests) ∧
            (site.mediaType.Unbroken → Response.readAll (site.respondAll requests) = (requests.map site.answer, []))) := by
  refine ⟨Engine.exists_search_error broken, ?_, ?_⟩
  · intro request text dynamic asked
    exact answer_of_no_hits (hits_of_givesUp broken text) dynamic asked
  · intro policy stream start requests
    refine ⟨serve_ends site policy start, ?_, ?_⟩
    · intro engine quiet
      exact (alike_of_givesUp broken quiet).serve policy start
    · intro unwritten moves
      have hwritable : start.Writable := by
        refine ⟨moves, fun most _ => ?_⟩
        rw [show start.stream.written = [] from unwritten]
        exact Nat.zero_le most
      have hsent : site.sent policy start =
          Stream.capped stream.writeLimit (site.respondAll requests) := by
        rw [sent, show start.stream.written = [] from unwritten]
        rfl
      have hrender : site.respondAll requests =
          (requests.map site.answer).flatMap Response.render :=
        (List.flatMap_map site.answer Response.render requests).symm
      constructor
      · rw [serve_sent hwritable, hsent]
      · intro unbroken
        rw [hrender]
        refine Response.readAll_render ?_
        rintro response hresponse
        obtain ⟨request, _, rfl⟩ := List.mem_map.mp hresponse
        exact isLine_contentType unbroken request

/-- A site with a broken shard between two that know the term `cat`. -/
def fractured : Site where
  root := ⟨.ofEntries [] [], []⟩
  engine := ⟨[
    .ofShard (Shard.ofEntries {
      terms := [("cat".toList, [⟨1, 2⟩])], docs := [(1, "./a.txt".toList)] }),
    .failing "disk gone".toList,
    .ofShard (Shard.ofEntries {
      terms := [("cat".toList, [⟨7, 1⟩])], docs := [(7, "./b.txt".toList)] })],
    List.cons_ne_nil _ _⟩
  crawlRoot := "./".toList
  mediaType := .byExtension

/-- A search, a request for a file that is missing and the same search again, one behind the other
on a stream that takes five bytes at a time. -/
def pipelined : Stream where
  incoming := [.bytes (Utf8.encode "GET /query?terms=cat\r\n\r\nGET /static/b.".toList),
    .bytes (Utf8.encode "txt\r\n\r\nGET /query?terms=cat\r\nConnection: close\r\n\r\n".toList)]
  writeChunk := some 5

/-- All three are answered, the searches with the notice, as they are without any shard that knows
the term. -/
theorem serve_breakdown_pipelined :
    (∃ reader ∈ fractured.engine.readers, reader.GivesUp) ∧
      (fractured.serve .respondThenClose ⟨pipelined, []⟩).stream.written =
        ({ fractured with engine := bare.engine }.serve .respondThenClose
          ⟨pipelined, []⟩).stream.written ∧
      ∃ search missing : Response,
        Response.readAll (fractured.serve .respondThenClose ⟨pipelined, []⟩).stream.written =
            ([search, missing, search], []) ∧
          search = ⟨.ok, htmlType,
            Utf8.encode (Page.opening ++ Page.notice "cat".toList ++ Page.closing)⟩ ∧
          missing = ⟨.notFound, htmlType, Utf8.encode (Page.missing "b.txt".toList)⟩ := by
  have broken : ∃ reader ∈ fractured.engine.readers, reader.GivesUp :=
    ⟨.failing "disk gone".toList, by simp [fractured], Reader.givesUp_failing _⟩
  have quiet : ∀ reader ∈ bare.engine.readers, reader.KnowsNoTerm := by
    intro reader hreader
    rw [List.mem_singleton.mp hreader]
    exact fun _ => rfl
  obtain ⟨_, hpage, hserve⟩ := serve_breakdown broken
  obtain ⟨_, hsame, hwritten⟩ := hserve .respondThenClose pipelined
  obtain ⟨hbytes, hread⟩ := hwritten rfl (by decide)
  have hrequests : ClosePolicy.respondThenClose.answered
      ((headsOf (Stream.delivered pipelined.incoming)).map Request.ofHead) =
        [.ofPath "/query?terms=cat".toList, .ofPath "/static/b.txt".toList,
          (Request.ofPath "/query?terms=cat".toList).addHeader "connection".toList
            "close".toList] := by decide +kernel
  have hasked : searchText? "/query?terms=cat".toList = some "cat".toList := by decide +kernel
  have hshown : shownTerms "cat".toList = "cat".toList := by decide +kernel
  have hdynamic : staticPrefix.isPrefixOf "/query?terms=cat".toList = false := by decide
  have hmissing : fractured.answer (.ofPath "/static/b.txt".toList) =
      ⟨.notFound, htmlType, Utf8.encode (Page.missing "b.txt".toList)⟩ := by
    have hname : staticName "/static/b.txt".toList = "b.txt".toList := by decide +kernel
    have hfile : fractured.root.read? "b.txt".toList = none := StaticRoot.read?_of_empty _ _
    rw [answer_of_static (by decide), Request.ofPath, hname, fileResponse, hfile]
  have hwhole : (fractured.serve .respondThenClose ⟨pipelined, []⟩).stream.written =
      fractured.respondAll (ClosePolicy.respondThenClose.answered
        ((headsOf (Stream.delivered pipelined.incoming)).map Request.ofHead)) := hbytes
  have hpages : ∀ request : Request, request.path = "/query?terms=cat".toList →
      fractured.answer request = ⟨.ok, htmlType,
        Utf8.encode (Page.opening ++ Page.notice "cat".toList ++ Page.closing)⟩ := by
    intro request hpath
    rw [hpage request "cat".toList (by rw [hpath, hdynamic]) (by rw [hpath, hasked]), hshown]
  refine ⟨broken, by rw [hsame bare.engine quiet], _, _, ?_, rfl, rfl⟩
  rw [hwhole, hread MediaType.unbroken_byExtension, hrequests]
  simp only [List.map_cons, List.map_nil]
  rw [hmissing, hpages _ rfl, hpages _ rfl]

end Site

end IndexSearch
