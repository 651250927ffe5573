import IndexSearch.Proofs.Http.Framing
import IndexSearch.Proofs.Http.Lines
import IndexSearch.Proofs.Table
import Mathlib.Data.List.TakeWhile

/-!
# Reading requests back

A client writes a request as a line with its path and a line for each header. From requests that
are written one after the other a connection reads exactly these, in whatever pieces their bytes
arrive. Of headers whose names are the same once they are trimmed and lower-cased, the last counts.
-/

namespace IndexSearch

namespace Request

theorem ne_colon_of_mem {c : Char} {name : Text} (h : ':' ∉ name) (hc : c ∈ name) :
    decide (c ≠ ':') = true :=
  decide_eq_true fun heq => h (heq ▸ hc)

theorem cutHeader?_of_not_mem {line : Text} (h : ':' ∉ line) : cutHeader? line = none := by
  have hspan : line.span (· ≠ ':') = (line, []) := by
    rw [List.span_eq_takeWhile_dropWhile,
      List.takeWhile_eq_self_iff.mpr fun _ => ne_colon_of_mem h,
      List.dropWhile_eq_nil_iff.mpr fun _ => ne_colon_of_mem h]
  simp only [cutHeader?, hspan]

theorem cutHeader?_append {name : Text} (h : ':' ∉ name) (value : Text) :
    cutHeader? (name ++ ':' :: value) =
      if name = [] ∨ value = [] then none else some (name, value) := by
  have hspan : (name ++ ':' :: value).span (· ≠ ':') = (name, ':' :: value) := by
    rw [List.span_eq_takeWhile_dropWhile,
      List.takeWhile_append_of_pos fun _ => ne_colon_of_mem h,
      List.dropWhile_append_of_pos fun _ => ne_colon_of_mem h]
    simp
  simp only [cutHeader?, hspan, Bool.or_eq_true, List.isEmpty_iff]

end Request

structure HeaderLine where
  name : Text
  value : Text
  name_ne_nil : name ≠ []
  colon_not_mem : ':' ∉ name
  name_isLine : name.IsLine
  value_isLine : value.IsLine

/-- A request as a client writes it. Header names may repeat. -/
structure Draft where
  path : Text
  headers : List HeaderLine
  space_not_mem : ' ' ∉ path
  path_isLine : path.IsLine

namespace HeaderLine

def line (header : HeaderLine) : Text :=
  header.name ++ ": ".toList ++ header.value

def entry (header : HeaderLine) : Text × Text :=
  (Request.normaliseName header.name, Text.trim header.value)

theorem line_proper (header : HeaderLine) : header.line ≠ [] ∧ header.line.IsLine := by
  constructor
  · exact List.append_ne_nil_of_left_ne_nil
      (List.append_ne_nil_of_left_ne_nil header.name_ne_nil _) _
  · have hcolon : Text.IsLine ": ".toList := by decide
    exact Text.isLine_append.mpr
      ⟨Text.isLine_append.mpr ⟨header.name_isLine, hcolon⟩, header.value_isLine⟩

theorem cutHeader?_line (header : HeaderLine) :
    Request.cutHeader? header.line = some (header.name, ' ' :: header.value) := by
  have hline : header.line = header.name ++ ':' :: ' ' :: header.value := by simp [line]
  have hsides : ¬ (header.name = [] ∨ ' ' :: header.value = []) := by
    simp [header.name_ne_nil]
  rw [hline, Request.cutHeader?_append header.colon_not_mem, if_neg hsides]

theorem trim_cons_space (value : Text) : Text.trim (' ' :: value) = Text.trim value := by
  have hblank : Text.isBlank ' ' = true := by decide
  simp [Text.trim, hblank]

end HeaderLine

namespace Draft

def requestLine (draft : Draft) : Text :=
  "GET ".toList ++ draft.path ++ " HTTP/1.1".toList

def text (draft : Draft) : Text :=
  headOfLines (draft.requestLine :: draft.headers.map HeaderLine.line)

def value? (draft : Draft) (name : Text) : Option Text :=
  lastValue? (draft.headers.map HeaderLine.entry) name

structure ReadsAs (draft : Draft) (request : Request) : Prop where
  path : request.path = draft.path
  header : ∀ name, request.header? name = draft.value? name
  close : request.wantsClose = true ↔ draft.value? "connection".toList = some "close".toList

theorem requestLine_proper (draft : Draft) :
    draft.requestLine ≠ [] ∧ draft.requestLine.IsLine := by
  have hget : Text.IsLine "GET ".toList := by decide
  have hprotocol : Text.IsLine " HTTP/1.1".toList := by decide
  exact ⟨List.cons_ne_nil _ _, Text.isLine_append.mpr
    ⟨Text.isLine_append.mpr ⟨hget, draft.path_isLine⟩, hprotocol⟩⟩

theorem lines_proper (draft : Draft) :
    ∀ line ∈ draft.requestLine :: draft.headers.map HeaderLine.line, line ≠ [] ∧ line.IsLine := by
  rw [List.forall_mem_cons]
  refine ⟨draft.requestLine_proper, fun line hmem => ?_⟩
  obtain ⟨header, _, rfl⟩ := List.mem_map.mp hmem
  exact header.line_proper

theorem isHead_text (draft : Draft) : IsHead (Utf8.encode draft.text) :=
  isHead_headOfLines (List.cons_ne_nil _ _) draft.lines_proper

theorem pathOfLine_requestLine (draft : Draft) :
    Request.pathOfLine draft.requestLine = draft.path := by
  have hline : draft.requestLine =
      "GET".toList ++ ' ' :: (draft.path ++ ' ' :: "HTTP/1.1".toList) := by
    have hget : "GET ".toList = "GET".toList ++ [' '] := by decide
    have hprotocol : " HTTP/1.1".toList = ' ' :: "HTTP/1.1".toList := by decide
    unfold requestLine
    rw [hget, hprotocol]
    simp
  rw [Request.pathOfLine, hline, splitOnP_words (by decide) draft.space_not_mem, Option.getD_some]

/-- The empty texts between line ends are no headers. -/
theorem filterMap_cutHeader? (lines : List Text) :
    ([] :: (lines.flatMap (fun line => [line, []]) ++ [[], [], []])).filterMap
      Request.cutHeader? = lines.filterMap Request.cutHeader? := by
  have hempty : Request.cutHeader? [] = none := rfl
  rw [List.filterMap_cons_none hempty]
  induction lines with
  | nil => rfl
  | cons line lines ih =>
    cases hline : Request.cutHeader? line with
    | none => simpa [hline, hempty] using ih
    | some header => simpa [hline, hempty] using ih

theorem parse_text (draft : Draft) :
    Request.parse draft.text = (draft.headers.map fun header =>
      (header.name, ' ' :: header.value)).foldl
        (fun request header => request.addHeader header.1 header.2) (.ofPath draft.path) := by
  have hheaders : (draft.headers.map HeaderLine.line).filterMap Request.cutHeader? =
      draft.headers.map fun header => (header.name, ' ' :: header.value) := by
    rw [List.filterMap_map]
    exact List.filterMap_eq_map_iff_forall_eq_some.mpr fun header _ => header.cutHeader?_line
  rw [Request.parse, text, splitOnP_headOfLines fun line hmem => (draft.lines_proper line hmem).2,
    List.flatMap_cons]
  simp only [List.cons_append, List.nil_append]
  rw [filterMap_cutHeader?, hheaders, pathOfLine_requestLine]

end Draft

namespace Request

theorem foldl_addHeader (request : Request) (headers : List (Text × Text)) :
    headers.foldl (fun request header => request.addHeader header.1 header.2) request =
      ⟨request.path, headers.foldl
        (fun table header => table.insert (normaliseName header.1) (Text.trim header.2))
        request.headers⟩ := by
  induction headers generalizing request with
  | nil => rfl
  | cons header headers ih => rw [List.foldl_cons, ih]; rfl

end Request

namespace Draft

theorem parse_text_eq (draft : Draft) :
    Request.parse draft.text = ⟨draft.path, .ofList (draft.headers.map HeaderLine.entry)⟩ := by
  rw [parse_text, Request.foldl_addHeader, Table.ofList, List.foldl_map, List.foldl_map]
  simp only [HeaderLine.trim_cons_space]
  rfl

/-- Parsing the text of a draft gives its path and its headers. -/
theorem readsAs_parse_text (draft : Draft) : draft.ReadsAs (Request.parse draft.text) := by
  have hheader : ∀ name, (Request.parse draft.text).header? name = draft.value? name := by
    intro name
    rw [parse_text_eq]
    exact Table.get?_ofList _ name
  refine ⟨by rw [parse_text_eq], hheader, ?_⟩
  rw [Request.wantsClose, hheader, beq_iff_eq]

end Draft

namespace Stream

/-- No read of a stream fails or comes back empty before its end. -/
def Flows (stream : Stream) : Prop :=
  ∀ arrival ∈ stream.incoming, arrival.content ≠ []

/-- Reading from such a stream fails only to find more at its end, and leaves such a stream. -/
theorem read_of_flows {stream : Stream} {size : Nat} (flows : stream.Flows) (positive : 0 < size) :
    (stream.unread = [] ∧ stream.read size = (.ok [], stream)) ∨
      ∃ content after, stream.read size = (.ok content, after) ∧ content ≠ [] ∧ after.Flows := by
  rw [read]
  split
  · rename_i hincoming
    exact Or.inl ⟨by simp [unread, hincoming], rfl⟩
  · rename_i fault rest hincoming
    have hcontent := flows (.failure fault) (by simp [hincoming])
    exact False.elim (hcontent rfl)
  · rename_i held rest hincoming
    rw [Flows, hincoming, List.forall_mem_cons] at flows
    obtain ⟨hheld, hrest⟩ := flows
    refine Or.inr ?_
    split
    · exact ⟨held, _, rfl, hheld, hrest⟩
    · rename_i hlong
      refine ⟨_, _, rfl, ?_, ?_⟩
      · simp only [ne_eq, List.take_eq_nil_iff, not_or]
        exact ⟨Nat.ne_of_gt positive, hheld⟩
      · rw [Flows, List.forall_mem_cons]
        exact ⟨by simpa [Arrival.content] using hlong, hrest⟩

end Stream

namespace Connection

/-- On a stream without failures a call fails only at the end. -/
theorem nextHeadFrom_of_flows (connection : Connection) (scanned : Nat)
    (flows : connection.stream.Flows) :
    (connection.nextHeadFrom scanned).2.stream.Flows ∧
      ∀ fault, (connection.nextHeadFrom scanned).1 = .error fault →
        fault = .closed ∧ (connection.nextHeadFrom scanned).2.stream.unread = [] := by
  fun_induction nextHeadFrom connection scanned with
  | case1 connection scanned head buffer hcut => exact ⟨flows, fun _ h => by cases h⟩
  | case2 connection scanned hcut fault stream hread =>
    rcases Stream.read_of_flows flows (show 0 < readSize by decide) with
      ⟨_, hend⟩ | ⟨_, _, hmore, _⟩
    · rw [hread] at hend; cases hend
    · rw [hread] at hmore; cases hmore
  | case3 connection scanned hcut stream hread =>
    rcases Stream.read_of_flows flows (show 0 < readSize by decide) with
      ⟨hunread, hend⟩ | ⟨_, _, hmore, hne, _⟩
    · rw [hread] at hend
      cases hend
      exact ⟨flows, fun _ h => by cases h; exact ⟨rfl, hunread⟩⟩
    · rw [hread] at hmore
      cases hmore
      exact False.elim (hne rfl)
  | case4 connection scanned hcut content stream hread nonempty ih =>
    rcases Stream.read_of_flows flows (show 0 < readSize by decide) with
      ⟨_, hend⟩ | ⟨_, _, hmore, _, hafter⟩
    · rw [hread] at hend
      cases hend
      exact False.elim (nonempty rfl)
    · rw [hread] at hmore
      cases hmore
      exact ih hafter

/-- The head at the front of what is left is the next one. -/
theorem nextHead_of_flows {connection : Connection} {head more : Bytes}
    (flows : connection.stream.Flows) (isHead : IsHead head)
    (rest : connection.rest = head ++ more) :
    ∃ after, connection.nextHead = (.ok head, after) ∧ after.stream.Flows ∧ after.rest = more := by
  have hflows := nextHeadFrom_of_flows connection 0 flows
  have hframed := nextHead_framed connection
  obtain ⟨hrest, hheads⟩ := hframed.rest
  rw [rest, headsOf_append isHead] at hheads
  rw [← nextHead] at hflows
  generalize connection.nextHead = result at hflows hframed hrest hheads ⊢
  obtain ⟨outcome, after⟩ := result
  cases outcome with
  | ok found =>
    obtain rfl : head = found := (List.cons.inj hheads).1
    refine ⟨after, rfl, hflows.1, ?_⟩
    rw [rest] at hrest
    exact (List.append_cancel_left (hrest.trans (by simp [Except.toOption]))).symm
  | error fault =>
    -- All bytes have been read then, and the head is among them.
    obtain ⟨_, hunread⟩ := hflows.2 fault rfl
    cases hframed with
    | failure _ unfinished reads =>
      have hall : connection.buffer ++ connection.stream.unread = head ++ more := rest
      rw [reads.unread, hunread, List.append_nil] at hall
      rw [hall] at unfinished
      exact False.elim (unfinished (List.infix_append_of_infix_left isHead.1.isInfix))

theorem nextHead_of_rest_nil {connection : Connection} (flows : connection.stream.Flows)
    (rest : connection.rest = []) :
    ∃ after, connection.nextHead = (.error .closed, after) ∧ after.buffer = [] := by
  have hflows := nextHeadFrom_of_flows connection 0 flows
  have hframed := nextHead_framed connection
  have hrest := hframed.rest.1
  rw [← nextHead] at hflows
  generalize connection.nextHead = result at hflows hframed hrest ⊢
  obtain ⟨outcome, after⟩ := result
  cases hframed with
  | head isHead =>
    rw [rest] at hrest
    have hnil := (List.append_eq_nil_iff.mp hrest.symm).1
    exact False.elim (isHead.ne_nil (by simpa [Except.toOption] using hnil))
  | failure fault _ _ =>
    obtain ⟨rfl, _⟩ := hflows.2 fault rfl
    refine ⟨_, rfl, ?_⟩
    rw [rest] at hrest
    have hafter := (List.append_eq_nil_iff.mp hrest.symm).2
    exact (List.append_eq_nil_iff.mp hafter).1

/-- What some calls for the next request return, one after the other, and the connection after
them. -/
def nextRequests (connection : Connection) :
    Nat → List (Except ConnectionFault Request) × Connection
  | 0 => ([], connection)
  | count + 1 =>
    let (outcome, connection) := connection.nextRequest
    let (others, connection) := connection.nextRequests count
    (outcome :: others, connection)

theorem nextRequests_drafts (drafts : List Draft) {connection : Connection}
    (flows : connection.stream.Flows)
    (rest : connection.rest = Utf8.encode (drafts.flatMap Draft.text)) :
    ∃ requests after, connection.nextRequests (drafts.length + 1) =
        (requests.map .ok ++ [.error .closed], after) ∧
      after.buffer = [] ∧ List.Forall₂ Draft.ReadsAs drafts requests := by
  induction drafts generalizing connection with
  | nil =>
    obtain ⟨after, hnext, hbuffer⟩ := nextHead_of_rest_nil flows rest
    refine ⟨[], after, ?_, hbuffer, .nil⟩
    simp [nextRequests, nextRequest_eq, hnext, Except.map]
  | cons draft drafts ih =>
    rw [List.flatMap_cons, Utf8.encode_append] at rest
    obtain ⟨next, hnext, hflows, hrest⟩ := nextHead_of_flows flows draft.isHead_text rest
    obtain ⟨requests, after, hrequests, hbuffer, hread⟩ := ih hflows hrest
    refine ⟨Request.parse draft.text :: requests, after, ?_, hbuffer,
      .cons draft.readsAs_parse_text hread⟩
    rw [List.length_cons, nextRequests, nextRequest_eq, hnext]
    simp [hrequests, Except.map, Request.ofHead, Utf8.decodeLossy_encode]

/-- Requests that are sent one after the other are read back in order, however their bytes are cut
into pieces, and the connection is closed after the last one with nothing in its buffer. -/
theorem nextRequests_pieces (drafts : List Draft) (pieces : List Bytes) (stream : Stream)
    (nonempty : ∀ piece ∈ pieces, piece ≠ [])
    (sent : pieces.flatten = Utf8.encode (drafts.flatMap Draft.text))
    (incoming : stream.incoming = pieces.map .bytes) :
    ∃ requests after, (⟨stream, []⟩ : Connection).nextRequests (drafts.length + 1) =
        (requests.map .ok ++ [.error .closed], after) ∧
      after.buffer = [] ∧ List.Forall₂ Draft.ReadsAs drafts requests := by
  refine nextRequests_drafts drafts ?_ ?_
  · intro arrival hmem
    simp only [incoming] at hmem
    obtain ⟨piece, hpiece, rfl⟩ := List.mem_map.mp hmem
    exact nonempty piece hpiece
  · rw [rest, List.nil_append, Stream.unread, incoming, List.flatMap_map, ← sent]
    exact List.flatMap_id

/-- A request that repeats a header in another spelling, and one for an empty path. -/
def repeating : List Draft := [
  { path := "/é".toList
    headers := [
      ⟨"Connection".toList, "keep-alive".toList, by decide, by decide, by decide, by decide⟩,
      ⟨" CONNECTION".toList, "\tclose ".toList, by decide, by decide, by decide, by decide⟩]
    space_not_mem := by decide
    path_isLine := by decide },
  { path := [], headers := [], space_not_mem := by decide, path_isLine := by decide }]

/-- The bytes arrive one at a time, so that a character is cut too. -/
theorem nextRequests_pieces_bytewise :
    let bytes := Utf8.encode (repeating.flatMap Draft.text)
    (∀ piece ∈ bytes.map fun b => [b], piece ≠ []) ∧
      ∃ first second after, (⟨{ incoming := bytes.map fun b => .bytes [b] }, []⟩ :
          Connection).nextRequests 3 = ([.ok first, .ok second, .error .closed], after) ∧
        first.path = "/é".toList ∧ first.wantsClose = true ∧ second.path = [] ∧
          after.buffer = [] := by
  intro bytes
  have hnonempty : ∀ piece ∈ bytes.map fun b => [b], piece ≠ [] := by
    intro piece hmem
    obtain ⟨b, _, rfl⟩ := List.mem_map.mp hmem
    exact List.cons_ne_nil _ _
  have hsent : (bytes.map fun b => [b]).flatten = bytes := by
    rw [← List.flatMap_def, List.flatMap_singleton']
  obtain ⟨requests, after, hrequests, hbuffer, hread⟩ :=
    nextRequests_pieces repeating (bytes.map fun b => [b])
      { incoming := bytes.map fun b => .bytes [b] } hnonempty hsent (by simp)
  obtain ⟨first, _, hfirst, hothers, rfl⟩ := List.forall₂_cons_left_iff.mp hread
  obtain ⟨second, _, hsecond, hnone, rfl⟩ := List.forall₂_cons_left_iff.mp hothers
  obtain rfl := List.forall₂_nil_left_iff.mp hnone
  exact ⟨hnonempty, first, second, after, hrequests, hfirst.path,
    hfirst.close.mpr (by decide +kernel), hsecond.path, hbuffer⟩

end Connection

end IndexSearch
