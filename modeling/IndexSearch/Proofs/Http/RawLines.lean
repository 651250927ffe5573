import IndexSearch.Proofs.Http.Requests
import IndexSearch.Proofs.Text.Delimiters

/-!
# Heads line by line

A head is read as bytes here. It is cut into lines at every carriage return and every line feed,
and each line is decoded by itself: the first one has the path, and every other one sets a header
or nothing. Decoding the whole head and cutting its text comes to the same, so bytes that are no
text do not reach beyond their line, and neither does anything else in it.
-/

namespace IndexSearch

namespace RawLine

/-- A line ends at every carriage return and at every line feed. -/
def isEnd (b : UInt8) : Bool :=
  b == 13 || b == 10

def linesOf (head : Bytes) : List Bytes :=
  head.splitOnP isEnd

/-- The second of the tokens that single spaces separate, decoded. -/
def path (line : Bytes) : Text :=
  ((line.splitOnP (· == 32))[1]?.map Utf8.decodeLossy).getD Request.rootPath

/-- The bytes on the two sides of the first colon, if that is neither the first byte nor the last
one. -/
def cut? (line : Bytes) : Option (Bytes × Bytes) :=
  (line.findIdx? (· == 58)).bind fun colon =>
    if colon = 0 ∨ colon + 1 = line.length then none
    else some (line.take colon, line.drop (colon + 1))

/-- The header that a line sets: its name in normal form and its value, each decoded by itself. -/
def header? (line : Bytes) : Option (Text × Text) :=
  (cut? line).map fun header =>
    (Request.normaliseName (Utf8.decodeLossy header.1), Text.trim (Utf8.decodeLossy header.2))

def Names (line : Bytes) (name : Text) : Prop :=
  (header? line).map Prod.fst = some name

instance (line : Bytes) (name : Text) : Decidable (Names line name) :=
  inferInstanceAs (Decidable ((header? line).map Prod.fst = some name))

/-- The request that lines make. A later header replaces an earlier one of its name. -/
def request : List Bytes → Request
  | [] => .ofPath Request.rootPath
  | first :: others => ⟨path first, .ofList (others.filterMap header?)⟩

theorem delimits_isEnd : Utf8.Delimits Request.isLineEnd isEnd := by
  constructor
  · intro c
    simp [Request.isLineEnd, isEnd]
  · intro b h
    rw [isEnd, Bool.or_eq_true, beq_iff_eq, beq_iff_eq] at h
    rcases h with rfl | rfl <;> decide

theorem pathOfLine_decodeLossy (line : Bytes) :
    Request.pathOfLine (Utf8.decodeLossy line) = path line := by
  have delimits : Utf8.Delimits (· == ' ') (· == 32) :=
    Utf8.delimits_char (c := ' ') (by decide) (by decide)
  rw [Request.pathOfLine, Utf8.splitOnP_decodeLossy delimits, List.getElem?_map]
  rfl

theorem cut?_of_clear {line : Bytes} (clear : ∀ b ∈ line, (b == 58) = false) :
    cut? line = none := by
  rw [cut?, List.findIdx?_eq_none_iff.mpr clear]
  rfl

theorem cut?_append {before : Bytes} (clear : ∀ b ∈ before, (b == 58) = false) (after : Bytes) :
    cut? (before ++ 58 :: after) =
      if before = [] ∨ after = [] then none else some (before, after) := by
  have hfirst : (before ++ 58 :: after).findIdx? (· == 58) = some before.length := by
    simp [List.findIdx?_append, List.findIdx?_eq_none_iff.mpr clear, List.findIdx?_cons]
  have hlast : before.length + 1 = (before ++ 58 :: after).length ↔ after = [] := by
    rw [List.length_append, List.length_cons, ← List.length_eq_zero_iff]
    omega
  simp only [cut?, hfirst, Option.bind_some, hlast, List.length_eq_zero_iff, List.take_left]
  simp

/-- Cutting a decoded line gives the two sides of its bytes, each decoded by itself. -/
theorem cutHeader?_decodeLossy (line : Bytes) :
    Request.cutHeader? (Utf8.decodeLossy line) =
      (cut? line).map fun header => (Utf8.decodeLossy header.1, Utf8.decodeLossy header.2) := by
  have delimits : Utf8.Delimits (· == ':') (· == 58) :=
    Utf8.delimits_char (c := ':') (by decide) (by decide)
  have hplain : ∀ bytes : Bytes, (∀ b ∈ bytes, (b == 58) = false) →
      ':' ∉ Utf8.decodeLossy bytes := by
    intro bytes clear hmem
    exact absurd (delimits.clear_decodeLossy clear ':' hmem) (by decide)
  cases hfirst : line.find? (· == 58) with
  | none =>
    have hclear : ∀ b ∈ line, (b == 58) = false := by simpa using hfirst
    rw [cut?_of_clear hclear, Request.cutHeader?_of_not_mem (hplain line hclear)]
    rfl
  | some b =>
    obtain ⟨hb, before, after, rfl, hbefore⟩ := List.find?_eq_some_iff_append.mp hfirst
    obtain rfl : b = 58 := by simpa using hb
    have hclear : ∀ b ∈ before, (b == 58) = false := by simpa using hbefore
    have hchar : Char.ofNat (58 : UInt8).toNat = ':' := by decide
    rw [cut?_append hclear, Utf8.decodeLossy_append_ascii (by decide), hchar,
      Request.cutHeader?_append (hplain before hclear)]
    simp only [Utf8.decodeLossy_eq_nil_iff]
    split <;> rfl

/-- Reading a decoded head gives what its lines give, each decoded by itself. -/
theorem ofHead_eq_request (head : Bytes) : Request.ofHead head = request (linesOf head) := by
  rw [Request.ofHead, Request.parse, Utf8.splitOnP_decodeLossy delimits_isEnd, ← linesOf]
  cases linesOf head with
  | nil => rfl
  | cons first others =>
    have hheaders : (others.map Utf8.decodeLossy).filterMap Request.cutHeader? =
        (others.filterMap cut?).map fun header =>
          (Utf8.decodeLossy header.1, Utf8.decodeLossy header.2) := by
      rw [List.filterMap_map, List.map_filterMap]
      exact List.filterMap_congr fun line _ => cutHeader?_decodeLossy line
    have hentries : others.filterMap header? = (others.filterMap cut?).map fun header =>
        (Request.normaliseName (Utf8.decodeLossy header.1),
          Text.trim (Utf8.decodeLossy header.2)) := by
      rw [List.map_filterMap]
      rfl
    simp only [List.map_cons, hheaders, Request.foldl_addHeader, pathOfLine_decodeLossy]
    rw [request, hentries, Table.ofList, List.foldl_map, List.foldl_map]
    rfl

def entriesNamed (name : Text) (lines : List Bytes) : List (Text × Text) :=
  (lines.filterMap header?).filter fun entry => decide (entry.1 = name)

/-- A line adds its own header to those with some name, if it sets one of that name. -/
theorem entriesNamed_cons_of_not_names {name : Text} {line : Bytes} (h : ¬ Names line name)
    (lines : List Bytes) : entriesNamed name (line :: lines) = entriesNamed name lines := by
  rw [entriesNamed, entriesNamed]
  cases hentry : header? line with
  | none => rw [List.filterMap_cons_none hentry]
  | some entry =>
    have hname : entry.1 ≠ name := by
      rintro rfl
      exact h (by rw [Names, hentry]; rfl)
    rw [List.filterMap_cons_some hentry, List.filter_cons_of_neg (by simpa using hname)]

/-- Replacing a line changes no header that neither the old line nor the new one sets. -/
theorem entriesNamed_set {name : Text} {line : Bytes} (after : ¬ Names line name)
    {lines : List Bytes} {i : Nat} (before : ∀ held ∈ lines[i]?, ¬ Names held name) :
    entriesNamed name (lines.set i line) = entriesNamed name lines := by
  induction lines generalizing i with
  | nil => rfl
  | cons held lines ih =>
    cases i with
    | zero =>
      rw [List.set_cons_zero, entriesNamed_cons_of_not_names after,
        entriesNamed_cons_of_not_names (before held rfl)]
    | succ i =>
      have hrest := ih before
      rw [entriesNamed] at hrest
      rw [List.set_cons_succ, entriesNamed, entriesNamed]
      cases hentry : header? held with
      | none => rw [List.filterMap_cons_none hentry, List.filterMap_cons_none hentry, hrest]; rfl
      | some entry =>
        rw [List.filterMap_cons_some hentry, List.filterMap_cons_some hentry, List.filter_cons,
          List.filter_cons, hrest]
        rfl

theorem header?_request_cons (first : Bytes) (others : List Bytes) (name : Text) :
    (request (first :: others)).header? name =
      (entriesNamed name others).getLast?.map Prod.snd :=
  Table.get?_ofList _ name

/-- What a request gets from other lines than one that is replaced. -/
theorem request_set (lines : List Bytes) (i : Nat) (line : Bytes) :
    (i ≠ 0 → (request (lines.set i line)).path = (request lines).path) ∧
      ∀ name, (i ≠ 0 → ¬ Names line name ∧ ∀ held ∈ lines[i]?, ¬ Names held name) →
        (request (lines.set i line)).header? name = (request lines).header? name := by
  cases lines with
  | nil => exact ⟨fun _ => rfl, fun _ _ => rfl⟩
  | cons first others =>
    cases i with
    | zero => exact ⟨fun h => absurd rfl h, fun _ _ => rfl⟩
    | succ i =>
      refine ⟨fun _ => rfl, fun name h => ?_⟩
      obtain ⟨hafter, hbefore⟩ := h (Nat.succ_ne_zero i)
      have hset : entriesNamed name (others.set i line) = entriesNamed name others :=
        entriesNamed_set hafter hbefore
      rw [List.set_cons_succ, header?_request_cons, header?_request_cons, hset]

end RawLine

/-- A head is read line by line: its request is that of its lines, each of them decoded by itself.
Heads that differ in one line have the same path, unless it is the first line, and the same value
of every header that the line does not set in one of them. -/
theorem Request.ofHead_linewise :
    (∀ head, ofHead head = RawLine.request (RawLine.linesOf head)) ∧
      ∀ head other i line, RawLine.linesOf other = (RawLine.linesOf head).set i line →
        (i ≠ 0 → (ofHead other).path = (ofHead head).path) ∧
        ∀ name, (i ≠ 0 → ¬ RawLine.Names line name ∧
            ∀ held ∈ (RawLine.linesOf head)[i]?, ¬ RawLine.Names held name) →
          (ofHead other).header? name = (ofHead head).header? name := by
  refine ⟨RawLine.ofHead_eq_request, ?_⟩
  intro head other i line differs
  rw [RawLine.ofHead_eq_request, RawLine.ofHead_eq_request, differs]
  exact RawLine.request_set _ i line

/-- A head in which a space and a carriage return cut off what begins as longer characters. -/
def garbled : Bytes :=
  Utf8.encode "GET /".toList ++ [0xC3] ++ Utf8.encode " HTTP/1.1\r\nX: ".toList ++ [0xE2, 0x82] ++
    Utf8.encode "\rConnection: close\r\n\r\n".toList

def regarbled : Bytes :=
  Utf8.encode "GET /".toList ++ [0xC3] ++ Utf8.encode " HTTP/1.1\r\n".toList ++
    [0xFF, 58, 0xF0, 0x9F, 58] ++ Utf8.encode "\rConnection: close\r\n\r\n".toList

/-- The delimiters count although the bytes before them ask for more, and the garbage that replaces
the third line leaves the path and the other header as they were. -/
theorem Request.ofHead_linewise_garbled :
    ofHead garbled = ⟨"/\uFFFD".toList, .ofList [("x".toList, "\uFFFD".toList),
        ("connection".toList, "close".toList)]⟩ ∧
      RawLine.linesOf regarbled = (RawLine.linesOf garbled).set 2 [0xFF, 58, 0xF0, 0x9F, 58] ∧
      (ofHead regarbled).path = "/\uFFFD".toList ∧
      (ofHead regarbled).header? "connection".toList = some "close".toList := by
  obtain ⟨hlines, hlocal⟩ := ofHead_linewise
  have hgarbled : ofHead garbled = ⟨"/\uFFFD".toList, .ofList [("x".toList, "\uFFFD".toList),
      ("connection".toList, "close".toList)]⟩ := by
    rw [hlines]
    decide +kernel
  have hdiffers : RawLine.linesOf regarbled =
      (RawLine.linesOf garbled).set 2 [0xFF, 58, 0xF0, 0x9F, 58] := by decide +kernel
  have hafter : ¬ RawLine.Names [0xFF, 58, 0xF0, 0x9F, 58] "connection".toList := by
    decide +kernel
  have hbefore : ∀ held ∈ (RawLine.linesOf garbled)[2]?,
      ¬ RawLine.Names held "connection".toList := by
    decide +kernel
  obtain ⟨hpath, hheader⟩ := hlocal garbled regarbled 2 _ hdiffers
  refine ⟨hgarbled, hdiffers, ?_, ?_⟩
  · rw [hpath (by decide), hgarbled]
  · rw [hheader _ fun _ => ⟨hafter, hbefore⟩, hgarbled]
    decide

end IndexSearch
