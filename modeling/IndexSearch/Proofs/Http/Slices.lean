import IndexSearch.Proofs.Http.Requests
import IndexSearch.Proofs.Text.Encoding

/-!
# Reading a head by offsets

A head may be read by byte offsets instead of characters: a header is cut where its first colon is
found, and again behind the colon. Such a cut is possible only where a character begins or the text
ends, and a length can be reduced only as far as it goes. Both hold in every head, so reading by
offsets never fails, and it makes the same request.
-/

namespace IndexSearch

/-- Why reading by offsets fails: a cut within a character or past the end, or a negative length. -/
inductive SliceFault where
  | noBoundary
  | negative
deriving DecidableEq, Repr

namespace Text

/-- The parts of a text before and after a byte offset, if that is not within a character. -/
def cutAt : Text → Nat → Except SliceFault (Text × Text)
  | text, 0 => .ok ([], text)
  | [], _ + 1 => .error .noBoundary
  | c :: text, offset + 1 =>
    if c.utf8Size ≤ offset + 1 then do
      let (before, after) ← cutAt text (offset + 1 - c.utf8Size)
      .ok (c :: before, after)
    else .error .noBoundary

theorem length_encode_cons (c : Char) (text : Text) :
    (Utf8.encode (c :: text)).length = c.utf8Size + (Utf8.encode text).length := by
  rw [Utf8.encode_cons, List.length_append, String.length_utf8EncodeChar]

theorem cutAt_append (before after : Text) :
    cutAt (before ++ after) (Utf8.encode before).length = .ok (before, after) := by
  induction before with
  | nil => rw [List.nil_append, Utf8.encode_nil, List.length_nil, cutAt]
  | cons c before ih =>
    obtain ⟨size, hsize⟩ := Nat.exists_eq_add_one.mpr c.utf8Size_pos
    have hoffset : c.utf8Size + (Utf8.encode before).length =
        size + (Utf8.encode before).length + 1 := by omega
    have hrest : size + (Utf8.encode before).length + 1 - c.utf8Size =
        (Utf8.encode before).length := by omega
    rw [length_encode_cons, hoffset, List.cons_append, cutAt, if_pos (by omega), hrest, ih]
    rfl

end Text

namespace Request

def colonAt? (line : Text) : Option Nat :=
  (Utf8.encode line).findIdx? (· == 58)

def reduce (length less : Nat) : Except SliceFault Nat :=
  if less ≤ length then .ok (length - less) else .error .negative

def sliceHeader (line : Text) : Except SliceFault (Option (Text × Text)) :=
  match colonAt? line with
  | none => .ok none
  | some colon => do
    let last ← reduce (Utf8.encode line).length 1
    if colon = 0 ∨ colon = last then .ok none
    else
      let (name, rest) ← Text.cutAt line colon
      let (_, value) ← Text.cutAt rest 1
      .ok (some (name, value))

def addSliced (request : Request) (line : Text) : Except SliceFault Request := do
  match ← sliceHeader line with
  | none => .ok request
  | some (name, value) => .ok (request.addHeader name value)

/-- The request that a head makes, read by offsets. -/
def slice (head : Text) : Except SliceFault Request :=
  match head.splitOnP isLineEnd with
  | [] => .ok (ofPath rootPath)
  | first :: others => others.foldlM addSliced (ofPath (pathOfLine first))

/-- The byte of a colon stands for one wherever it is found in a line. -/
theorem colon_not_mem_encode {text : Text} (h : ':' ∉ text) : 58 ∉ Utf8.encode text :=
  fun hmem => h (Utf8.mem_of_mem_encode (by decide) hmem)

theorem colonAt?_of_not_mem {line : Text} (h : ':' ∉ line) : colonAt? line = none := by
  rw [colonAt?, List.findIdx?_eq_none_iff]
  intro b hb
  rw [beq_eq_false_iff_ne]
  rintro rfl
  exact colon_not_mem_encode h hb

theorem colonAt?_append {name : Text} (h : ':' ∉ name) (value : Text) :
    colonAt? (name ++ ':' :: value) = some (Utf8.encode name).length := by
  have hname : (Utf8.encode name).findIdx? (· == 58) = none := colonAt?_of_not_mem h
  have hcolon : Utf8.encode (':' :: value) = 58 :: Utf8.encode value :=
    Utf8.encode_cons_ascii (by decide) value
  rw [colonAt?, Utf8.encode_append, hcolon, List.findIdx?_append, hname, List.findIdx?_cons]
  simp

theorem length_encode_colon (name value : Text) :
    (Utf8.encode (name ++ ':' :: value)).length =
      (Utf8.encode name).length + (Utf8.encode value).length + 1 := by
  rw [Utf8.encode_append, Utf8.encode_cons_ascii (by decide), List.length_append, List.length_cons]
  omega

theorem length_encode_eq_zero_iff {text : Text} : (Utf8.encode text).length = 0 ↔ text = [] := by
  cases text with
  | nil => simp
  | cons c text =>
    have hsize := c.utf8Size_pos
    rw [Text.length_encode_cons]
    exact iff_of_false (by omega) (List.cons_ne_nil _ _)

/-- A line is cut where the characters are, and neither of the cuts fails. -/
theorem sliceHeader_eq (line : Text) : sliceHeader line = .ok (cutHeader? line) := by
  by_cases hcolon : ':' ∈ line
  · obtain ⟨name, value, rfl, hname⟩ := List.eq_append_cons_of_mem hcolon
    have hreduce : reduce (Utf8.encode (name ++ ':' :: value)).length 1 =
        .ok ((Utf8.encode name).length + (Utf8.encode value).length) := by
      rw [length_encode_colon, reduce, if_pos (by omega), Nat.add_sub_cancel]
    -- In bytes as in characters, the colon is first or last if a side is empty.
    have hsides : ((Utf8.encode name).length = 0 ∨
        (Utf8.encode name).length = (Utf8.encode name).length + (Utf8.encode value).length) ↔
          name = [] ∨ value = [] := by
      rw [Nat.left_eq_add, length_encode_eq_zero_iff, length_encode_eq_zero_iff]
    have hvalue : Text.cutAt (':' :: value) 1 = .ok ([':'], value) :=
      Text.cutAt_append [':'] value
    rw [sliceHeader, colonAt?_append hname, cutHeader?_append hname]
    simp only [hreduce, bind, Except.bind, hsides, Text.cutAt_append, hvalue]
    split
    · rfl
    · rfl
  · rw [sliceHeader, colonAt?_of_not_mem hcolon, cutHeader?_of_not_mem hcolon]

/-- Each line adds its header, and the lines without one add nothing. -/
theorem foldlM_addSliced (lines : List Text) (request : Request) :
    lines.foldlM addSliced request =
      .ok ((lines.filterMap cutHeader?).foldl
        (fun request header => request.addHeader header.1 header.2) request) := by
  induction lines generalizing request with
  | nil => rfl
  | cons line lines ih =>
    rw [List.foldlM_cons, addSliced, sliceHeader_eq]
    cases hcut : cutHeader? line with
    | none =>
      rw [List.filterMap_cons_none hcut]
      exact ih request
    | some header =>
      rw [List.filterMap_cons_some hcut, List.foldl_cons]
      exact ih _

/-- Reading a head by offsets never fails, and makes its request. -/
theorem slice_eq (head : Text) : slice head = .ok (parse head) := by
  rw [slice, parse]
  cases head.splitOnP isLineEnd with
  | nil => rfl
  | cons first others => exact foldlM_addSliced others (ofPath (pathOfLine first))

end Request

end IndexSearch
