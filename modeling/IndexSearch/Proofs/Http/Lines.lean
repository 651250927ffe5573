import IndexSearch.Proofs.Http.Heads
import IndexSearch.Proofs.Text.Encoding

/-!
# Lines of a head

The text of a head is a sequence of lines, each ended by a carriage return and a line feed, and an
empty line after the last one. As long as no line is empty or contains one of the two characters,
the bytes of the text are one head and not more, and its lines can be told apart again.
-/

namespace IndexSearch

/-- A text without carriage return and line feed. -/
def Text.IsLine (text : Text) : Prop :=
  '\r' ∉ text ∧ '\n' ∉ text

instance (text : Text) : Decidable text.IsLine :=
  inferInstanceAs (Decidable ('\r' ∉ text ∧ '\n' ∉ text))

def lineBreak : Text :=
  "\r\n".toList

def headOfLines (lines : List Text) : Text :=
  lines.flatMap (· ++ lineBreak) ++ lineBreak

namespace Text

theorem isLine_append {text other : Text} :
    IsLine (text ++ other) ↔ IsLine text ∧ IsLine other := by
  simp only [IsLine, List.mem_append, not_or]
  exact and_and_and_comm

theorem IsLine.no_lineEnd {text : Text} (h : text.IsLine) {c : Char} (hc : c ∈ text) :
    Request.isLineEnd c = false := by
  have hreturn : c ≠ '\r' := fun heq => h.1 (heq ▸ hc)
  have hfeed : c ≠ '\n' := fun heq => h.2 (heq ▸ hc)
  simp [Request.isLineEnd, hreturn, hfeed]

theorem IsLine.return_not_mem_encode {text : Text} (h : text.IsLine) : 13 ∉ Utf8.encode text :=
  fun hmem => h.1 (Utf8.mem_of_mem_encode (by decide) hmem)

end Text

/-- No blank line begins at a byte that is no carriage return. -/
theorem blankLine_infix_cons {b : UInt8} (h : b ≠ 13) (bytes : Bytes) :
    blankLine <:+: b :: bytes ↔ blankLine <:+: bytes := by
  rw [List.infix_cons_iff, blankLine, List.cons_prefix_cons]
  simp [h.symm]

theorem blankLine_infix_append {line : Bytes} (h : 13 ∉ line) (bytes : Bytes) :
    blankLine <:+: line ++ bytes ↔ blankLine <:+: bytes := by
  induction line with
  | nil => rfl
  | cons b line ih =>
    rw [List.mem_cons, not_or] at h
    rw [List.cons_append, blankLine_infix_cons (Ne.symm h.1), ih h.2]

/-- Lines that are not empty leave no blank line before the end of the last one. -/
theorem not_blankLine_infix_lines {lines : List Bytes}
    (proper : ∀ line ∈ lines, line ≠ [] ∧ 13 ∉ line) :
    ¬ blankLine <:+: lines.flatMap (· ++ [13, 10]) ++ [13] := by
  induction lines with
  | nil => decide
  | cons line lines ih =>
    rw [List.forall_mem_cons] at proper
    obtain ⟨⟨_, hline⟩, hrest⟩ := proper
    rw [List.flatMap_cons, List.append_assoc, List.append_assoc, blankLine_infix_append hline]
    simp only [List.cons_append, List.nil_append]
    rw [List.infix_cons_iff, blankLine_infix_cons (by decide)]
    rintro (hbegins | hinfix)
    · -- What follows the line break does not begin with another one.
      cases lines with
      | nil => simp [blankLine] at hbegins
      | cons next lines =>
        obtain ⟨hne, hnext⟩ := hrest next List.mem_cons_self
        obtain ⟨b, next, rfl⟩ := List.exists_cons_of_ne_nil hne
        have hb : 13 ≠ b := fun heq => hnext (heq ▸ List.mem_cons_self)
        simp [blankLine, hb] at hbegins
    · exact ih hrest hinfix

/-- The bytes of lines that are not empty, with an empty one after the last, are one head. -/
theorem isHead_lines {lines : List Bytes} (nonempty : lines ≠ [])
    (proper : ∀ line ∈ lines, line ≠ [] ∧ 13 ∉ line) :
    IsHead (lines.flatMap (· ++ [13, 10]) ++ [13, 10]) := by
  constructor
  · obtain ⟨before, last, rfl⟩ := List.eq_nil_or_concat lines |>.resolve_left nonempty
    refine ⟨before.flatMap (· ++ [13, 10]) ++ last, ?_⟩
    simp [blankLine]
  · have hlast : (lines.flatMap (· ++ [13, 10]) ++ [13, 10]).dropLast =
        lines.flatMap (· ++ [13, 10]) ++ [13] := by
      rw [List.dropLast_append_of_ne_nil (by decide)]
      rfl
    rw [hlast]
    exact not_blankLine_infix_lines proper

theorem encode_headOfLines (lines : List Text) :
    Utf8.encode (headOfLines lines) =
      (lines.map Utf8.encode).flatMap (· ++ [13, 10]) ++ [13, 10] := by
  have hbreak : Utf8.encode lineBreak = [13, 10] := by decide
  rw [headOfLines, Utf8.encode_append, Utf8.encode_flatMap, hbreak, List.flatMap_map]
  simp only [Utf8.encode_append, hbreak]

theorem isHead_headOfLines {lines : List Text} (nonempty : lines ≠ [])
    (proper : ∀ line ∈ lines, line ≠ [] ∧ line.IsLine) :
    IsHead (Utf8.encode (headOfLines lines)) := by
  rw [encode_headOfLines]
  refine isHead_lines (by simpa using nonempty) ?_
  intro line hmem
  obtain ⟨text, htext, rfl⟩ := List.mem_map.mp hmem
  obtain ⟨hne, hline⟩ := proper text htext
  exact ⟨fun hnil => hne (Utf8.encode_injective hnil), hline.return_not_mem_encode⟩

theorem cutHead?_head_append {head : Bytes} (h : IsHead head) (rest : Bytes) :
    cutHead? (head ++ rest) 0 = some (head, rest) := by
  cases hcut : cutHead? (head ++ rest) 0 with
  | none =>
    have hinfix : blankLine <:+: head ++ rest :=
      List.infix_append_of_infix_left h.1.isInfix
    exact False.elim (cutHead?_eq_none (clearBefore_zero _) hcut hinfix)
  | some cut =>
    obtain ⟨found, left⟩ := cut
    have happend := (cutHead?_eq_some hcut).1
    -- Both heads are the first of the same bytes.
    have hheads := congrArg headsOf happend
    rw [headsOf_append h, headsOf_append (isHead_of_cutHead? (clearBefore_zero _) hcut)] at hheads
    obtain rfl := (List.cons.inj hheads).1
    rw [List.append_cancel_left happend]

/-- Each line of a head is followed by the empty text between its two line ends. -/
theorem splitOnP_headOfLines {lines : List Text} (proper : ∀ line ∈ lines, line.IsLine) :
    (headOfLines lines).splitOnP Request.isLineEnd =
      lines.flatMap (fun line => [line, []]) ++ [[], [], []] := by
  induction lines with
  | nil => decide
  | cons line lines ih =>
    rw [List.forall_mem_cons] at proper
    have hsplit : headOfLines (line :: lines) = line ++ '\r' :: '\n' :: headOfLines lines := by
      simp [headOfLines, lineBreak]
    have hfeed : Request.isLineEnd '\n' = true := rfl
    rw [hsplit, List.splitOnP_append_cons_of_forall_mem (fun c => proper.1.no_lineEnd) _ rfl,
      List.splitOnP_cons_eq_if_modifyHead, if_pos hfeed, ih proper.2]
    rfl

/-- The second word of a line stands between its first two spaces. -/
theorem splitOnP_words {first second : Text} (hfirst : ' ' ∉ first) (hsecond : ' ' ∉ second)
    (rest : Text) :
    ((first ++ ' ' :: (second ++ ' ' :: rest)).splitOnP (· == ' '))[1]? = some second := by
  have apart {word : Text} (h : ' ' ∉ word) : ∀ c ∈ word, (c == ' ') = false := by
    intro c hc
    have hne : c ≠ ' ' := fun heq => h (heq ▸ hc)
    simpa using hne
  rw [List.splitOnP_append_cons_of_forall_mem (apart hfirst) _ rfl,
    List.splitOnP_append_cons_of_forall_mem (apart hsecond) _ rfl]
  rfl

end IndexSearch
