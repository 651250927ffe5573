import IndexSearch.Console
import IndexSearch.Proofs.Search.Reference
import IndexSearch.Proofs.Text.Encoding

/-!
# What a session writes

The transcript of a session is read off the lines of its input alone. A session with unlimited room
writes all of it. One with limited room writes as much of it as fits, and breaks off for that reason
exactly if it does not fit as a whole, whatever else would have ended the session further on.

Output is written in small pieces, and a line may be cut anywhere. Readers are taken to answer every
look-up.
-/

namespace IndexSearch

namespace Outlet

@[simp] theorem write_nil (outlet : Outlet) : outlet.write [] = (.ok (), outlet) := by
  obtain ⟨taken, room⟩ := outlet
  cases room <;> simp [write]

/-- Two writes come to one write of both, the second being made only if the first succeeds. -/
theorem write_append (outlet : Outlet) (bytes more : Bytes) :
    outlet.write (bytes ++ more) =
      match outlet.write bytes with
      | (.error fault, after) => (.error fault, after)
      | (.ok _, after) => after.write more := by
  obtain ⟨taken, room⟩ := outlet
  cases room with
  | none => simp [write]
  | some room =>
    by_cases hfirst : bytes.length ≤ room
    · have hboth : bytes.length + more.length ≤ room ↔ more.length ≤ room - bytes.length := by
        omega
      have hleft : room - (bytes.length + more.length) = room - bytes.length - more.length := by
        omega
      have htake : (bytes ++ more).take room = bytes ++ more.take (room - bytes.length) := by
        rw [List.take_append, List.take_of_length_le hfirst]
      simp [write, hfirst, hboth, hleft, htake, List.take_of_length_le hfirst]
    · have hboth : ¬ bytes.length + more.length ≤ room := by
        omega
      have hleft : room - (bytes.length + more.length) = room - bytes.length := by
        omega
      have htake : (bytes ++ more).take room = bytes.take room :=
        List.take_append_of_le_length (by omega)
      simp [write, hfirst, hboth, hleft, htake]

theorem print_eq_write (outlet : Outlet) (pieces : List Text) :
    outlet.print pieces = outlet.write (Utf8.encode pieces.flatten) := by
  induction pieces generalizing outlet with
  | nil => exact outlet.write_nil.symm
  | cons piece pieces ih =>
    rw [print, List.flatten_cons, Utf8.encode_append, write_append]
    cases hwrite : outlet.write (Utf8.encode piece) with
    | mk outcome after =>
      cases outcome with
      | error fault => rfl
      | ok _ => exact ih after

/-- What comes of writing some bytes where the outcome would be the one given if all of them fit. -/
def conclude (outlet : Outlet) (bytes : Bytes) (outcome : Except ConsoleFault Unit) :
    Except ConsoleFault Unit × Outlet :=
  match outlet.write bytes with
  | (.error fault, after) => (.error fault, after)
  | (.ok _, after) => (outcome, after)

theorem conclude_append (outlet : Outlet) (bytes more : Bytes)
    (outcome : Except ConsoleFault Unit) :
    outlet.conclude (bytes ++ more) outcome =
      match outlet.write bytes with
      | (.error fault, after) => (.error fault, after)
      | (.ok _, after) => after.conclude more outcome := by
  rw [conclude, write_append]
  cases outlet.write bytes with
  | mk result after => cases result <;> rfl

end Outlet

namespace Console

def hitText (hit : Hit) : Text :=
  " ".toList ++ hit.name ++ " (".toList ++ Numeral.render hit.rank.toNat ++ ")\n".toList

def promptText : Text :=
  "Enter query:\n".toList

def missText : Text :=
  " [no results]\n".toList

/-- What has to be printed for a line: nothing if it has no words, else its hits in order or, if
there are none, a notice. -/
inductive Replies (engine : Engine) (line : Text) : Text → Prop where
  | blank (wordless : searchWords line = []) : Replies engine line []
  | missed (asked : searchWords line ≠ []) (found : engine.search (searchWords line) = .ok []) :
      Replies engine line missText
  | listed {hits : List Hit} (asked : searchWords line ≠ [])
      (found : engine.search (searchWords line) = .ok hits) (nonempty : hits ≠ []) :
      Replies engine line (hits.flatMap hitText)

/-- The output of a session over some lines, and its outcome. -/
inductive Transcribes (engine : Engine) : List Bytes → Text → Except ConsoleFault Unit → Prop where
  | finished : Transcribes engine [] promptText (.ok ())
  | refused {line : Bytes} {rest : List Bytes} (malformed : Utf8.decode? line = none) :
      Transcribes engine (line :: rest) promptText (.error .badText)
  | answered {line : Bytes} {rest : List Bytes} {text reply output : Text}
      {outcome : Except ConsoleFault Unit} (wellFormed : Utf8.decode? line = some text)
      (replies : Replies engine text reply) (others : Transcribes engine rest output outcome) :
      Transcribes engine (line :: rest) (promptText ++ reply ++ output) outcome

/-- The lines of an input. A line feed ends a line, together with a carriage return before it; a
non-empty rest is a line too. -/
def lines (input : Bytes) : List Bytes :=
  let pieces := input.splitOnP (· == 10)
  pieces.dropLast.map stripReturn ++ pieces.getLast?.toList.filter fun rest => !rest.isEmpty

theorem lines_eq (input : Bytes) :
    lines input =
      match cutLine? input with
      | none => []
      | some (line, rest) => line :: lines rest := by
  have hsplit := List.takeWhile_append_dropWhile (p := (· != 10)) (l := input)
  have hclear : ∀ b ∈ input.takeWhile (· != 10), (b == 10) = false := by
    intro b hb
    simpa using List.all_eq_true.mp List.all_takeWhile b hb
  rw [cutLine?]
  cases hdrop : input.dropWhile (· != 10) with
  | nil =>
    rw [hdrop, List.append_nil] at hsplit
    rw [hsplit] at hclear
    by_cases hnil : input = []
    · subst hnil
      rfl
    · simp [lines, List.splitOnP_eq_singleton hclear, hnil]
  | cons feed rest =>
    have hfeed : (feed == 10) = true := by
      have hhead := List.head?_dropWhile_not (p := (· != 10)) (l := input)
      simpa [hdrop] using hhead
    have hpieces : input.splitOnP (· == 10) =
        input.takeWhile (· != 10) :: rest.splitOnP (· == 10) := by
      conv => lhs; rw [← hsplit, hdrop]
      exact List.splitOnP_append_cons_of_forall_mem hclear feed hfeed rest
    have hrest : rest.splitOnP (· == 10) ≠ [] := List.splitOnP_ne_nil _ _
    simp [lines, hpieces, List.dropLast_cons_of_ne_nil hrest, List.getLast?_cons_of_ne_nil hrest]

theorem cutLine?_of_lines {input line : Bytes} {others : List Bytes}
    (h : lines input = line :: others) :
    ∃ rest, cutLine? input = some (line, rest) ∧ lines rest = others := by
  rw [lines_eq] at h
  cases hcut : cutLine? input with
  | none =>
    rw [hcut] at h
    cases h
  | some found =>
    rw [hcut] at h
    cases h
    exact ⟨_, rfl, rfl⟩

theorem flatten_hitLine (hit : Hit) : (hitLine hit).flatten = hitText hit := by
  have hclosing : ")\n".toList = ")".toList ++ "\n".toList := by decide
  rw [hitText, hclosing]
  simp only [hitLine, List.flatten_cons, List.flatten_nil, List.append_nil, List.append_assoc]

theorem flatten_hitLines (hits : List Hit) :
    (hits.flatMap hitLine).flatten = hits.flatMap hitText := by
  induction hits with
  | nil => rfl
  | cons hit hits ih =>
    rw [List.flatMap_cons, List.flatMap_cons, List.flatten_append, ih, flatten_hitLine]

theorem flatten_reply {hits : List Hit} (nonempty : hits ≠ []) :
    (reply hits).flatten = hits.flatMap hitText := by
  rw [reply, if_neg (by simpa using nonempty), flatten_hitLines]

/-- What is printed for a line that can be read is what has to be printed for it. -/
theorem respond_of_replies {engine : Engine} {line : Bytes} {text reply : Text}
    (wellFormed : Utf8.decode? line = some text) (replies : Replies engine text reply) :
    ∃ pieces, respond engine line = .ok pieces ∧ pieces.flatten = reply := by
  cases replies with
  | blank wordless => exact ⟨[], by simp [respond, respondBy, wellFormed, wordless], rfl⟩
  | missed asked found =>
    exact ⟨Console.reply [], by simp [respond, respondBy, wellFormed, asked, found], List.flatten_singleton⟩
  | @listed hits asked found nonempty =>
    exact ⟨Console.reply hits, by simp [respond, respondBy, wellFormed, asked, found], flatten_reply nonempty⟩

theorem exists_replies {engine : Engine} (steady : ∀ reader ∈ engine.readers, reader.NeverFails)
    (text : Text) : ∃ reply, Replies engine text reply := by
  by_cases hwords : searchWords text = []
  · exact ⟨_, .blank hwords⟩
  · obtain ⟨hits, hfound⟩ := Engine.exists_search steady hwords
    by_cases hnone : hits = []
    · exact ⟨_, .missed hwords (hnone ▸ hfound)⟩
    · exact ⟨_, .listed hwords hfound hnone⟩

theorem Replies.unique {engine : Engine} {text reply other : Text}
    (h : Replies engine text reply) (hother : Replies engine text other) : other = reply := by
  cases h with
  | blank wordless =>
    cases hother with
    | blank _ => rfl
    | missed asked _ => exact False.elim (asked wordless)
    | listed asked _ _ => exact False.elim (asked wordless)
  | missed asked found =>
    cases hother with
    | blank wordless => exact False.elim (asked wordless)
    | missed _ _ => rfl
    | listed _ same nonempty => exact False.elim (nonempty (Except.ok.inj (same.symm.trans found)))
  | listed asked found nonempty =>
    cases hother with
    | blank wordless => exact False.elim (asked wordless)
    | missed _ same => exact False.elim (nonempty (Except.ok.inj (found.symm.trans same)))
    | listed _ same _ => rw [Except.ok.inj (same.symm.trans found)]

theorem exists_transcribes {engine : Engine}
    (steady : ∀ reader ∈ engine.readers, reader.NeverFails) (lines : List Bytes) :
    ∃ output outcome, Transcribes engine lines output outcome := by
  induction lines with
  | nil => exact ⟨_, _, .finished⟩
  | cons line rest ih =>
    cases hline : Utf8.decode? line with
    | none => exact ⟨_, _, .refused hline⟩
    | some text =>
      obtain ⟨reply, hreply⟩ := exists_replies steady text
      obtain ⟨output, outcome, hrest⟩ := ih
      exact ⟨_, _, .answered hline hreply hrest⟩

theorem Transcribes.unique {engine : Engine} {lines : List Bytes} {output other : Text}
    {outcome result : Except ConsoleFault Unit} (h : Transcribes engine lines output outcome)
    (hother : Transcribes engine lines other result) : other = output ∧ result = outcome := by
  induction h generalizing other result with
  | finished =>
    cases hother
    exact ⟨rfl, rfl⟩
  | refused malformed =>
    cases hother with
    | refused _ => exact ⟨rfl, rfl⟩
    | answered wellFormed _ _ =>
      rw [malformed] at wellFormed
      cases wellFormed
  | answered wellFormed replies others ih =>
    cases hother with
    | refused malformed =>
      rw [malformed] at wellFormed
      cases wellFormed
    | answered same otherReplies tail =>
      rw [wellFormed] at same
      cases same
      obtain ⟨rfl, rfl⟩ := ih tail
      rw [replies.unique otherReplies]
      exact ⟨rfl, rfl⟩

/-- An unlimited session ends well or at a line that is not UTF-8. -/
theorem Transcribes.outcome_cases {engine : Engine} {lines : List Bytes} {output : Text}
    {outcome : Except ConsoleFault Unit} (h : Transcribes engine lines output outcome) :
    outcome = .ok () ∨ outcome = .error .badText := by
  induction h with
  | finished => exact Or.inl rfl
  | refused _ => exact Or.inr rfl
  | answered _ _ _ ih => exact ih

/-- One turn of a session: the prompt, and what is printed for the first line. -/
theorem converse_eq (engine : Engine) (input : Bytes) (outlet : Outlet) :
    converse engine input outlet =
      match outlet.write (Utf8.encode promptText) with
      | (.error fault, after) => (.error fault, after)
      | (.ok _, after) =>
        match cutLine? input with
        | none => (.ok (), after)
        | some (line, rest) =>
          match respond engine line with
          | .error fault => (.error fault, after)
          | .ok pieces =>
            match after.write (Utf8.encode pieces.flatten) with
            | (.error fault, last) => (.error fault, last)
            | (.ok _, last) => converse engine rest last := by
  have hprompt : prompt.flatten = promptText := by decide
  rw [converse, Outlet.print_eq_write, hprompt]
  rcases outlet.write (Utf8.encode promptText) with ⟨_ | _, after⟩
  · rfl
  · simp only [Outlet.print_eq_write]
    split
    · rename_i hcut
      exact hcut ▸ rfl
    · rename_i hcut
      exact hcut ▸ rfl

/-- A session writes its transcript as far as there is room, and then ends as that does. -/
theorem converse_eq_conclude {engine : Engine} {cut : List Bytes} {output : Text}
    {outcome : Except ConsoleFault Unit} (h : Transcribes engine cut output outcome)
    {input : Bytes} (hlines : lines input = cut) (outlet : Outlet) :
    converse engine input outlet = outlet.conclude (Utf8.encode output) outcome := by
  induction h generalizing input outlet with
  | finished =>
    have hcut : cutLine? input = none := by
      rw [lines_eq] at hlines
      cases hcut : cutLine? input with
      | none => rfl
      | some found =>
        rw [hcut] at hlines
        cases hlines
    rw [converse_eq, hcut, Outlet.conclude]
  | refused malformed =>
    obtain ⟨rest, hcut, _⟩ := cutLine?_of_lines hlines
    rw [converse_eq, hcut, Outlet.conclude]
    simp only [respond, respondBy, malformed]
  | answered wellFormed replies others ih =>
    obtain ⟨rest, hcut, hrest⟩ := cutLine?_of_lines hlines
    obtain ⟨pieces, hrespond, hpieces⟩ := respond_of_replies wellFormed replies
    rw [converse_eq, hcut, List.append_assoc, Utf8.encode_append, Outlet.conclude_append]
    rcases outlet.write (Utf8.encode promptText) with ⟨_ | _, after⟩
    · rfl
    · simp only [hrespond, hpieces]
      rw [Utf8.encode_append, Outlet.conclude_append]
      rcases after.write (Utf8.encode _) with ⟨_ | _, last⟩
      · rfl
      · exact ih hrest last

theorem run_unlimited {engine : Engine} {input : Bytes} {output : Text}
    {outcome : Except ConsoleFault Unit} (h : Transcribes engine (lines input) output outcome) :
    run engine input none = ⟨Utf8.encode output, outcome⟩ := by
  rw [run, converse_eq_conclude h rfl]
  rfl

theorem run_limited {engine : Engine} {input : Bytes} {output : Text}
    {outcome : Except ConsoleFault Unit} (h : Transcribes engine (lines input) output outcome)
    (room : Nat) :
    run engine input (some room) = ⟨(Utf8.encode output).take room,
      if (Utf8.encode output).length ≤ room then outcome else .error .outputFull⟩ := by
  rw [run, converse_eq_conclude h rfl, Outlet.conclude]
  by_cases hfits : (Utf8.encode output).length ≤ room <;> simp [Outlet.write, hfits]

/-- Every input has one transcript. Without limits a session writes it and ends as it does; with
limited room it writes as much of it as fits, and fails for want of room exactly if that is not
all. -/
theorem run_transcribes (engine : Engine) (steady : ∀ reader ∈ engine.readers, reader.NeverFails)
    (input : Bytes) :
    ∃ output outcome,
      (∀ other result, Transcribes engine (lines input) other result ↔
        other = output ∧ result = outcome) ∧
      (run engine input none).output = Utf8.encode output ∧
      (run engine input none).outcome = outcome ∧
      ∀ room,
        (run engine input (some room)).output = (Utf8.encode output).take room ∧
        ((run engine input (some room)).outcome = .error .outputFull ↔
          room < (Utf8.encode output).length) ∧
        ((Utf8.encode output).length ≤ room →
          (run engine input (some room)).outcome = outcome) := by
  obtain ⟨output, outcome, transcribes⟩ := exists_transcribes steady (lines input)
  refine ⟨output, outcome, fun other result => ⟨transcribes.unique, ?_⟩, ?_, ?_, ?_⟩
  · rintro ⟨rfl, rfl⟩
    exact transcribes
  · rw [run_unlimited transcribes]
  · rw [run_unlimited transcribes]
  · intro room
    have hlimited := run_limited transcribes room
    refine ⟨by rw [hlimited], ?_, ?_⟩
    · rw [hlimited]
      constructor
      · intro hfull
        by_cases hfits : (Utf8.encode output).length ≤ room
        · rcases transcribes.outcome_cases with rfl | rfl <;> simp [hfits] at hfull
        · exact Nat.lt_of_not_le hfits
      · intro hlong
        exact if_neg (Nat.not_le_of_lt hlong)
    · intro hfits
      rw [hlimited]
      exact if_pos hfits

def pets : Engine where
  readers := [.ofShard (Shard.ofEntries {
    terms := [("cat".toList, [⟨4, 2⟩])]
    docs := [(4, "pets.txt".toList)] })]
  readers_ne_nil := List.cons_ne_nil _ _

/-- A search with a hit, a blank line, one without hits, and a rest that is not UTF-8. -/
def mixed : Bytes :=
  Utf8.encode "CAT\r\n\ndog\n".toList ++ [0xFF]

/-- Unlimited, the session breaks off at the last line; with room for eighteen bytes it does so
within the first hit. -/
theorem run_transcribes_mixed :
    (∀ reader ∈ pets.readers, reader.NeverFails) ∧
      (run pets mixed none).output = Utf8.encode ("Enter query:\n pets.txt (2)\n".toList ++
        "Enter query:\nEnter query:\n [no results]\nEnter query:\n".toList) ∧
      (run pets mixed none).outcome = .error .badText ∧
      (run pets mixed (some 18)).output = Utf8.encode "Enter query:\n pets".toList ∧
      (run pets mixed (some 18)).outcome = .error .outputFull := by
  have steady : ∀ reader ∈ pets.readers, reader.NeverFails := by
    simp [pets, Reader.neverFails_ofShard]
  have hlines : lines mixed =
      [Utf8.encode "CAT".toList, [], Utf8.encode "dog".toList, [0xFF]] := by decide +kernel
  have hcat : pets.search (searchWords "CAT".toList) = .ok [⟨"pets.txt".toList, 2⟩] := by
    have hwords : searchWords "CAT".toList = ["cat".toList] := by decide +kernel
    rw [hwords]
    cbv
  have hdog : pets.search (searchWords "dog".toList) = .ok [] := by
    have hwords : searchWords "dog".toList = ["dog".toList] := by decide +kernel
    rw [hwords]
    cbv
  have hhit : hitText ⟨"pets.txt".toList, 2⟩ = " pets.txt (2)\n".toList := by decide +kernel
  have hrefused : Transcribes pets [[0xFF]] promptText (.error .badText) := .refused (by decide)
  have transcribes := Transcribes.answered (Utf8.decode?_encode "CAT".toList)
    (.listed (by decide +kernel) hcat (List.cons_ne_nil _ _)) <|
      .answered (Utf8.decode?_encode []) (.blank (by decide +kernel)) <|
        .answered (Utf8.decode?_encode "dog".toList) (.missed (by decide +kernel) hdog) hrefused
  obtain ⟨output, outcome, hall, houtput, houtcome, hroom⟩ := run_transcribes pets steady mixed
  obtain ⟨rfl, rfl⟩ := (hall _ _).mp (hlines ▸ transcribes)
  obtain ⟨hcut, hfull, _⟩ := hroom 18
  refine ⟨steady, ?_, houtcome, ?_, hfull.mpr ?_⟩
  · rw [houtput]
    decide +kernel
  · rw [hcut]
    decide +kernel
  · decide +kernel

end Console

end IndexSearch
