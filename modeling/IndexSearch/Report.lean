import IndexSearch.Text.Numeral

/-!
# Failure reports

What a command says when it fails: a message and the causes behind it, outermost first, on one
line or as a block of lines.
-/

namespace IndexSearch

/-- A message with the causes behind it. -/
structure Report where
  message : Text
  causes : List Text := []
deriving DecidableEq, Repr

namespace Report

def within (report : Report) (context : Text) : Report :=
  ⟨context, report.message :: report.causes⟩

def oneLine (report : Report) : Text :=
  ": ".toList.intercalate (report.message :: report.causes)

/-- A cause with its mark in front; its further lines are indented to the same column. -/
def markedCause (mark indent cause : Text) : Text :=
  mark ++ ('\n' :: indent).intercalate (cause.splitOnP (· == '\n')) ++ ['\n']

/-- Causes are numbered from a number on, right-aligned in five columns. -/
def numberedCauses : Nat → List Text → Text
  | _, [] => []
  | number, cause :: causes =>
    let numeral := Numeral.render number
    markedCause (List.replicate (5 - numeral.length) ' ' ++ numeral ++ ": ".toList)
        (List.replicate 7 ' ') cause
      ++ numberedCauses (number + 1) causes

/-- The message in full, with the causes below it. A single cause carries no number. -/
def block (report : Report) : Text :=
  "Error: ".toList ++ report.message ++ ['\n'] ++
    match report.causes with
    | [] => []
    | [cause] =>
      "\nCaused by:\n".toList ++ markedCause (List.replicate 4 ' ') (List.replicate 4 ' ') cause
    | causes => "\nCaused by:\n".toList ++ numberedCauses 0 causes

end Report

end IndexSearch
