import CommentSwitch.Report.Outcome

/-!
# Reports on a run

What a run has done, counted over all files and written for a reader or as JSON.

- `Statistics.ofReports`: the counts
- `Report.human`: the report for a reader, plain or in colours
- `Report.json`: the report as JSON
-/

namespace CommentSwitch

/-- The counts of a run. -/
structure Statistics where
  totalFiles : Nat
  transformed : Nat
  copied : Nat
  linesIn : Nat
  linesOut : Nat
  deriving DecidableEq, Repr

namespace Statistics

/-- The counts of no files. -/
def zero : Statistics := ⟨0, 0, 0, 0, 0⟩

/-- Counts the outcome of a file. -/
def add (s : Statistics) : Outcome → Statistics
  | .transformed linesIn linesOut =>
    { s with
      totalFiles := s.totalFiles + 1
      transformed := s.transformed + 1
      linesIn := s.linesIn + linesIn
      linesOut := s.linesOut + linesOut }
  | .copied _ => { s with totalFiles := s.totalFiles + 1, copied := s.copied + 1 }

/-- The counts of some reports. -/
def ofReports (reports : List FileReport) : Statistics :=
  reports.foldl (fun s r => s.add r.outcome) zero

/-- The number of lines that were left out; none if there are more lines than before. -/
def linesRemoved (s : Statistics) : Nat := s.linesIn - s.linesOut

end Statistics

namespace Report

/-! ## §1 For readers -/

/-- A text in a colour of the terminal, if there are colours. -/
def paint (colours : Bool) (code : String) (t : Text) : Text :=
  if colours then Text.ofString "\x1b[" ++ code.toList ++ 'm' :: t ++ Text.ofString "\x1b[0m"
  else t

/-- A number of things, with the ending of several if it is not one. -/
def plural (n : Nat) (thing : String) : Text :=
  Text.ofNat n ++ ' ' :: thing.toList ++ (if n = 1 then [] else ['s'])

/-- The line on a file that was copied. -/
def copiedLine (colours : Bool) (r : FileReport) : Option Text :=
  match r.outcome with
  -- Files that were transformed are only counted.
  | .transformed _ _ => none
  | .copied reason =>
    some (paint colours "1" r.input.text ++ Text.ofString ": "
      ++ paint colours "33" (Text.ofString "copied") ++ ' ' ::
      paint colours "90" ('(' :: reason ++ [')']))

/-- The parts of the last line. -/
def parts (s : Statistics) : List Text :=
  [Text.ofNat s.transformed ++ Text.ofString " transformed"]
    ++ (if 0 < s.copied then [Text.ofNat s.copied ++ Text.ofString " copied verbatim"] else [])
    ++ (if 0 < s.linesRemoved then [plural s.linesRemoved "line" ++ Text.ofString " removed"]
        else [])

/-- The last line of a report. -/
def lastLine (colours : Bool) (s : Statistics) : Text :=
  paint colours "32" (Text.ofString "Preprocessed " ++ plural s.totalFiles "file"
    ++ Text.ofString " (" ++ (Text.ofString ", ").intercalate (parts s) ++ [')'])

/-- The report for a reader: only files that were copied have lines of their own. -/
def human (colours : Bool) (reports : List FileReport) : Text :=
  ['\n'].intercalate (reports.filterMap (copiedLine colours)
    ++ [lastLine colours (Statistics.ofReports reports)])

/-! ## §2 As JSON -/

/-- The counts as JSON. -/
def statisticsJson (s : Statistics) : Json :=
  .object [(Text.ofString "total_files", .number s.totalFiles),
    (Text.ofString "transformed", .number s.transformed),
    (Text.ofString "copied", .number s.copied),
    (Text.ofString "lines_in", .number s.linesIn),
    (Text.ofString "lines_out", .number s.linesOut)]

/-- The report on a file as JSON. -/
def fileJson (r : FileReport) : Json :=
  .object [(Text.ofString "input", .text r.input.text),
    (Text.ofString "output", .text r.output.text), (Text.ofString "outcome", r.outcome.json)]

/-- The report as JSON. -/
def json (reports : List FileReport) : Text :=
  (Json.object [(Text.ofString "stats", statisticsJson (Statistics.ofReports reports)),
    (Text.ofString "files", .array (reports.map fileJson))]).pretty

end Report

end CommentSwitch
