import CommentSwitch.Diagnostic
import CommentSwitch.Files.Path

/-!
# Failures

What makes the conversion of files fail: a fault in the directives of a file, a request
that is refused, or an operation on files that can not be carried out.

- `Failure.text`: the wording of a failure
-/

namespace CommentSwitch

/-- What makes the conversion of files fail. -/
inductive Failure
  /-- The directives of a file are at fault. -/
  | directives (d : Diagnostic)
  /-- A batch without sources. -/
  | sourcesMissing
  | pathMissing (p : Path)
  /-- Clearing the target would remove a source. -/
  | sourceInTarget (target source : Path)
  | targetNotCleared (target : Path)
  /-- A source file whose path has no last name. -/
  | sourceUnnamed (source : Path)
  /-- A source that is gone after the target has been cleared. -/
  | sourceNotWalked (source : Path)
  | directoryNotCreated (p : Path)
  | fileNotCopied (input output : Path)
  | fileNotWritten (output : Path)
  | summaryNotWritten (summary : Path)
  deriving DecidableEq, Repr

/-- The wording of a failure. -/
def Failure.text : Failure → Text
  | directives d => d.message
  | sourcesMissing => Text.ofString "No sources defined"
  | pathMissing p => Text.ofString "Path does not exist: " ++ p.text
  | sourceInTarget target source =>
    Text.ofString "Target " ++ target.text ++ Text.ofString " must not contain source "
      ++ source.text
  | targetNotCleared target =>
    Text.ofString "Failed to clear target directory " ++ target.text
  | sourceUnnamed source => Text.ofString "Invalid source file: " ++ source.text
  | sourceNotWalked source => Text.ofString "Failed to walk " ++ source.text
  | directoryNotCreated p => Text.ofString "Failed to create directory " ++ p.text
  | fileNotCopied input output =>
    Text.ofString "Failed to copy " ++ input.text ++ Text.ofString " to " ++ output.text
  | fileNotWritten output => Text.ofString "Failed to write " ++ output.text
  | summaryNotWritten summary => Text.ofString "Failed to write summary " ++ summary.text

end CommentSwitch
