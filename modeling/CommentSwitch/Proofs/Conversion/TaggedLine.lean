import CommentSwitch.Conversion.Tag
import CommentSwitch.Proofs.Keywords.Recognition

/-!
# Lines that are switched off and on

What a tag does to a line, and how a tagged line is read again.

- `Tag.comment_cases`: the three forms of a line that has been switched off
- `Tag.restore_tagged`: what is behind the tag comes back
- `Tag.trim_uncomment`: the trimmed form of a line whose tag has been taken away
- `Keywords.classify_tagged`: a tagged line is code
-/

namespace CommentSwitch

namespace Tag

/-! ## §1 Tagged lines -/

/-- A tag that is not empty and has no blank at its ends. -/
structure Proper (tag : Text) : Prop where
  ne_nil : tag ≠ []
  trim_eq : Text.trim tag = tag

/-- The line with a tag at indentation `d` and `body` behind the tag. -/
def tagged (tag : Text) (d : Nat) (body : Text) : Text := Text.spaces d ++ (tag ++ body)

/-- A line without its tag, if it has one. -/
def restore (tag line : Text) : Text :=
  if Text.startsWith tag (Text.trim line) then uncomment tag line else line

theorem restore_of_untagged {tag line : Text}
    (hplain : Text.startsWith tag (Text.trim line) = false) : restore tag line = line := by
  simp [restore, hplain]

theorem comment_of_blank {tag line : Text} {d : Nat} (hblank : Text.trim line = []) :
    comment tag d line = tagged tag d [] := by
  simp [comment, tagged, hblank]

theorem comment_of_aligned {tag line : Text} {d : Nat} (htext : Text.trim line ≠ [])
    (hplain : Text.startsWith tag (Text.trim line) = false)
    (hd : d ≤ Text.indentation line) :
    comment tag d line = tagged tag d (' ' :: line.drop d) := by
  simp [comment, tagged, htext, hplain, hd]

theorem comment_of_startsWith {tag line : Text} {d : Nat} (htext : Text.trim line ≠ [])
    (htag : Text.startsWith tag (Text.trim line) = true) : comment tag d line = line := by
  simp [comment, htext, htag]

theorem comment_of_shallow {tag line : Text} {d : Nat} (htext : Text.trim line ≠ [])
    (hd : ¬ d ≤ Text.indentation line) : comment tag d line = line := by
  simp [comment, htext, hd]

/-- A line that has been switched off is a bare tag, a tagged line, or what it was. -/
theorem comment_cases (tag : Text) (d : Nat) (line : Text) :
    (Text.trim line = [] ∧ comment tag d line = tagged tag d []) ∨
    (Text.trim line ≠ [] ∧ Text.startsWith tag (Text.trim line) = false ∧
      d ≤ Text.indentation line ∧ comment tag d line = tagged tag d (' ' :: line.drop d)) ∨
    (Text.trim line ≠ [] ∧
      (Text.startsWith tag (Text.trim line) = true ∨ ¬ d ≤ Text.indentation line) ∧
      comment tag d line = line) := by
  by_cases htext : Text.trim line = []
  · exact .inl ⟨htext, comment_of_blank htext⟩
  by_cases hd : d ≤ Text.indentation line
  · cases hplain : Text.startsWith tag (Text.trim line) with
    | false => exact .inr (.inl ⟨htext, rfl, hd, comment_of_aligned htext hplain hd⟩)
    | true => exact .inr (.inr ⟨htext, .inl rfl, comment_of_startsWith htext hplain⟩)
  · exact .inr (.inr ⟨htext, .inr hd, comment_of_shallow htext hd⟩)

/-! ## §2 Reading a tagged line -/

theorem trim_dropSpace (t : Text) : Text.trim (dropSpace t) = Text.trim t := by
  unfold dropSpace
  split
  · next rest => rw [Text.trim_cons_space]
  · rfl

section Proper

variable {tag : Text} (htag : Proper tag)

include htag

theorem trimStart_tagged (d : Nat) (body : Text) :
    Text.trimStart (tagged tag d body) = tag ++ body := by
  rw [tagged, Text.trimStart_append_of_blank fun c hc => Text.isBlank_of_mem_spaces hc,
    Text.trimStart_append_of_trimmed htag.trim_eq htag.ne_nil]

theorem leadingBlank_tagged (d : Nat) (body : Text) :
    Text.leadingBlank (tagged tag d body) = Text.spaces d := by
  rw [tagged, Text.leadingBlank_append_of_blank fun c hc => Text.isBlank_of_mem_spaces hc,
    Text.leadingBlank_append_of_trimmed htag.trim_eq htag.ne_nil, List.append_nil]

theorem trim_tagged (d : Nat) (body : Text) :
    Text.trim (tagged tag d body) = tag ++ Text.trimEnd body := by
  rw [Text.trim, trimStart_tagged htag, Text.trimEnd_append_of_trimmed htag.trim_eq]

theorem startsWith_trim_tagged (d : Nat) (body : Text) :
    Text.startsWith tag (Text.trim (tagged tag d body)) = true := by
  rw [trim_tagged htag]
  exact Text.startsWith_iff.mpr (List.prefix_append _ _)

theorem trim_tagged_ne_nil (d : Nat) (body : Text) : Text.trim (tagged tag d body) ≠ [] := by
  rw [trim_tagged htag]
  exact List.append_ne_nil_of_left_ne_nil htag.ne_nil _

/-- What is behind the tag comes back, less one space, at the indentation of the tag. -/
theorem restore_tagged (d : Nat) (body : Text) :
    restore tag (tagged tag d body) = Text.spaces d ++ dropSpace body := by
  rw [restore, if_pos (startsWith_trim_tagged htag d body), uncomment, leadingBlank_tagged htag,
    trimStart_tagged htag, List.drop_left]

theorem comment_tagged (d d' : Nat) (body : Text) :
    comment tag d (tagged tag d' body) = tagged tag d' body :=
  comment_of_startsWith (trim_tagged_ne_nil htag d' body) (startsWith_trim_tagged htag d' body)

theorem restore_of_blank {line : Text} (hblank : Text.trim line = []) :
    restore tag line = line := by
  refine if_neg fun h => ?_
  rw [hblank] at h
  exact htag.ne_nil (List.prefix_nil.mp (Text.startsWith_iff.mp h))

end Proper

theorem trim_uncomment (tag line : Text) :
    Text.trim (uncomment tag line) = Text.trim ((Text.trimStart line).drop tag.length) := by
  rw [uncomment, Text.trim_append_of_blank fun c hc => Text.isBlank_of_mem_leadingBlank hc,
    trim_dropSpace]

end Tag

namespace Keywords

variable {k : Keywords} (hvalid : k.validate = .ok ()) (hcompact : k.Compact)

include hvalid hcompact

theorem proper_evalToken : Tag.Proper k.evalToken :=
  ⟨token_ne_nil hvalid .evalRole, hcompact.trim_evalToken⟩

/-- A line with nothing but blank next to its tag is code. -/
theorem classify_tagged (d : Nat) {body : Text} (hbody : ∀ c ∈ body.head?, Text.isBlank c = true) :
    k.classify (Text.trim (Tag.tagged k.evalToken d body)) = .code := by
  rw [Tag.trim_tagged (proper_evalToken hvalid hcompact)]
  refine classify_token_append_of_compact hvalid hcompact .evalRole fun c hc => hbody c ?_
  obtain ⟨blank, hblank⟩ : Text.trimEnd body <+: body := List.rdropWhile_prefix Text.isBlank body
  rw [← hblank, List.head?_append, Option.mem_def.mp hc]
  rfl

theorem classify_tagged_space (d : Nat) (body : Text) :
    k.classify (Text.trim (Tag.tagged k.evalToken d (' ' :: body))) = .code := by
  refine classify_tagged hvalid hcompact d fun c hc => ?_
  obtain rfl : ' ' = c := by simpa using hc
  decide

end Keywords

end CommentSwitch
