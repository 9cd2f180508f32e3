import CommentSwitch.CommandLine.Invocation
import CommentSwitch.Proofs.Keywords.Extensions
import CommentSwitch.Proofs.Settings.Chains
import CommentSwitch.Proofs.Yaml.Survival

/-!
# Registered keyword sets

However settings have come about, their extensions have been registered: those of a file when it is
read, and laying settings over others or changing them on the command line adds none.

- `SettingsFile.isRegistered_of_load`: the extensions of a file
- `Settings.isRegistered_of_load`: those of the settings of a run
-/

namespace CommentSwitch

open Yaml (Load Node)

/-! ## §1 Files -/

theorem KeywordRegistry.load_ensures (depth : Nat) (n : Node) :
    (KeywordRegistry.load depth n).Ensures IsRegistered := by
  apply Load.Ensures.after
  intro entries
  apply Load.Ensures.after
  intro sets
  exact .pure (isRegistered_ofList _)

namespace SettingsFile

variable {file : SettingsFile}

/-- A field leaves the keyword sets as they are, or it holds them. -/
theorem loadField_ensures (hfile : file.settings.keywords.IsRegistered) (depth : Nat) (n : Node)
    (field : Field) :
    (loadField file depth n field).Ensures (·.settings.keywords.IsRegistered) := by
  cases field with
  -- No other field touches them.
  | keywords => exact (KeywordRegistry.load_ensures depth n).bind fun r hr => .pure hr
  | _ => exact .after fun _ => .pure hfile

theorem loadFields_ensures (hfile : file.settings.keywords.IsRegistered) (depth : Nat)
    (seen : List Field) (l : List (Node × Node)) :
    (loadFields depth seen file l).Ensures (·.settings.keywords.IsRegistered) := by
  induction l generalizing seen file with
  | nil => exact .pure hfile
  | cons e l ih =>
    unfold loadFields
    apply Load.Ensures.after
    intro name
    split
    · exact ih hfile seen
    · next field hfield =>
      split
      · exact .mismatch
      · refine Load.Ensures.bind (loadField_ensures hfile depth e.2 field) ?_
        intro next hnext
        exact ih hnext (field :: seen)

/-- The extensions of a file are registered when it is read. -/
theorem isRegistered_of_load {t : Text} (h : load t = .ok file) :
    file.settings.keywords.IsRegistered := by
  apply Load.Ensures.load _ h
  intro root
  apply Load.Ensures.after
  intro entries
  apply loadFields_ensures
  intro e he
  cases he

end SettingsFile

/-! ## §2 Chains -/

namespace Settings

variable {read? : Text → Option SettingsFile} {fs : FileSystem}

theorem exists_of_fileAt {file : Path} {said : SettingsFile}
    (h : fileAt read? fs file = .ok said) : ∃ t, read? t = some said := by
  unfold fileAt at h
  split at h
  · cases h
  · next t htext =>
    split at h
    · cases h
    · next said' hread =>
      cases h
      exact ⟨t, hread⟩

/-- A layer of a chain is what one of its files says. -/
theorem Chain.exists_read {file : Path} {layers : List Settings}
    (h : Chain read? fs file layers) {layer : Settings} (hlayer : layer ∈ layers) :
    ∃ t said, read? t = some said ∧ layer = said.settings := by
  induction h with
  | @last _ said hfile _ =>
    obtain ⟨t, hread⟩ := exists_of_fileAt hfile
    exact ⟨t, said, hread, List.mem_singleton.mp hlayer⟩
  | @next _ said _ _ hfile _ _ _ ih =>
    obtain ⟨t, hread⟩ := exists_of_fileAt hfile
    rcases List.mem_cons.mp hlayer with rfl | hrest
    · exact ⟨t, said, hread, rfl⟩
    · exact ih hrest

/-- Layers add no extensions. -/
theorem Merges.isRegistered {layers : List Settings} {s : Settings} (h : Merges layers s)
    (hlayers : ∀ layer ∈ layers, layer.keywords.IsRegistered) : s.keywords.IsRegistered := by
  intro e he
  have hget : s.keywords.get? e.1 = some e.2 := Dictionary.get?_eq_some_iff.mpr he
  rw [h.keywords] at hget
  obtain ⟨layer, hlayer, hlayerGet⟩ := List.exists_of_findSome?_eq_some hget
  exact hlayers layer hlayer e (Dictionary.get?_eq_some_iff.mp hlayerGet)

theorem isRegistered_standard : standard.keywords.IsRegistered := by
  intro e he
  cases he

/-- The settings of a run have registered extensions, wherever they come from. -/
theorem isRegistered_of_load {home : Path} {given : Option Path} {s : Settings}
    (h : Settings.load fs home given = .ok s) : s.keywords.IsRegistered := by
  unfold Settings.load find at h
  dsimp only at h
  split at h
  · obtain ⟨layers, hchain, -, hmerges⟩ := ofChain_eq_ok_iff.mp h
    apply hmerges.isRegistered
    intro layer hlayer
    obtain ⟨t, said, hread, rfl⟩ := hchain.exists_read hlayer
    cases hload : SettingsFile.load t with
    | error fault =>
      rw [hload] at hread
      cases hread
    | ok file =>
      rw [hload] at hread
      cases hread
      exact SettingsFile.isRegistered_of_load hload
  · split at h
    · cases h
    · cases h
      exact isRegistered_standard

end Settings

end CommentSwitch
