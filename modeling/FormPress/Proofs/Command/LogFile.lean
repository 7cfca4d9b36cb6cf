import FormPress.Command.LogFile
import FormPress.Proofs.Files.Tree

/-!
# What logging leaves alone

Opening the log, writing to it and shifting its backups touch no file but the log and its backups.
-/

namespace FormPress.Command

open FileTree (AgreeOutside)

variable {t t₁ t₂ t₃ opened shifted : FileTree}

/-- The places of the log: its file, its backups, and what may lie below. -/
def IsLogPlace (home names : List String) : Prop :=
  ∃ number ≤ backupLimit, logPlace home number <+: names

theorem isLogPlace_self {home : List String} {number : Nat} (h : number ≤ backupLimit) :
    IsLogPlace home (logPlace home number) :=
  ⟨number, h, List.prefix_rfl⟩

/-- Two trees have the same files beside the log. -/
def LogOnly (t t' : FileTree) : Prop :=
  AgreeOutside (IsLogPlace t.home) t t'

theorem LogOnly.refl (t : FileTree) : LogOnly t t :=
  AgreeOutside.refl _ t

theorem LogOnly.trans (h₁ : LogOnly t₁ t₂) (h₂ : LogOnly t₂ t₃) : LogOnly t₁ t₃ := by
  unfold LogOnly at h₂
  rw [h₁.home_eq] at h₂
  exact AgreeOutside.trans h₁ h₂

theorem LogOnly.of_nowhere (h : AgreeOutside FileTree.nowhere t₁ t₂) : LogOnly t₁ t₂ :=
  AgreeOutside.of_nowhere h

/-! ## The backups -/

theorem logOnly_put (t : FileTree) (bytes : List UInt8) :
    LogOnly t (t.put (logPlace t.home 0) bytes) := by
  refine (FileTree.agreeOutside_put t _ bytes).mono ?_
  rintro _ rfl
  exact isLogPlace_self (Nat.zero_le _)

theorem logOnly_of_shiftLog {number : Nat} (hnumber : number < backupLimit)
    (h : shiftLog number t = some shifted) : LogOnly t shifted := by
  have hremove := FileTree.agreeOutside_remove t (logPlace t.home (number + 1))
  have hrename := FileTree.agreeOutside_rename (t.remove (logPlace t.home (number + 1)))
    (logPlace t.home number) (logPlace t.home (number + 1))
  unfold shiftLog at h
  dsimp only at h
  split at h
  · cases h
    exact .refl t
  · split at h
    · cases h
    · cases h
      refine (hremove.mono ?_).trans (hrename.mono ?_)
      · rintro _ rfl
        exact isLogPlace_self hnumber
      · rintro names (hsource | htarget)
        · exact ⟨number, Nat.le_of_lt hnumber, hsource⟩
        · exact ⟨number + 1, hnumber, htarget⟩

theorem logOnly_rollOver {number : Nat} (hnumber : number ≤ backupLimit) (t : FileTree) :
    LogOnly t (rollOver number t).1 := by
  induction number generalizing t with
  | zero => exact .refl t
  | succ number ih =>
    rw [rollOver]
    split
    · exact .refl t
    · rename_i shifted hshift
      exact (logOnly_of_shiftLog hnumber hshift).trans (ih (Nat.le_of_succ_le hnumber) shifted)

/-! ## Lines -/

theorem logOnly_writeLine (stamp : String) (t : FileTree) (l : LogLine) :
    LogOnly t (writeLine stamp t l) := by
  unfold writeLine
  dsimp only
  split
  · have hrolled := logOnly_rollOver (Nat.le_refl backupLimit) t
    split
    · rw [← hrolled.home_eq]
      exact hrolled.trans (logOnly_put _ _)
    · exact hrolled
  · exact logOnly_put t _

/-- Lines go to the log only. -/
theorem logOnly_addToLog (stamp : String) (lines : List LogLine) (t : FileTree) :
    LogOnly t (addToLog stamp lines t) := by
  induction lines generalizing t with
  | nil => exact .refl t
  | cons l rest ih => exact (logOnly_writeLine stamp t l).trans (ih (writeLine stamp t l))

/-- Opening the log touches no file beside it. -/
theorem logOnly_of_withLog (h : withLog t = .ok opened) : LogOnly t opened := by
  have hway := t.agreeOutside_makeDirectory logPath.parent
  unfold withLog at h
  dsimp only at h
  split at h
  · cases h
  split at h
  · cases h
  · cases h
    exact .of_nowhere hway
  · cases h
    rw [← hway.home_eq]
    exact (LogOnly.of_nowhere hway).trans (logOnly_put _ _)

end FormPress.Command
