import Mathlib.Data.List.Induction
import Mathlib.Data.List.Nodup

namespace RelationalLearning.Appearance

variable {α : Type} [DecidableEq α]

theorem eraseDups_concat (entries : List α) (last : α) :
    (entries ++ [last]).eraseDups =
      if last ∈ entries then entries.eraseDups else entries.eraseDups ++ [last] := by
  rw [List.eraseDups_append]
  by_cases present : last ∈ entries
  · simp [present, List.removeAll]
  · simp [present, List.removeAll, List.eraseDups_cons]

theorem nodup_eraseDups (entries : List α) : entries.eraseDups.Nodup := by
  induction entries using List.reverseRecOn with
  | nil => exact List.nodup_nil
  | append_singleton entries last ih =>
      rw [eraseDups_concat]
      split
      next => exact ih
      next absent =>
        refine List.nodup_append.mpr ⟨ih, List.nodup_singleton last, ?_⟩
        rintro first member other single rfl
        obtain rfl := List.mem_singleton.mp single
        exact absent (List.mem_eraseDups.mp member)

/-- Who keeps a list of what is new has every entry where it appears first. -/
theorem foldl_eq_eraseDups (entries : List α) :
    entries.foldl (fun seen entry => if seen.contains entry then seen else seen ++ [entry]) [] =
      entries.eraseDups := by
  induction entries using List.reverseRecOn with
  | nil => rfl
  | append_singleton entries last ih =>
      rw [List.foldl_append, ih, eraseDups_concat]
      simp [List.mem_eraseDups]

end RelationalLearning.Appearance
