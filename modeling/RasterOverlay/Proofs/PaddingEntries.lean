import Mathlib
import RasterOverlay.Padding

/-!
Which template a key has after templates have been put in, one after another: the last one that was
given for it, whatever was given for other keys.
-/

namespace RasterOverlay.Padding

theorem lookup_cons_eq_ite (entry : String × String) (entries : List (String × String))
    (key : String) :
    (entry :: entries).lookup key = if key = entry.1 then some entry.2 else entries.lookup key := by
  rw [List.lookup_cons]
  by_cases hkey : key = entry.1
  · rw [if_pos hkey, beq_iff_eq.mpr hkey]
  · rw [if_neg hkey, beq_false_of_ne hkey]

theorem lookup_insertEntry (key template other : String) (entries : List (String × String)) :
    (insertEntry key template entries).lookup other =
      if other = key then some template else entries.lookup other := by
  induction entries with
  | nil => rw [insertEntry, lookup_cons_eq_ite]
  | cons entry rest ih =>
    rw [insertEntry, lookup_cons_eq_ite]
    by_cases hkey : key = entry.1
    · rw [if_pos hkey, lookup_cons_eq_ite, ← hkey]
      by_cases hother : other = key
      · rw [if_pos hother, if_pos hother]
      · rw [if_neg hother, if_neg hother, if_neg hother]
    · rw [if_neg hkey]
      by_cases hplace : key < entry.1
      · rw [if_pos hplace, lookup_cons_eq_ite, lookup_cons_eq_ite]
      · rw [if_neg hplace, lookup_cons_eq_ite, ih]
        by_cases hother : other = key
        · rw [if_pos hother, if_neg (hother ▸ hkey), if_pos hother]
        · rw [if_neg hother, if_neg hother]

theorem template?_insert (p : Padding) (key template other : String) :
    (p.insert key template).template? other =
      if other = key then some template else p.template? other :=
  lookup_insertEntry key template other p.entries

theorem template?_ofList (entries : List (String × String)) (key : String) :
    (ofList entries).template? key = entries.reverse.lookup key := by
  -- the last entry is put in last, so the induction takes entries off the end
  induction entries using List.reverseRecOn with
  | nil => rfl
  | append_singleton before entry ih =>
    rw [ofList] at ih ⊢
    rw [List.foldl_append, List.foldl_cons, List.foldl_nil, template?_insert, ih,
      List.reverse_append, List.reverse_singleton, List.singleton_append, lookup_cons_eq_ite]

/-- A key has the template of its last entry. -/
theorem template?_ofList_eq_some_iff {entries : List (String × String)} {key template : String} :
    (ofList entries).template? key = some template ↔
      ∃ before after, entries = before ++ (key, template) :: after ∧
        ∀ entry ∈ after, entry.1 ≠ key := by
  rw [template?_ofList, List.lookup_eq_some_iff]
  constructor
  · rintro ⟨after, before, hentries, hafter⟩
    refine ⟨before.reverse, after.reverse, ?_, fun entry hentry => ?_⟩
    · rw [← List.reverse_inj, hentries]
      simp
    · exact (bne_iff_ne.mp (hafter entry (List.mem_reverse.mp hentry))).symm
  · rintro ⟨before, after, rfl, hafter⟩
    refine ⟨after.reverse, before.reverse, by simp, fun entry hentry => ?_⟩
    exact bne_iff_ne.mpr (hafter entry (List.mem_reverse.mp hentry)).symm

end RasterOverlay.Padding
