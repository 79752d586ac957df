import Fermentationsschrank.Core.Format
import Mathlib.Data.List.Basic

/-!
# Searching in bytes

The searches of a string, from a position on.  A search goes through all that is left of
the text; the lemmas say what it finds where the text is known piece by piece.
-/

namespace Fermentationsschrank

/-- The first place where the text continues with the pattern. -/
def find (pattern : Bytes) : Bytes → Option ℕ
  | [] => if pattern.isEmpty then some 0 else none
  | byte :: rest =>
      if pattern.isPrefixOf (byte :: rest) then some 0 else (find pattern rest).map (· + 1)

def findFrom (pattern text : Bytes) (position : ℕ) : Option ℕ :=
  if position ≤ text.length then (find pattern (text.drop position)).map (position + ·) else none

/-- The first place with a byte other than the given ones. -/
def findFirstNotOf (bytes text : Bytes) (position : ℕ) : Option ℕ :=
  ((text.drop position).findIdx? fun byte => !bytes.contains byte).map (position + ·)

/-- The bytes between two positions. -/
def slice (text : Bytes) (start stop : ℕ) : Bytes := (text.drop start).take (stop - start)

variable {pattern text line rest : Bytes} {position found : ℕ}

/-- Where the pattern is found, the text takes up with it. -/
theorem find_eq_some (h : find pattern text = some found) :
    ∃ rest, text = text.take found ++ (pattern ++ rest) ∧ found ≤ text.length := by
  induction text generalizing found with
  | nil =>
      rw [find] at h
      split_ifs at h with hempty
      cases h
      rw [List.isEmpty_iff.mp hempty]
      exact ⟨[], rfl, Nat.le_refl _⟩
  | cons byte text ih =>
      rw [find] at h
      split_ifs at h with hhere
      · cases h
        obtain ⟨rest, hrest⟩ := List.isPrefixOf_iff_prefix.mp hhere
        exact ⟨rest, hrest.symm, Nat.zero_le _⟩
      · obtain ⟨later, hlater, rfl⟩ := Option.map_eq_some_iff.mp h
        obtain ⟨rest, hrest, hle⟩ := ih hlater
        refine ⟨rest, ?_, Nat.succ_le_succ hle⟩
        rw [List.take_succ_cons, List.cons_append, ← hrest]

/-- A pattern is not found before its first byte. -/
theorem find_append {first : Byte} (hline : first ∉ line) :
    find (first :: pattern) (line ++ (first :: pattern ++ rest)) = some line.length := by
  induction line with
  | nil =>
      rw [List.nil_append, List.cons_append, find, if_pos]
      · rfl
      · exact List.isPrefixOf_iff_prefix.mpr (List.prefix_append (first :: pattern) rest)
  | cons byte line ih =>
      have hhere : ¬(first :: pattern).isPrefixOf (byte :: (line ++ (first :: pattern ++ rest))) :=
        fun hhere => hline (by
          rw [(List.cons_prefix_cons.mp (List.isPrefixOf_iff_prefix.mp hhere)).1]
          exact List.mem_cons_self)
      rw [List.cons_append, find, if_neg hhere, ih fun hmem => hline (List.mem_cons_of_mem _ hmem)]
      rfl

theorem findFrom_eq (hposition : position ≤ text.length) :
    findFrom pattern text position = (find pattern (text.drop position)).map (position + ·) :=
  if_pos hposition

theorem length_slice {start stop : ℕ} (hstop : stop ≤ text.length) :
    (slice text start stop).length = stop - start := by
  rw [slice, List.length_take, List.length_drop]
  omega

theorem findFrom_eq_some (h : findFrom pattern text position = some found) :
    position ≤ found ∧ found + pattern.length ≤ text.length ∧
      ∃ rest, text.drop position = slice text position found ++ (pattern ++ rest) := by
  rw [findFrom] at h
  split_ifs at h with hposition
  obtain ⟨place, hplace, rfl⟩ := Option.map_eq_some_iff.mp h
  obtain ⟨rest, hrest, hle⟩ := find_eq_some hplace
  have hlength := congrArg List.length hrest
  rw [List.length_append, List.length_append, List.length_take, List.length_drop] at hlength
  rw [List.length_drop] at hle
  refine ⟨by omega, by omega, rest, ?_⟩
  rwa [slice, Nat.add_sub_cancel_left]

theorem findFrom_append {first : Byte} (hposition : position ≤ text.length)
    (htext : text.drop position = line ++ (first :: pattern ++ rest)) (hline : first ∉ line) :
    findFrom (first :: pattern) text position = some (position + line.length) := by
  rw [findFrom_eq hposition, htext, find_append hline, Option.map_some]

/-- A slice around a byte that was found. -/
theorem slice_eq_append {start middle stop : ℕ} {first : Byte} (hmiddle : middle < stop)
    (hstart : start ≤ middle) (hlength : middle ≤ text.length)
    (htext : text.drop start = slice text start middle ++ ([first] ++ rest)) :
    slice text start stop = slice text start middle ++ first :: slice text (middle + 1) stop := by
  have hrest : text.drop (middle + 1) = rest := by
    have hdrop : text.drop (middle + 1) = (text.drop start).drop (middle - start + 1) := by
      rw [List.drop_drop]
      congr 1
      omega
    rw [hdrop, htext, ← List.drop_drop, ← length_slice hlength, List.drop_left]
    rfl
  rw [slice, htext, List.take_append, length_slice hlength, List.take_of_length_le (by
    rw [length_slice hlength]
    omega)]
  have hsteps : stop - start - (middle - start) = stop - (middle + 1) + 1 := by omega
  have htail : slice text (middle + 1) stop = rest.take (stop - (middle + 1)) := by
    rw [slice, hrest]
  rw [hsteps, List.singleton_append, List.take_succ_cons, htail]

end Fermentationsschrank
