import EpisodeGuide.Episode.Basic
import Mathlib.Data.List.Basic

/-! # Stable sorting of listings

Sorting a listing keeps its episodes, puts them in order, and leaves those with the same season
and number as they follow each other. -/

namespace EpisodeGuide.Episode

theorem precedes_iff (a b : Episode) :
    a.Precedes b ↔ a.season.toNat < b.season.toNat ∨
      (a.season.toNat = b.season.toNat ∧ a.number.toNat ≤ b.number.toNat) := by
  rw [Precedes, UInt32.lt_iff_toNat_lt, UInt32.le_iff_toNat_le, UInt32.toNat_inj]

theorem precedes_total (a b : Episode) : a.Precedes b ∨ b.Precedes a := by
  rw [precedes_iff, precedes_iff]
  omega

theorem Precedes.trans {a b c : Episode} (hab : a.Precedes b) (hbc : b.Precedes c) :
    a.Precedes c := by
  rw [precedes_iff] at *
  omega

def isAt (season number : UInt32) (e : Episode) : Bool :=
  e.season = season ∧ e.number = number

/-- The same episodes in order, where those with the same season and number follow each other as
they did before. -/
structure StablySorted (before after : List Episode) : Prop where
  perm : after.Perm before
  ordered : after.Pairwise Precedes
  stable : ∀ season number, after.filter (isAt season number) = before.filter (isAt season number)

theorem pairwise_isAt (season number : UInt32) (es : List Episode) :
    (es.filter (isAt season number)).Pairwise (fun a b => decide (a.Precedes b)) := by
  refine List.pairwise_of_forall_mem_list ?_
  intro a ha b hb
  have hat := List.of_mem_filter ha
  have hbt := List.of_mem_filter hb
  simp only [isAt, decide_eq_true_eq] at hat hbt
  simp [Precedes, hat, hbt]

theorem sorted_eq_nil_iff (es : List Episode) : sorted es = [] ↔ es = [] := by
  rw [← List.length_eq_zero_iff, sorted, List.length_mergeSort, List.length_eq_zero_iff]

theorem sorted_stablySorted (es : List Episode) : StablySorted es (sorted es) := by
  have htrans : ∀ a b c : Episode, decide (a.Precedes b) → decide (b.Precedes c) →
      decide (a.Precedes c) := by
    intro a b c hab hbc
    rw [decide_eq_true_eq] at *
    exact hab.trans hbc
  have htotal : ∀ a b : Episode, decide (a.Precedes b) || decide (b.Precedes a) := by
    intro a b
    simpa using precedes_total a b
  have hperm : (sorted es).Perm es := List.mergeSort_perm es _
  refine ⟨hperm, ?_, ?_⟩
  · exact (List.pairwise_mergeSort htrans htotal es).imp of_decide_eq_true
  · intro season number
    -- Episodes that do not disturb the order keep theirs, and there are no others.
    have hsub : (es.filter (isAt season number)).Sublist (sorted es) :=
      List.sublist_mergeSort htrans htotal (pairwise_isAt season number es) List.filter_sublist
    have hfiltered := hsub.filter (isAt season number)
    rw [List.filter_filter] at hfiltered
    simp only [Bool.and_self] at hfiltered
    exact (hfiltered.eq_of_length (hperm.filter _).length_eq.symm).symm

end EpisodeGuide.Episode
