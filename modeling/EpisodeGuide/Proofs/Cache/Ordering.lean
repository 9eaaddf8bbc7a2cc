import EpisodeGuide.Cache.Table
import EpisodeGuide.Proofs.Binary64.Value

/-! # The order of reading

Cells of every class are ordered by a key: their class first, then the exact value of a number, the
characters of a text or the bytes of a blob. So the order of rows is total and transitive, and the
rows of a series have one order of reading, in which rows with equal keys stay as they were
inserted. -/

namespace EpisodeGuide

open Std

/-! ### Cells -/

namespace Cell

/-- The number in a cell, the infinities at the ends. -/
def value : Cell → WithBot (WithTop ℚ)
  | .integer i => ((i : ℚ) : WithTop ℚ)
  | .real x => (x.value : WithTop ℚ)
  | .infinite false => ⊤
  | .infinite true | .text _ | .blob _ => ⊥

def characters : Cell → String
  | .text s => s
  | _ => ""

def octets : Cell → List UInt8
  | .blob bytes => bytes
  | _ => []

theorem compareBytes_eq (a b : List UInt8) : compareBytes a b = compare a b := by
  induction a generalizing b with
  | nil => cases b <;> rfl
  | cons x a ih =>
      cases b with
      | nil => rfl
      | cons y b =>
          rw [compareBytes, ih, List.compare_cons_cons]

theorem compare_coe (p q : ℚ) :
    compare ((p : WithTop ℚ) : WithBot (WithTop ℚ)) (q : WithTop ℚ) = compare p q := by
  rw [← cmp_eq_compare, WithBot.coe_strictMono.cmp_map_eq, WithTop.coe_strictMono.cmp_map_eq,
    cmp_eq_compare]

theorem compare_coe_top (q : ℚ) :
    compare ((q : WithTop ℚ) : WithBot (WithTop ℚ)) ⊤ = .lt := by
  rw [compare_lt_iff_lt, ← WithBot.coe_top, WithBot.coe_lt_coe]
  exact WithTop.coe_lt_top q

theorem compare_bot_coe (q : ℚ) :
    compare ⊥ ((q : WithTop ℚ) : WithBot (WithTop ℚ)) = .lt := by
  rw [compare_lt_iff_lt]
  exact WithBot.bot_lt_coe _

/-- Numbers are ordered by their value. -/
theorem order_of_numbers {c d : Cell} (hc : c.rank = 0) (hd : d.rank = 0) :
    c.order d = compare c.value d.value := by
  have hint (i j : ℤ) : compare (i : ℚ) j = compare i j := by
    rw [← cmp_eq_compare, Int.cast_strictMono.cmp_map_eq, cmp_eq_compare]
  have hends : compare (⊥ : WithBot (WithTop ℚ)) ⊤ = .lt := compare_lt_iff_lt.mpr bot_lt_top
  have hback : compare (⊤ : WithBot (WithTop ℚ)) ⊥ = .gt := compare_gt_iff_gt.mpr bot_lt_top
  have hbelow (q : ℚ) : compare ⊤ ((q : WithTop ℚ) : WithBot (WithTop ℚ)) = .gt := by
    rw [OrientedOrd.eq_swap, compare_coe_top, Ordering.swap]
  have habove (q : ℚ) : compare ((q : WithTop ℚ) : WithBot (WithTop ℚ)) ⊥ = .gt := by
    rw [OrientedOrd.eq_swap, compare_bot_coe, Ordering.swap]
  cases c with
  | integer i =>
      cases d with
      | integer j => rw [order, value, value, compare_coe, hint]
      | real y => rw [order, value, value, compare_coe, Binary64.compareInt_eq]
      | infinite negative => cases negative <;> simp [order, value, compare_coe_top, habove]
      | text t => cases hd
      | blob b => cases hd
  | real x =>
      cases d with
      | integer j =>
          rw [order, value, value, compare_coe, Binary64.compareInt_eq, ← OrientedOrd.eq_swap]
      | real y => rw [order, value, value, compare_coe, Binary64.compareExact_eq]
      | infinite negative => cases negative <;> simp [order, value, compare_coe_top, habove]
      | text t => cases hd
      | blob b => cases hd
  | infinite negative =>
      cases d with
      | integer j => cases negative <;> simp [order, value, compare_bot_coe, hbelow]
      | real y => cases negative <;> simp [order, value, compare_bot_coe, hbelow]
      | infinite other =>
          cases negative <;> cases other <;> simp [order, value, hends, hback]
      | text t => cases hd
      | blob b => cases hd
  | text s => cases hc
  | blob b => cases hc

theorem order_of_rank_ne {c d : Cell} (h : c.rank ≠ d.rank) :
    c.order d = compare c.rank d.rank := by
  cases c with
  | infinite negative => cases negative <;> cases d <;> first | rfl | exact (h rfl).elim
  | integer | real | text | blob => cases d <;> first | rfl | exact (h rfl).elim

theorem order_of_rank_eq {c d : Cell} (h : c.rank = d.rank) :
    c.order d = (compare c.value d.value).then
      ((compare c.characters d.characters).then (compare c.octets d.octets)) := by
  by_cases hnumber : c.rank = 0
  · have hc : c.characters = "" ∧ c.octets = [] := by
      cases c <;> first | exact ⟨rfl, rfl⟩ | cases hnumber
    have hd : d.characters = "" ∧ d.octets = [] := by
      cases d <;> first | exact ⟨rfl, rfl⟩ | cases h.symm.trans hnumber
    rw [order_of_numbers hnumber (h.symm.trans hnumber), hc.1, hd.1, hc.2, hd.2]
    simp
  · cases c with
    | text s =>
        cases d with
        | text t => simp [order, value, characters, octets, compareText]
        | integer | real | infinite | blob => cases h
    | blob a =>
        cases d with
        | blob b => simp [order, value, characters, octets, compareBytes_eq]
        | integer | real | infinite | text => cases h
    | integer | real | infinite => exact (hnumber rfl).elim

/-- Cells are ordered by class, and within their class by what they hold. -/
theorem order_eq (c d : Cell) :
    c.order d = (compare c.rank d.rank).then ((compare c.value d.value).then
      ((compare c.characters d.characters).then (compare c.octets d.octets))) := by
  by_cases h : c.rank = d.rank
  · rw [order_of_rank_eq h, h, ReflOrd.compare_self, Ordering.eq_then]
  · rw [order_of_rank_ne h]
    rcases Nat.lt_or_gt_of_ne h with hlt | hgt
    · rw [Nat.compare_eq_lt.mpr hlt, Ordering.lt_then]
    · rw [Nat.compare_eq_gt.mpr hgt, Ordering.gt_then]

instance : Ord Cell := ⟨order⟩

instance : TransOrd Cell := by
  have h : order = compareLex (compareOn rank) (compareLex (compareOn value)
      (compareLex (compareOn characters) (compareOn octets))) := by
    funext c d
    exact order_eq c d
  change TransCmp order
  rw [h]
  infer_instance

end Cell

/-! ### Rows -/

namespace Row

instance : TransCmp order :=
  inferInstanceAs (TransCmp (compareLex (compareOn Row.season) (compareOn Row.number)))

/-- Rows in the order of reading: by season and number, and as they were inserted where these are
equal. -/
structure InReadingOrder (before after : List Row) : Prop where
  perm : after.Perm before
  ordered : after.Pairwise fun a b => (a.order b).isLE
  stable : ∀ r, after.filter (fun x => x.order r == .eq) = before.filter fun x => x.order r == .eq

/-- The first rows of two such lists have equal keys, so they are the first ones with that key. -/
theorem order_head_eq {x y : Row} {xs ys : List Row} (hperm : (x :: xs).Perm (y :: ys))
    (hxs : (x :: xs).Pairwise fun a b => (a.order b).isLE)
    (hys : (y :: ys).Pairwise fun a b => (a.order b).isLE) : x.order y = .eq := by
  have hself (r : Row) : (r.order r).isLE := by
    have heq : r.order r = .eq := ReflCmp.compare_self
    rw [heq]
    rfl
  rw [List.pairwise_cons] at hxs hys
  apply OrientedCmp.isLE_antisymm
  · rcases List.mem_cons.mp (hperm.mem_iff.mpr (List.mem_cons_self ..)) with rfl | hy
    · exact hself y
    · exact hxs.1 y hy
  · rcases List.mem_cons.mp (hperm.mem_iff.mp (List.mem_cons_self ..)) with rfl | hx
    · exact hself x
    · exact hys.1 x hx

theorem InReadingOrder.unique {before xs ys : List Row} (hxs : InReadingOrder before xs)
    (hys : InReadingOrder before ys) : xs = ys := by
  induction xs generalizing before ys with
  | nil => exact List.Perm.nil_eq (hxs.perm.trans hys.perm.symm)
  | cons x xs ih =>
      cases ys with
      | nil => exact (hxs.perm.trans hys.perm.symm).eq_nil
      | cons y ys =>
          have hperm := hxs.perm.trans hys.perm.symm
          have hxy := order_head_eq hperm hxs.ordered hys.ordered
          have hstable (r : Row) := (hxs.stable r).trans (hys.stable r).symm
          have hhead := hstable y
          rw [List.filter_cons_of_pos (by simp [hxy]),
            List.filter_cons_of_pos (by simp [ReflCmp.compare_self])] at hhead
          obtain rfl : x = y := (List.cons.inj hhead).1
          have htail : InReadingOrder ys xs := by
            refine ⟨hperm.cons_inv, hxs.ordered.tail, fun r => ?_⟩
            have hr := hstable r
            rw [List.filter_cons, List.filter_cons] at hr
            split at hr
            · exact (List.cons.inj hr).2
            · exact hr
          exact congrArg (x :: ·) (ih htail ⟨.refl ys, hys.ordered.tail, fun _ => rfl⟩)

end Row

namespace Table

theorem rowsOf_inReadingOrder (series : String) (rows : List Row) :
    Row.InReadingOrder (rows.filter (Row.isOf series)) (rowsOf series rows) := by
  have hle : (fun a b : Row => a.order b != .gt) = fun a b => (a.order b).isLE := by
    funext a b
    cases a.order b <;> rfl
  have htrans : ∀ a b c : Row, (a.order b).isLE → (b.order c).isLE → (a.order c).isLE :=
    fun _ _ _ => TransCmp.isLE_trans
  have htotal : ∀ a b : Row, (a.order b).isLE || (b.order a).isLE := by
    intro a b
    have hswap : b.order a = (a.order b).swap := OrientedCmp.eq_swap
    rw [hswap]
    cases a.order b <;> rfl
  rw [rowsOf, hle]
  generalize rows.filter (Row.isOf series) = inserted
  have hperm := List.mergeSort_perm inserted fun a b => (a.order b).isLE
  refine ⟨hperm, List.pairwise_mergeSort htrans htotal inserted, fun r => ?_⟩
  -- Rows with one key are in order as they are, so sorting keeps them in a row.
  have hkey : (inserted.filter fun x => x.order r == .eq).Pairwise fun a b => (a.order b).isLE := by
    refine List.pairwise_of_forall_mem_list fun a ha b hb => ?_
    have har : a.order r = .eq := by simpa using List.of_mem_filter ha
    have hbr : b.order r = .eq := by simpa using List.of_mem_filter hb
    rw [TransCmp.congr_left har, OrientedCmp.eq_symm hbr]
    rfl
  have hsub := (List.sublist_mergeSort htrans htotal hkey List.filter_sublist).filter
    fun x => x.order r == .eq
  rw [List.filter_filter] at hsub
  simp only [Bool.and_self] at hsub
  exact (hsub.eq_of_length (hperm.filter _).length_eq.symm).symm

end Table

end EpisodeGuide
