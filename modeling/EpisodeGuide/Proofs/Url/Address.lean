import EpisodeGuide.Proofs.Text.Digit
import EpisodeGuide.Url.Ipv4
import EpisodeGuide.Url.Ipv6
import Mathlib.Data.List.Basic

/-! # Addresses read back

The text of an address in a host, of 32 bits or of 128 bits, is read as the same address. -/

namespace EpisodeGuide.Url

open EpisodeGuide.Text

/-! ### Addresses of 32 bits -/

namespace Ipv4

theorem combine?_lt {front : List ℕ} {last n : ℕ} (h : combine? front last = some n) :
    n < UInt32.size := by
  unfold combine? at h
  split at h
  · next hfit =>
    obtain ⟨hlength, hbytes, hlast⟩ := hfit
    have hfront : ofDigits 256 front < Nat.pow 256 front.length := ofDigits_lt fun d hd => by
      have hd := List.all_eq_true.mp hbytes d hd
      simp only [decide_eq_true_eq] at hd
      omega
    obtain rfl := Option.some.inj h
    have hall : front.length + (4 - front.length) = 4 := by omega
    calc ofDigits 256 front * Nat.pow 256 (4 - front.length) + last
        < (ofDigits 256 front + 1) * Nat.pow 256 (4 - front.length) := by
          rw [Nat.add_mul, Nat.one_mul]
          omega
      _ ≤ Nat.pow 256 front.length * Nat.pow 256 (4 - front.length) :=
          Nat.mul_le_mul_right _ hfront
      _ = Nat.pow 256 (front.length + (4 - front.length)) := (Nat.pow_add 256 _ _).symm
      _ = UInt32.size := congrArg (Nat.pow 256) hall
  · cases h

theorem ofHost?_lt {host : List Char} {n : ℕ} (h : ofHost? host = some n) :
    n < UInt32.size := by
  unfold ofHost? at h
  split at h
  · cases h
  · split at h
    · cases h
    · exact combine?_lt h

/-- The four bytes of an address, the first one counting most. -/
def bytes (address : ℕ) : List ℕ :=
  [address / 0x1000000 % 256, address / 0x10000 % 256, address / 0x100 % 256, address % 256]

theorem print_eq (address : ℕ) :
    print address = ['.'].intercalate ((bytes address).map (Nat.toDigits 10)) := by
  simp [print, bytes, List.intercalate]

theorem number?_toDigits {b : ℕ} (h : b < 256) : number? (Nat.toDigits 10 b) = some b := by
  revert b
  decide +kernel

theorem labels_print (address : ℕ) :
    labels (print address) = (bytes address).map (Nat.toDigits 10) := by
  rw [labels, print_eq]
  refine List.splitOn_intercalate '.' ?_ (by simp [bytes])
  intro label hlabel hdot
  obtain ⟨b, -, rfl⟩ := List.mem_map.mp hlabel
  have hdigit := Nat.isDigit_of_mem_toDigits (by decide) (by decide) hdot
  cases hdigit

theorem parts_print (address : ℕ) :
    parts (print address) = (bytes address).map (Nat.toDigits 10) := by
  simp [parts, labels_print, bytes, Nat.toDigits_ne_nil]

theorem mapM_parts_print (address : ℕ) :
    (parts (print address)).mapM number? = some (bytes address) := by
  have hbyte (n : ℕ) : number? (Nat.toDigits 10 (n % 256)) = some (n % 256) :=
    number?_toDigits (Nat.mod_lt n (by decide))
  simp [parts_print, bytes, hbyte]

theorem endsInNumber_print (address : ℕ) : endsInNumber (print address) = true := by
  have hlast : number? (Nat.toDigits 10 (address % 256)) = some (address % 256) :=
    number?_toDigits (Nat.mod_lt address (by decide))
  simp [endsInNumber, parts_print, bytes, hlast]

/-- The text of an address is read as that address. -/
theorem ofHost?_print {address : ℕ} (h : address < UInt32.size) :
    ofHost? (print address) = some address := by
  have hsize : address < 4294967296 := h
  have hvalue : ofDigits 256 [address / 0x1000000 % 256, address / 0x10000 % 256,
      address / 0x100 % 256] * 256 + address % 256 = address := by
    simp only [ofDigits, List.foldl_cons, List.foldl_nil]
    omega
  have hbyte (n : ℕ) : n % 256 ≤ 255 ∧ n % 256 < 256 := by omega
  simp [ofHost?, mapM_parts_print, bytes, combine?, hbyte, hvalue]

theorem isDigit_of_mem_print {address : ℕ} {c : Char} (h : c ∈ print address) :
    c = '.' ∨ ∃ d < 10, c = Nat.digitChar d := by
  have hdigit {n : ℕ} (hc : c ∈ Nat.toDigits 10 n) : ∃ d < 10, c = Nat.digitChar d :=
    exists_of_mem_toDigits (by decide) hc
  simp only [print, List.mem_append, List.mem_cons] at h
  rcases h with (((h | h | h) | h | h) | h | h)
  all_goals first | exact .inl h | exact .inr (hdigit h)

end Ipv4

/-! ### Addresses of 128 bits -/

namespace Ipv6

/-- Eight pieces of 16 bits. -/
structure IsAddress (pieces : List ℕ) : Prop where
  length_eq : pieces.length = 8
  lt : ∀ p ∈ pieces, p < 65536

theorem hexDigit?_lt {c : Char} {d : ℕ} (h : hexDigit? c = some d) : d < 16 := by
  have hrange {lo hi : Char} (hc : lo ≤ c ∧ c ≤ hi) : lo.toNat ≤ c.toNat ∧ c.toNat ≤ hi.toNat :=
    ⟨UInt32.le_iff_toNat_le.mp hc.1, UInt32.le_iff_toNat_le.mp hc.2⟩
  have h0 : '0'.toNat = 48 := rfl
  have h9 : '9'.toNat = 57 := rfl
  have ha : 'a'.toNat = 97 := rfl
  have hf : 'f'.toNat = 102 := rfl
  have hA : 'A'.toNat = 65 := rfl
  have hF : 'F'.toNat = 70 := rfl
  unfold hexDigit? at h
  split at h
  · next hc =>
    have hc := hrange hc
    have hd := Option.some.inj h
    omega
  · split at h
    · next hc =>
      have hc := hrange hc
      have hd := Option.some.inj h
      omega
    · split at h
      · next hc =>
        have hc := hrange hc
        have hd := Option.some.inj h
        omega
      · cases h

/-! What is read is an address. -/

theorem piece?_lt {s : List Char} {p : ℕ} (h : piece? s = some p) : p < 65536 := by
  unfold piece? at h
  split at h
  · cases h
  · next hsize =>
    obtain ⟨ds, hds, rfl⟩ := Option.map_eq_some_iff.mp h
    have hlength := (filterMap_of_mapM hds).2.2
    have hsize : s.length ≤ 4 := by simp at hsize; omega
    have hdigits : ∀ d ∈ ds, d < 16 := fun d hd => by
      obtain ⟨c, -, hc⟩ := mem_of_mapM hds d hd
      exact hexDigit?_lt hc
    calc ofDigits 16 ds
        < Nat.pow 16 ds.length := ofDigits_lt hdigits
      _ ≤ Nat.pow 16 4 := Nat.pow_le_pow_right (by decide) (by omega)

theorem byte?_le {s : List Char} {b : ℕ} (h : byte? s = some b) : b ≤ 255 := by
  unfold byte? at h
  split at h
  · cases h
  · simpa using (Option.filter_eq_some_iff.mp h).2

theorem dotted?_lt {s : List Char} {pieces : List ℕ} (h : dotted? s = some pieces) :
    ∀ p ∈ pieces, p < 65536 := by
  unfold dotted? at h
  split at h
  · next a b c d hbytes =>
    obtain rfl := Option.some.inj h
    have hle : ∀ x ∈ [a, b, c, d], x ≤ 255 := fun x hx => by
      obtain ⟨label, -, hlabel⟩ := mem_of_mapM hbytes x hx
      exact byte?_le hlabel
    simp only [List.mem_cons, List.not_mem_nil, or_false, forall_eq_or_imp, forall_eq] at hle ⊢
    omega
  · cases h

theorem side?_lt {last : Bool} {s : List Char} {pieces : List ℕ} (h : side? last s = some pieces) :
    ∀ p ∈ pieces, p < 65536 := by
  unfold side? at h
  split at h
  · obtain rfl := Option.some.inj h
    simp
  · dsimp only at h
    split at h
    · cases h
    · split at h
      · next front back hfront hback =>
        obtain rfl := Option.some.inj h
        rw [List.forall_mem_append]
        refine ⟨fun p hp => ?_, ?_⟩
        · obtain ⟨group, -, hgroup⟩ := mem_of_mapM hfront p hp
          exact piece?_lt hgroup
        · split at hback
          · exact dotted?_lt hback
          · obtain ⟨p, hp, rfl⟩ := Option.map_eq_some_iff.mp hback
            exact List.forall_mem_singleton.mpr (piece?_lt hp)
      · cases h

theorem isAddress_of_ofText? {s : List Char} {pieces : List ℕ} (h : ofText? s = some pieces) :
    IsAddress pieces := by
  unfold ofText? at h
  split at h
  · split at h
    · next hside =>
      split at h
      · next hlength =>
        obtain rfl := Option.some.inj h
        exact ⟨hlength, side?_lt hside⟩
      · cases h
    · cases h
  · split at h
    · next front back hfront hback =>
      dsimp only at h
      split at h
      · next hgiven =>
        obtain rfl := Option.some.inj h
        refine ⟨by simp; omega, ?_⟩
        rw [List.forall_mem_append, List.forall_mem_append]
        refine ⟨⟨side?_lt hfront, fun p hp => ?_⟩, side?_lt hback⟩
        rw [List.eq_of_mem_replicate hp]
        decide
      · cases h
    · cases h

/-! An address that is written is read again. -/

theorem isHex_of_mem_lowerHex {p : ℕ} {c : Char} (h : c ∈ lowerHex p) :
    ∃ d < 16, c = Nat.digitChar d :=
  exists_of_mem_toDigits (by decide) h

theorem colon_notMem_lowerHex (p : ℕ) : ':' ∉ lowerHex p := by
  intro h
  obtain ⟨d, hd, hc⟩ := isHex_of_mem_lowerHex h
  revert hc
  decide +revert

theorem dot_notMem_lowerHex (p : ℕ) : '.' ∉ lowerHex p := by
  intro h
  obtain ⟨d, hd, hc⟩ := isHex_of_mem_lowerHex h
  revert hc
  decide +revert

theorem piece?_lowerHex {p : ℕ} (h : p < 65536) : piece? (lowerHex p) = some p := by
  obtain ⟨ds, hds, hvalue⟩ := mapM_toDigits (by decide) (fun d hd => hexDigit?_digitChar hd) p
  have hne : lowerHex p ≠ [] := Nat.toDigits_ne_nil
  have hlength : (lowerHex p).length ≤ 4 :=
    (Nat.length_toDigits_le_iff (by decide) (by decide)).mpr h
  have hsize : ¬ ((lowerHex p).isEmpty || decide ((lowerHex p).length > 4)) = true := by
    simp [hne, hlength]
  rw [piece?, if_neg hsize, lowerHex, hds, Option.map_some, hvalue]

theorem joinPieces_ne_nil {p : ℕ} {pieces : List ℕ} : joinPieces (p :: pieces) ≠ [] := by
  have hne : lowerHex p ≠ [] := Nat.toDigits_ne_nil
  cases pieces <;> simp [joinPieces, List.intercalate, hne]

/-- Pieces with colons between them are read again. -/
theorem side?_joinPieces {last : Bool} {pieces : List ℕ} (h : ∀ p ∈ pieces, p < 65536) :
    side? last (joinPieces pieces) = some pieces := by
  rcases List.eq_nil_or_concat pieces with rfl | ⟨front, final, rfl⟩
  · rfl
  · rw [List.concat_eq_append] at h ⊢
    have hgroups : (joinPieces (front ++ [final])).splitOn ':' =
        front.map lowerHex ++ [lowerHex final] := by
      rw [joinPieces, List.splitOn_intercalate ':' _ (by simp), List.map_append,
        List.map_singleton]
      intro group hgroup
      obtain ⟨p, -, rfl⟩ := List.mem_map.mp hgroup
      exact colon_notMem_lowerHex p
    have hne : joinPieces (front ++ [final]) ≠ [] := by
      cases front <;> exact joinPieces_ne_nil
    obtain ⟨hfront, hfinal⟩ := List.forall_mem_append.mp h
    have hread : (front.map lowerHex).mapM piece? = some front :=
      mapM_map_eq_some fun p hp => piece?_lowerHex (hfront p hp)
    have hfinal := piece?_lowerHex (hfinal final (by simp))
    rw [List.mapM_map] at hread
    simp [side?, hne, hgroups, dot_notMem_lowerHex, hfinal, hread]

/-! #### The gap -/

theorem splitGap_cons {c : Char} (hc : c ≠ ':') (s : List Char) :
    splitGap (c :: s) = ((c :: (splitGap s).1), (splitGap s).2) := by
  rw [splitGap]
  · rfl
  · intro r hcolon
    exact (hc hcolon).elim

theorem splitGap_append {s : List Char} (hs : ':' ∉ s) (t : List Char) :
    splitGap (s ++ t) = (s ++ (splitGap t).1, (splitGap t).2) := by
  induction s with
  | nil => rfl
  | cons c s ih =>
      rw [List.mem_cons, not_or] at hs
      rw [List.cons_append, splitGap_cons (Ne.symm hs.1), ih hs.2]
      rfl

theorem splitGap_colon {c : Char} (hc : c ≠ ':') (s : List Char) :
    splitGap (':' :: c :: s) = (':' :: (splitGap (c :: s)).1, (splitGap (c :: s)).2) := by
  rw [splitGap]
  · rfl
  · intro r _ hr
    exact hc (List.cons.inj hr).1

theorem joinPieces_cons_cons (p q : ℕ) (pieces : List ℕ) :
    joinPieces (p :: q :: pieces) = lowerHex p ++ ':' :: joinPieces (q :: pieces) := by
  simp [joinPieces, List.intercalate]

theorem joinPieces_head {p : ℕ} (pieces : List ℕ) :
    ∃ c s, joinPieces (p :: pieces) = c :: s ∧ c ≠ ':' := by
  have hne : lowerHex p ≠ [] := Nat.toDigits_ne_nil
  obtain ⟨c, s, hp⟩ := List.exists_cons_of_ne_nil hne
  have hc : c ≠ ':' := by
    rintro rfl
    exact colon_notMem_lowerHex p (by simp [hp])
  cases pieces with
  | nil => exact ⟨c, s, by simp [joinPieces, List.intercalate, hp], hc⟩
  | cons q pieces => exact ⟨c, _, by rw [joinPieces_cons_cons, hp]; rfl, hc⟩

/-- Two colons stand only where they were written. -/
theorem splitGap_joinPieces (pieces : List ℕ) {t : List Char} (ht : (splitGap t).1 = []) :
    splitGap (joinPieces pieces ++ t) = (joinPieces pieces, (splitGap t).2) := by
  match pieces with
  | [] => exact Prod.ext ht rfl
  | [p] =>
      have hp : joinPieces [p] = lowerHex p := by simp [joinPieces, List.intercalate]
      rw [hp, splitGap_append (colon_notMem_lowerHex p), ht, List.append_nil]
  | p :: q :: pieces =>
      obtain ⟨c, s, hjoin, hc⟩ := joinPieces_head (p := q) pieces
      have hrest := splitGap_joinPieces (q :: pieces) ht
      rw [joinPieces_cons_cons, List.append_assoc, List.cons_append,
        splitGap_append (colon_notMem_lowerHex p), hjoin, List.cons_append, splitGap_colon hc,
        ← List.cons_append, ← hjoin, hrest]

/-! #### The longest run of zeros -/

theorem takeWhile_zero (pieces : List ℕ) :
    pieces.take (zeroRun pieces) = List.replicate (zeroRun pieces) 0 := by
  have hzeros : pieces.takeWhile (· == 0) = List.replicate (zeroRun pieces) 0 := by
    refine List.eq_replicate_iff.mpr ⟨rfl, fun p hp => ?_⟩
    have hzero : (p == 0) = true := List.mem_takeWhile_imp (p := fun q => q == 0) hp
    exact eq_of_beq hzero
  have htake : pieces.take (zeroRun pieces) = pieces.takeWhile (· == 0) :=
    (List.prefix_iff_eq_take.mp (List.takeWhile_prefix _)).symm
  rw [htake, hzeros]

theorem zeroRun_le (pieces : List ℕ) : zeroRun pieces ≤ pieces.length :=
  (List.takeWhile_prefix _).length_le

/-- The longest run is a run of zeros within the pieces. -/
theorem longestRun_spec (i : ℕ) (pieces : List ℕ) :
    ∃ k, (longestRun i pieces).1 = i + k ∧ k + (longestRun i pieces).2 ≤ pieces.length ∧
      (pieces.drop k).take (longestRun i pieces).2 =
        List.replicate (longestRun i pieces).2 0 := by
  induction pieces generalizing i with
  | nil => exact ⟨0, by simp [longestRun]⟩
  | cons p pieces ih =>
      rw [longestRun]
      split
      · exact ⟨0, rfl, by simpa using zeroRun_le (p :: pieces), by
          simpa using takeWhile_zero (p :: pieces)⟩
      · obtain ⟨k, hstart, hlength, hzeros⟩ := ih (i + 1)
        exact ⟨k + 1, by omega, by rw [List.length_cons]; omega, by simpa using hzeros⟩

/-- The text of an address is read as that address. -/
theorem ofText?_print {pieces : List ℕ} (h : IsAddress pieces) :
    ofText? (print pieces) = some pieces := by
  obtain ⟨k, hstart, hlength, hzeros⟩ := longestRun_spec 0 pieces
  rcases hrun : longestRun 0 pieces with ⟨start, count⟩
  simp only [hrun, Nat.zero_add] at hstart hlength hzeros
  subst hstart
  by_cases hshort : count < 2
  · have hprint : print pieces = joinPieces pieces := by simp [print, hrun, hshort]
    have hgap := splitGap_joinPieces pieces (t := []) rfl
    rw [List.append_nil] at hgap
    simp [ofText?, hprint, hgap, splitGap, side?_joinPieces h.lt, h.length_eq]
  · have hprint : print pieces =
        joinPieces (pieces.take start) ++ ':' :: ':' ::
          joinPieces (pieces.drop (start + count)) := by
      simp [print, hrun, hshort]
    have hgap := splitGap_joinPieces (pieces.take start)
      (t := ':' :: ':' :: joinPieces (pieces.drop (start + count))) rfl
    have hfront : side? false (joinPieces (pieces.take start)) = some (pieces.take start) :=
      side?_joinPieces fun p hp => h.lt p (List.mem_of_mem_take hp)
    have hback : side? true (joinPieces (pieces.drop (start + count))) =
        some (pieces.drop (start + count)) :=
      side?_joinPieces fun p hp => h.lt p (List.mem_of_mem_drop hp)
    have hpieces : pieces.take start ++ List.replicate count 0 ++ pieces.drop (start + count) =
        pieces := by
      rw [← hzeros, List.append_assoc, ← List.drop_drop, List.take_append_drop,
        List.take_append_drop]
    have height := h.length_eq
    have hgiven : (pieces.take start).length + (pieces.drop (start + count)).length =
        8 - count := by
      rw [List.length_take, List.length_drop]
      omega
    have hcount : 8 - (8 - count) = count := by omega
    have hle : 8 - count ≤ 7 := by omega
    simp only [ofText?, hprint, hgap, splitGap, hfront, hback, hgiven, hcount, hle, if_true]
    rw [hpieces]

theorem isHex_of_mem_joinPieces {pieces : List ℕ} {c : Char} (h : c ∈ joinPieces pieces) :
    c = ':' ∨ ∃ d < 16, c = Nat.digitChar d := by
  match pieces with
  | [] => simp [joinPieces] at h
  | [p] =>
      have hp : joinPieces [p] = lowerHex p := by simp [joinPieces, List.intercalate]
      exact .inr (isHex_of_mem_lowerHex (hp ▸ h))
  | p :: q :: pieces =>
      rw [joinPieces_cons_cons, List.mem_append, List.mem_cons] at h
      rcases h with h | h | h
      · exact .inr (isHex_of_mem_lowerHex h)
      · exact .inl h
      · exact isHex_of_mem_joinPieces h

theorem isHex_of_mem_print {pieces : List ℕ} {c : Char} (h : c ∈ print pieces) :
    c = ':' ∨ ∃ d < 16, c = Nat.digitChar d := by
  unfold print at h
  dsimp only at h
  split at h
  · exact isHex_of_mem_joinPieces h
  · simp only [List.mem_append, List.mem_cons] at h
    rcases h with h | h | h | h
    · exact isHex_of_mem_joinPieces h
    · exact .inl h
    · exact .inl h
    · exact isHex_of_mem_joinPieces h

end Ipv6

end EpisodeGuide.Url
