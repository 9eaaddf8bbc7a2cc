import EpisodeGuide.Proofs.Url.Address
import EpisodeGuide.Proofs.Url.Coding
import EpisodeGuide.Proofs.Url.Domain

/-! # Hosts read back

The host of a special URL is a domain or an address. Its text is read as that host again, and ends
where the host ends. -/

namespace EpisodeGuide.Url

/-! ### Domains -/

theorem percentDecode_of_notMem {s : List Char} (h : '%' ∉ s) :
    percentDecode s = s.flatMap String.utf8EncodeChar := by
  induction s with
  | nil => rfl
  | cons c s ih =>
      rw [List.mem_cons, not_or] at h
      rw [percentDecode_cons (Ne.symm h.1), ih h.2, List.flatMap_cons]

theorem decode_of_notMem {s : List Char} (h : '%' ∉ s) :
    decodeUtf8? (percentDecode s) = some s := by
  rw [percentDecode_of_notMem h, decodeUtf8?_flatMap]

namespace Domain

theorem isForbidden_eq (c : Char) :
    isForbidden c = (isControl c || decide (c ∈ " %#/:<>?@[\\]^|".toList)) := by
  rw [isForbidden, String.contains_char_eq]

theorem toAscii?_print (address : ℕ) :
    toAscii? (Ipv4.print address) = some (Ipv4.print address) := by
  have hchars : ∀ c ∈ Ipv4.print address, IsSmall c ∧ isForbidden c = false := by
    intro c hc
    rw [isForbidden_eq]
    rcases Ipv4.isDigit_of_mem_print hc with rfl | ⟨d, hd, rfl⟩
    · decide
    · clear hc
      decide +revert
  have hsmall : ∀ c ∈ Ipv4.print address, IsSmall c := fun c hc => (hchars c hc).1
  have hcoded : hasCoded (Ipv4.print address) = false := by
    have hlabels : (Ipv4.print address).splitOn '.' = _ := Ipv4.labels_print address
    rw [hasCoded, hlabels]
    refine List.any_eq_false.mpr fun label hlabel hmark => ?_
    obtain ⟨b, -, rfl⟩ := List.mem_map.mp hlabel
    have hx : 'x' ∈ codedMark := by decide
    rw [← eq_of_beq hmark] at hx
    have hdigit := Nat.isDigit_of_mem_toDigits (by decide) (by decide) (List.mem_of_mem_take hx)
    cases hdigit
  have hallowed : (Ipv4.print address).any isForbidden = false :=
    List.any_eq_false.mpr fun c hc => by simp [(hchars c hc).2]
  simp only [toAscii?, lowerAscii_of_isSmall hsmall, isAscii_of_isSmall hsmall, hcoded]
  simp [hallowed]

end Domain

/-! ### Hosts -/

/-- Characters of hosts: visible ones that end no authority and no user information. -/
def IsHostChar (c : Char) : Prop :=
  0x20 < c.toNat ∧ c ∉ ['/', '?', '#', '\\', '@']

instance (c : Char) : Decidable (IsHostChar c) :=
  inferInstanceAs (Decidable (_ ∧ _))

/-- A host as it is read: its text is a host text that is read as that host. -/
structure Host.Normal (host : Host) : Prop where
  reads : readHost host.print = .ok host
  isEmpty_eq : host.isEmpty = false
  ne_nil : host.print ≠ []
  chars : ∀ c ∈ host.print, IsHostChar c
  split : ∀ t, (∀ c ∈ t.head?, c = ':') → splitHost false (host.print ++ t) = (host.print, t)

theorem splitHost_append {inside : Bool} {s : List Char}
    (h : ∀ c ∈ s, c ≠ '[' ∧ c ≠ ']' ∧ (c = ':' → inside = true)) (t : List Char) :
    splitHost inside (s ++ t) = (s ++ (splitHost inside t).1, (splitHost inside t).2) := by
  induction s with
  | nil => rfl
  | cons c s ih =>
      obtain ⟨⟨hopen, hclose, hcolon⟩, hs⟩ := List.forall_mem_cons.mp h
      have hstay : ¬ (c == ':' && !inside) = true := by
        cases inside <;> simp_all
      rw [List.cons_append, splitHost, if_neg hstay]
      simp only [beq_iff_eq, hopen, hclose, if_false, ih hs]
      rfl

theorem splitHost_end {t : List Char} (h : ∀ c ∈ t.head?, c = ':') :
    splitHost false t = ([], t) := by
  cases t with
  | nil => rfl
  | cons c t =>
      obtain rfl : c = ':' := h c rfl
      rfl

theorem readHost_of_ascii {s : List Char} (hbracket : '[' ∉ s) (hpercent : '%' ∉ s) (hne : s ≠ [])
    (hascii : Domain.toAscii? s = some s) :
    readHost s = if Ipv4.endsInNumber s then
      match Ipv4.ofHost? s with
      | some address => .ok (.ipv4 address)
      | none => .error .invalidIpv4
    else .ok (.domain s) := by
  unfold readHost
  split
  · simp at hbracket
  · rw [decode_of_notMem hpercent, Option.bind_some, hascii]
    obtain ⟨c, r, rfl⟩ := List.exists_cons_of_ne_nil hne
    rfl

theorem Host.normal_domain {name : List Char} (hascii : Domain.toAscii? name = some name)
    (hne : name ≠ []) (hnumber : Ipv4.endsInNumber name = false) : (Host.domain name).Normal := by
  have hforbidden := Domain.not_isForbidden hascii
  have hfree {c : Char} (hc : Domain.isForbidden c = true) : c ∉ name := fun hmem => by
    rw [hforbidden c hmem] at hc
    cases hc
  have hbracket : '[' ∉ name := hfree (by rw [Domain.isForbidden_eq]; decide)
  have hclose : ']' ∉ name := hfree (by rw [Domain.isForbidden_eq]; decide)
  have hcolon : ':' ∉ name := hfree (by rw [Domain.isForbidden_eq]; decide)
  have hpercent : '%' ∉ name := hfree (by rw [Domain.isForbidden_eq]; decide)
  have hreads := readHost_of_ascii hbracket hpercent hne hascii
  rw [hnumber] at hreads
  exact {
    reads := hreads
    isEmpty_eq := by simpa [Host.isEmpty] using hne
    ne_nil := hne
    chars := fun c hc => by
      have hc := hforbidden c hc
      simp only [Domain.isForbidden_eq, Bool.or_eq_false_iff, decide_eq_false_iff_not] at hc
      refine ⟨visible_of_isControl hc.1 ?_, ?_⟩
      · rintro rfl
        exact hc.2 (by decide)
      · intro hmem
        simp only [List.mem_cons, List.not_mem_nil, or_false] at hmem
        rcases hmem with rfl | rfl | rfl | rfl | rfl <;> exact hc.2 (by decide)
    split := fun t ht => by
      rw [Host.print, splitHost_append, splitHost_end ht, List.append_nil]
      exact fun c hc => ⟨fun h => hbracket (h ▸ hc), fun h => hclose (h ▸ hc),
        fun h => (hcolon (h ▸ hc)).elim⟩ }

theorem Host.normal_ipv4 {address : ℕ} (h : address < UInt32.size) :
    (Host.ipv4 address).Normal := by
  have hchars : ∀ c ∈ Ipv4.print address, IsHostChar c ∧ c ∉ ['[', ']', ':', '%'] := fun c hc => by
    rcases Ipv4.isDigit_of_mem_print hc with rfl | ⟨d, hd, rfl⟩
    · decide
    · clear hc
      decide +revert
  have hfree {c : Char} (hc : c ∈ ['[', ']', ':', '%']) : c ∉ Ipv4.print address :=
    fun hmem => (hchars c hmem).2 hc
  have hne : Ipv4.print address ≠ [] := by simp [Ipv4.print]
  have hreads := readHost_of_ascii (hfree (by decide)) (hfree (by decide)) hne
    (Domain.toAscii?_print address)
  rw [Ipv4.endsInNumber_print, Ipv4.ofHost?_print h] at hreads
  exact {
    reads := hreads
    isEmpty_eq := rfl
    ne_nil := hne
    chars := fun c hc => (hchars c hc).1
    split := fun t ht => by
      rw [Host.print, splitHost_append, splitHost_end ht, List.append_nil]
      exact fun c hc => ⟨fun h => hfree (by simp) (h ▸ hc), fun h => hfree (by simp) (h ▸ hc),
        fun h => (hfree (by simp) (h ▸ hc)).elim⟩ }

theorem Host.normal_ipv6 {pieces : List ℕ} (h : Ipv6.IsAddress pieces) :
    (Host.ipv6 pieces).Normal := by
  have hchars : ∀ c ∈ Ipv6.print pieces, IsHostChar c ∧ c ≠ '[' ∧ c ≠ ']' := fun c hc => by
    rcases Ipv6.isHex_of_mem_print hc with rfl | ⟨d, hd, rfl⟩
    · decide
    · clear hc
      decide +revert
  exact {
    reads := by
      simp [Host.print, readHost, readBracketed, Ipv6.ofText?_print h]
    isEmpty_eq := rfl
    ne_nil := by simp [Host.print]
    chars := fun c hc => by
      simp only [Host.print, List.mem_cons, List.mem_append, List.not_mem_nil, or_false] at hc
      rcases hc with (rfl | hc) | rfl
      · decide
      · exact (hchars c hc).1
      · decide
    split := fun t ht => by
      have hinside : splitHost true (Ipv6.print pieces ++ ']' :: t) =
          (Ipv6.print pieces ++ [']'], t) := by
        rw [splitHost_append fun c hc => ⟨(hchars c hc).2.1, (hchars c hc).2.2, fun _ => rfl⟩]
        simp [splitHost, splitHost_end ht]
      simp [Host.print, splitHost, hinside] }

/-- Every host that is read is in its normal form. -/
theorem Host.normal_of_readHost {s : List Char} {host : Host} (h : readHost s = .ok host) :
    host.Normal := by
  unfold readHost at h
  split at h
  · unfold readBracketed at h
    split at h
    · split at h
      · next hpieces =>
        obtain rfl := Except.ok.inj h
        exact normal_ipv6 (Ipv6.isAddress_of_ofText? hpieces)
      · cases h
    · cases h
  · split at h
    · cases h
    · cases h
    · next name hne hname =>
      obtain ⟨decoded, -, hname⟩ := Option.bind_eq_some_iff.mp hname
      split at h
      · split at h
        · next haddress =>
          obtain rfl := Except.ok.inj h
          exact normal_ipv4 (Ipv4.ofHost?_lt haddress)
        · cases h
      · next hnumber =>
        obtain rfl := Except.ok.inj h
        exact normal_domain (Domain.toAscii?_self hname) hne (by simpa using hnumber)

end EpisodeGuide.Url
