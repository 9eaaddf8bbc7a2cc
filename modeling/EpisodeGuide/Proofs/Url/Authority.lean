import EpisodeGuide.Proofs.Url.Host
import EpisodeGuide.Proofs.Url.Reader

/-! # Authorities read back

The user information, the host and the port of a special URL are read from the text of its
authority again. -/

namespace EpisodeGuide.Url

/-! ### User information -/

theorem splitUserinfo_append (s : List Char) {t : List Char} (ht : '@' ∉ t) :
    splitUserinfo (s ++ '@' :: t) = (some s, t) := by
  have htake : (t.reverse ++ '@' :: s.reverse).takeWhile (· != '@') = t.reverse := by
    rw [List.takeWhile_append_of_pos, List.takeWhile_cons_of_neg, List.append_nil]
    · simp
    · intro c hc
      have hc : c ≠ '@' := fun h => ht (h ▸ List.mem_reverse.mp hc)
      simpa using hc
  have hreverse : (s ++ '@' :: t).reverse = t.reverse ++ '@' :: s.reverse := by simp
  have hlength : (s ++ '@' :: t).length - t.length - 1 = s.length := by
    rw [List.length_append, List.length_cons]
    omega
  have hne : ¬ t.length = (s ++ '@' :: t).length := by
    rw [List.length_append, List.length_cons]
    omega
  simp only [splitUserinfo, hreverse, htake, List.reverse_reverse, if_neg hne, hlength,
    List.take_left']

theorem splitUserinfo_of_notMem {s : List Char} (hs : '@' ∉ s) : splitUserinfo s = (none, s) := by
  have htake : s.reverse.takeWhile (· != '@') = s.reverse := by
    refine List.takeWhile_eq_self_iff.mpr fun c hc => ?_
    have hc : c ≠ '@' := fun h => hs (h ▸ List.mem_reverse.mp hc)
    simpa using hc
  simp [splitUserinfo, htake]

/-- A user name and a password, both coded, with a colon between them. -/
theorem readUserinfo_of_plain {name password : List Char} (hname : Plain inUserinfoSet name)
    (hpassword : Plain inUserinfoSet password) :
    readUserinfo (name ++ if password.isEmpty then [] else ':' :: password) = (name, password) := by
  have hcolon : ∀ c ∈ name, (c != ':') = true := fun c hc => by
    have hc : c ≠ ':' := fun h => hname.notMem (by cbv) (h ▸ hc)
    simpa using hc
  rw [readUserinfo, List.takeWhile_append_of_pos hcolon, List.dropWhile_append_of_pos hcolon]
  cases password with
  | nil =>
      simp only [List.isEmpty_nil, if_true, List.takeWhile_nil, List.dropWhile_nil, List.append_nil,
        List.drop_nil, percentEncode_of_plain hname]
      rfl
  | cons c password => simp [percentEncode_of_plain hname, percentEncode_of_plain hpassword]

/-! ### Authorities -/

/-- An authority as it is read where a port is the default one. -/
structure Authority.Normal (defaultPort : Option ℕ) (a : Authority) : Prop where
  username : Plain inUserinfoSet a.username
  password : Plain inUserinfoSet a.password
  host : a.host.Normal
  port : ∀ p ∈ a.port, p < UInt16.size ∧ some p ≠ defaultPort

variable {defaultPort : Option ℕ} {a : Authority} {s left : List Char} {followed : Bool}

theorem readPort_toDigits {p : ℕ} (hp : p < UInt16.size) (hdefault : some p ≠ defaultPort) :
    readPort defaultPort (Nat.toDigits 10 p) = .ok (some p, []) := by
  obtain ⟨ds, htake, hne, hvalue⟩ := Text.takeDigits_toDigits p
  have hrange : ¬ p ≥ UInt16.size := by omega
  have hfinish : ¬ (ds.isEmpty || some p == defaultPort) = true := by simp [hne, hdefault]
  simp only [readPort, htake, readPort.finish, hvalue, if_neg hrange, if_neg hfinish]

theorem port_of_readPort {p : ℕ} (h : readPort defaultPort s = .ok (some p, left)) :
    p < UInt16.size ∧ some p ≠ defaultPort := by
  have hfinish {digits : List ℕ} {rest : List Char}
      (h : readPort.finish defaultPort digits rest = .ok (some p, left)) :
      p < UInt16.size ∧ some p ≠ defaultPort := by
    unfold readPort.finish at h
    dsimp only at h
    split at h
    · cases h
    · next hrange =>
      split at h
      · cases h
      · next hdefault =>
        obtain ⟨rfl, -⟩ : Text.ofDigits 10 digits = p ∧ rest = left := by simpa using h
        simp only [Bool.or_eq_true, beq_iff_eq, not_or] at hdefault
        exact ⟨Nat.lt_of_not_le hrange, hdefault.2⟩
  unfold readPort at h
  dsimp only at h
  split at h
  · split at h
    · exact hfinish h
    · cases h
  · exact hfinish h

def portText (port : Option ℕ) : List Char :=
  match port with
  | some p => ':' :: Nat.toDigits 10 p
  | none => []

theorem Authority.print_eq (a : Authority) :
    a.print = a.userinfo ++ (a.host.print ++ portText a.port) := by
  rw [Authority.print, List.append_assoc]
  rfl

/-- The port that the text behind a host names, and what is left behind it. -/
def readPortText (kind : Kind) (portText : List Char) :
    Except UrlError (Option ℕ × List Char) :=
  match portText with
  | _ :: digits => readPort (match kind with | .special port => port | _ => none) digits
  | [] => .ok (none, [])

def readHostText (kind : Kind) (hostText : List Char) : Except UrlError Host :=
  if kind.isSpecial then if hostText = [] then .error .emptyHost else readHost hostText
  else readPlainHost hostText

theorem readAuthority_of_parts {kind : Kind} {userinfo : Option (List Char)}
    {rest hostText portText : List Char} (huser : splitUserinfo s = (userinfo, rest))
    (hhost : splitHost false rest = (hostText, portText)) :
    readAuthority kind followed s =
      if userinfo = some [] ∧ rest = [] ∧ followed = true then .error .emptyHost
      else readHostText kind hostText >>= fun host =>
        if host.isEmpty = true ∧ portText ≠ [] then .error .emptyHost
        else readPortText kind portText >>= fun port =>
          if host.isEmpty = true ∧ ((readUserinfo (userinfo.getD [])).1 ≠ [] ∨
              (readUserinfo (userinfo.getD [])).2 ≠ []) then .error .emptyHost
          else .ok (⟨(readUserinfo (userinfo.getD [])).1, (readUserinfo (userinfo.getD [])).2, host,
            port.1⟩, port.2) := by
  simp only [readAuthority, huser, hhost, readHostText]
  split
  · rfl
  · split
    · split
      · rfl
      · cases readHost hostText with
        | error e => rfl
        | ok host => cases portText <;> rfl
    · cases readPlainHost hostText with
      | error e => rfl
      | ok host => cases portText <;> rfl

theorem Authority.Normal.at_notMem (h : a.Normal defaultPort) :
    '@' ∉ a.host.print ++ portText a.port := by
  rw [List.mem_append, not_or]
  refine ⟨fun hmem => (h.host.chars '@' hmem).2 (by simp), ?_⟩
  cases a.port with
  | none => exact List.not_mem_nil
  | some p =>
      intro hmem
      obtain hdigit := (List.mem_cons.mp hmem).resolve_left (by decide)
      have hdigit := Nat.isDigit_of_mem_toDigits (by decide) (by decide) hdigit
      cases hdigit

/-- The user information in front of a host is split off and read. -/
theorem Authority.Normal.splitUserinfo_print (h : a.Normal defaultPort) :
    ∃ userinfo, splitUserinfo a.print = (userinfo, a.host.print ++ portText a.port) ∧
      readUserinfo (userinfo.getD []) = (a.username, a.password) := by
  rw [Authority.print_eq, Authority.userinfo]
  split
  · next hempty =>
    rw [Bool.and_eq_true, List.isEmpty_iff, List.isEmpty_iff] at hempty
    refine ⟨none, ?_, by rw [hempty.1, hempty.2]; rfl⟩
    exact splitUserinfo_of_notMem h.at_notMem
  · refine ⟨some (a.username ++ if a.password.isEmpty then [] else ':' :: a.password), ?_,
      readUserinfo_of_plain h.username h.password⟩
    rw [List.append_assoc, List.singleton_append]
    exact splitUserinfo_append _ h.at_notMem

/-- The text of an authority is read as that authority. -/
theorem Authority.Normal.readAuthority_print (h : a.Normal defaultPort) :
    readAuthority (.special defaultPort) followed a.print = .ok (a, []) := by
  obtain ⟨userinfo, huser, hread⟩ := h.splitUserinfo_print
  have hsplit : splitHost false (a.host.print ++ portText a.port) =
      (a.host.print, portText a.port) := by
    refine h.host.split _ fun c hc => ?_
    cases hport : a.port with
    | none => simp [hport, portText] at hc
    | some p => simpa [hport, portText, eq_comm] using hc
  have hrest : a.host.print ++ portText a.port ≠ [] := by simp [h.host.ne_nil]
  have hhost : readHostText (.special defaultPort) a.host.print = .ok a.host := by
    simp only [readHostText, Kind.isSpecial, if_true, if_neg h.host.ne_nil, h.host.reads]
  have hport : readPortText (.special defaultPort) (portText a.port) = .ok (a.port, []) := by
    cases hport : a.port with
    | none => rfl
    | some p =>
        obtain ⟨hp, hdefault⟩ := h.port p hport
        exact readPort_toDigits hp hdefault
  rw [readAuthority_of_parts huser hsplit, if_neg fun hlone => hrest hlone.2.1, hhost, hread]
  simp only [bind, Except.bind, hport, h.host.isEmpty_eq]
  rfl

theorem Authority.normal_of_readAuthority
    (h : readAuthority (.special defaultPort) followed s = .ok (a, left)) :
    a.Normal defaultPort := by
  rcases huser : splitUserinfo s with ⟨userinfo, rest⟩
  rcases hsplit : splitHost false rest with ⟨hostText, portText⟩
  rw [readAuthority_of_parts huser hsplit] at h
  split at h
  · cases h
  · obtain ⟨host, hhost, h⟩ := exists_of_bind h
    split at h
    · cases h
    · obtain ⟨⟨port, left'⟩, hport, h⟩ := exists_of_bind h
      split at h
      · cases h
      · obtain ⟨rfl, rfl⟩ := Prod.mk.inj (Except.ok.inj h)
        simp only [readHostText, Kind.isSpecial, if_true] at hhost
        split at hhost
        · cases hhost
        · exact {
            username := plain_userinfo _
            password := plain_userinfo _
            host := Host.normal_of_readHost hhost
            port := fun p hp => by
              obtain rfl : port = some p := hp
              cases portText with
              | nil => cases hport
              | cons c digits => exact port_of_readPort hport }

end EpisodeGuide.Url
