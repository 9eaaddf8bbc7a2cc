import EpisodeGuide.Proofs.Session.Silence

/-! # Fetches that are cut short

A fetch that runs out of answers, or of pages that it may ask for, sends the first requests of the
longer fetch and finds the first of its episodes. -/

namespace EpisodeGuide

open Http Provider

def Exchange.failing (fault : TransportError) (e : Exchange) : Exchange :=
  { e with outcome := .error fault }

theorem Exchange.not_accepted_of_error {e : Exchange} {fault : TransportError}
    (h : e.outcome = .error fault) : ¬ e.Accepted := by
  rintro ⟨t, -, reply, hreply, -⟩
  cases h.symm.trans hreply

variable {now : Int} {series endpoint : String} {page room : ℕ} {auth auth' : Authenticator}
  {before after es : List Exchange} {e : Exchange} {found : List Episode}

/-! ### A failure in the place of a reply -/

section Cutting

variable {result : Except PageError Page}

theorem TokenDerivation.cut {token : Option Token}
    (h : TokenDerivation now auth (before ++ e :: after) token auth') (fault : TransportError) :
    TokenDerivation now auth (before ++ [e.failing fault]) none auth := by
  generalize hes : before ++ e :: after = es at h
  cases h with
  | held | keyless => simp at hes
  | refused h hk | issued h hk =>
      obtain ⟨rfl, rfl, rfl⟩ : before = [] ∧ e = _ ∧ after = [] := by
        simpa [List.append_eq_singleton_iff] using hes
      exact .refused h hk (Exchange.not_accepted_of_error rfl)

/-- Without a reply to one of its requests a page is not read, and not refused either. -/
theorem PageDerivation.cut (h : PageDerivation now endpoint page auth (before ++ e :: after)
    result auth') (fault : TransportError) :
    ∃ cause auth'', cause ≠ .unauthorized ∧
      PageDerivation now endpoint page auth (before ++ [e.failing fault])
        (.error cause) auth'' := by
  generalize hes : before ++ e :: after = es at h
  cases h with
  | noToken ht =>
      subst hes
      exact ⟨.noToken, auth, by simp, .noToken (ht.cut fault)⟩
  | asked outcome ht =>
      rcases History.append_eq_split hes.symm with ⟨rest, rfl, -⟩ | ⟨head, rfl, hask⟩
      · exact ⟨.noToken, auth, by simp, .noToken (ht.cut fault)⟩
      · obtain ⟨rfl, rfl, rfl⟩ : head = [] ∧ e = _ ∧ after = [] := by
          simpa [List.append_eq_singleton_iff] using hask.symm
        refine ⟨.transport fault, auth', by simp, ?_⟩
        rw [List.append_nil]
        exact .asked (.error fault) ht

theorem RequestDerivation.cut (h : RequestDerivation now endpoint page auth (before ++ e :: after)
    result auth') (fault : TransportError) :
    ∃ cause auth'', RequestDerivation now endpoint page auth (before ++ [e.failing fault])
      (.error cause) auth'' := by
  generalize hes : before ++ e :: after = es at h
  cases h with
  | once hp =>
      subst hes
      obtain ⟨cause, auth'', hcause, hcut⟩ := hp.cut fault
      exact ⟨cause, auth'', .once hcut (by simpa using hcause)⟩
  | renewed hp hp' | rejected hp hp' =>
      rcases History.append_eq_split hes.symm with ⟨rest, rfl, -⟩ | ⟨head, rfl, rfl⟩
      · obtain ⟨cause, auth'', hcause, hcut⟩ := hp.cut fault
        exact ⟨cause, auth'', .once hcut (by simpa using hcause)⟩
      · obtain ⟨cause, auth'', hcause, hcut⟩ := hp'.cut fault
        rw [List.append_assoc]
        exact ⟨cause, auth'', .renewed hp hcut (by simpa using hcause)⟩

/-- Without a reply to one of its requests a walk ends there, with what was found before. -/
theorem WalkDerivation.cut (h : WalkDerivation now series endpoint room page auth
    (before ++ e :: after) found auth') (fault : TransportError) :
    ∃ found' auth'', found' <+: found ∧ WalkDerivation now series endpoint room page auth
      (before ++ [e.failing fault]) found' auth'' := by
  generalize hes : before ++ e :: after = es at h
  induction h generalizing before with
  | limit => simp at hes
  | stopped hp | last hp =>
      subst hes
      obtain ⟨cause, auth'', hcut⟩ := hp.cut fault
      exact ⟨[], auth'', List.nil_prefix, .stopped hcut⟩
  | next hp hne hnext _ ih =>
      rcases History.append_eq_split hes.symm with ⟨rest, rfl, -⟩ | ⟨head, rfl, rfl⟩
      · obtain ⟨cause, auth'', hcut⟩ := hp.cut fault
        exact ⟨[], auth'', List.nil_prefix, .stopped hcut⟩
      · obtain ⟨found', auth'', hprefix, hcut⟩ := ih rfl
        rw [List.append_assoc]
        exact ⟨_, auth'', (List.prefix_append_right_inj _).mpr hprefix, .next hp hne hnext hcut⟩

end Cutting

/-! ### Answers that run out -/

/-- Over the first answers a conversation goes the same way, until none is left. -/
theorem Conversation.cut {first later : List Answer} {sent : List Request} {l : Script}
    (h : Conversation Script.send ⟨first ++ later, sent⟩ es l) :
    (∃ l', Conversation Script.send ⟨first, sent⟩ es l') ∨
      ∃ before e after fault l', es = before ++ e :: after ∧
        Conversation Script.send ⟨first, sent⟩ (before ++ [e.failing fault]) l' := by
  induction es generalizing first sent with
  | nil => exact .inl ⟨_, .silent _⟩
  | cons e es ih =>
      obtain ⟨houtcome, hrest⟩ := conversation_cons_iff.mp h
      cases first with
      | nil =>
          refine .inr ⟨[], e, es, .requestFailed e.request.url "no scripted response left",
            (Script.send e.request ⟨[], sent⟩).2, rfl, conversation_cons_iff.mpr ?_⟩
          exact ⟨rfl, .silent _⟩
      | cons answer first =>
          have hrest' : Conversation Script.send ⟨first ++ later, sent ++ [e.request]⟩ es l := hrest
          rcases ih hrest' with ⟨l', hall⟩ | ⟨before, x, after, fault, l', rfl, hcut⟩
          · exact .inl ⟨l', conversation_cons_iff.mpr ⟨houtcome, hall⟩⟩
          · exact .inr ⟨e :: before, x, after, fault, l', rfl,
              conversation_cons_iff.mpr ⟨houtcome, hcut⟩⟩

/-! ### Limits -/

/-- A walk with less room is the first part of the walk with more. -/
theorem WalkDerivation.narrowed {room' : ℕ}
    (h : WalkDerivation now series endpoint room' page auth es found auth') (hroom : room ≤ room') :
    ∃ es' found' auth'', es' <+: es ∧ found' <+: found ∧
      WalkDerivation now series endpoint room page auth es' found' auth'' := by
  have hnone (auth : Authenticator) (page : ℕ) (es : List Exchange) (found : List Episode) :
      ∃ es' found' auth'', es' <+: es ∧ found' <+: found ∧
        WalkDerivation now series endpoint 0 page auth es' found' auth'' :=
    ⟨[], [], auth, List.nil_prefix, List.nil_prefix, .limit page auth⟩
  induction h generalizing room with
  | limit page auth =>
      obtain rfl := Nat.le_zero.mp hroom
      exact hnone auth page [] []
  | stopped hp =>
      cases room with
      | zero => exact hnone _ _ _ _
      | succ room => exact ⟨_, _, _, List.prefix_rfl, List.prefix_rfl, .stopped hp⟩
  | last hp hend =>
      cases room with
      | zero => exact hnone _ _ _ _
      | succ room => exact ⟨_, _, _, List.prefix_rfl, List.prefix_rfl, .last hp hend⟩
  | next hp hne hnext _ ih =>
      cases room with
      | zero => exact hnone _ _ _ _
      | succ room =>
          obtain ⟨es', found', auth'', hes, hfound, hwalk⟩ := ih (Nat.le_of_succ_le_succ hroom)
          exact ⟨_, _, auth'', (List.prefix_append_right_inj _).mpr hes,
            (List.prefix_append_right_inj _).mpr hfound, .next hp hne hnext hwalk⟩

namespace Session

variable {σ : Type} (send : Transport σ)

/-- A walk that comes to the end of its room says so; any other goes the same way with more. -/
theorem walk_limit (now : Int) (series endpoint : String) (room page : ℕ)
    (s : Session (Recorded σ)) :
    ∃ es events, (s.walk (recording send now) now series endpoint room page).2.link.past =
        s.link.past ++ es ∧
      (s.walk (recording send now) now series endpoint room page).2.log = s.log ++ events ∧
      ((∃ limit, .pageLimitReached series limit ∈ events) ∨
        ∀ more, WalkDerivation now series endpoint (room + more) page s.client.auth es
          (s.walk (recording send now) now series endpoint room page).1
          (s.walk (recording send now) now series endpoint room page).2.client.auth) := by
  induction room generalizing page s with
  | zero => exact ⟨[], _, by simp [walk, note], rfl, .inl ⟨_, List.mem_singleton.mpr rfl⟩⟩
  | succ room ih =>
      obtain ⟨es, hpast, hd⟩ := requestPage_derivation send now endpoint page s
      obtain ⟨_, events, -, hlog, -⟩ := requestPage_log send now endpoint page s
      rcases hpage : s.requestPage (recording send now) now endpoint page with ⟨result, m⟩
      simp only [hpage] at hpast hlog hd
      have hroom (more : ℕ) : room + 1 + more = (room + more) + 1 := by omega
      cases result with
      | error e =>
          rw [walk_of_error hpage]
          exact ⟨es, events ++ [pageEvent series page e], hpast, by simp [note, hlog],
            .inr fun more => hroom more ▸ .stopped hd⟩
      | ok body =>
          by_cases hend : body.usableEntries = [] ∨ body.hasNext = false
          · rw [walk_of_last hpage hend]
            exact ⟨es, events, hpast, hlog, .inr fun more => hroom more ▸ .last hd hend⟩
          · rw [not_or, Bool.not_eq_false] at hend
            obtain ⟨es', events', hpast', hlog', hlimit⟩ := ih (page + 1) m
            rw [walk_of_next hpage hend.1 hend.2]
            refine ⟨es ++ es', events ++ events', by rw [hpast', hpast, List.append_assoc],
              by rw [hlog', hlog, List.append_assoc], ?_⟩
            rcases hlimit with ⟨limit, hmem⟩ | hwalk
            · exact .inl ⟨limit, List.mem_append_right _ hmem⟩
            · exact .inr fun more => hroom more ▸ .next hd hend.1 hend.2 (hwalk more)

/-- The fetch says that it came to its limit of pages. -/
def ReachesLimit (now : Int) (series : String) (s : Session σ) : Prop :=
  ∃ limit, .pageLimitReached series limit ∈ (s.fetch send now series).2.log.drop s.log.length

/-- A fetch that does not come to its limit goes the same way with a higher one. -/
theorem fetch_limit (now : Int) (series endpoint : String) (s : Session σ)
    (h : s.client.listingUrl series = .ok endpoint) :
    s.ReachesLimit send now series ∨
      ∀ more, WalkDerivation now series endpoint (s.client.maxPages.toNat + more) 0 s.client.auth
        (s.fetchExchanges send now series) (s.fetch send now series).1
        (s.fetch send now series).2.client.auth := by
  obtain ⟨es, events, hpast, hlog, hlimit⟩ := walk_limit send now series endpoint
    s.client.maxPages.toNat 0 s.recorded
  obtain ⟨hfound, hmirrors⟩ := fetch_recorded send now series s
  rcases hwalk : s.recorded.walk (recording send now) now series endpoint
    s.client.maxPages.toNat 0 with ⟨found, m⟩
  simp only [hwalk] at hpast hlog hlimit
  have hrun : s.recorded.fetch (recording send now) now series =
      if found.isEmpty then ([], m) else (found, m.note (.fetched series found.length)) := by
    have hurl : s.recorded.client.listingUrl series = .ok endpoint := h
    have hroom : s.recorded.client.maxPages = s.client.maxPages := rfl
    simp only [fetch, hurl, hroom, hwalk]
  have hm : m.link.past = es := by simpa [recorded] using hpast
  rcases hlimit with ⟨limit, hmem⟩ | hwalk
  · have hstart : s.recorded.log = s.log := rfl
    refine .inl ⟨limit, ?_⟩
    rw [← hmirrors.log, hrun]
    split <;> simp [note, hlog, hstart, hmem]
  · refine .inr fun more => ?_
    rw [← hfound, ← hmirrors.client, fetchExchanges, hrun]
    have hmore := hwalk more
    rw [← hm] at hmore
    split
    · next hempty =>
      rw [List.isEmpty_iff.mp hempty] at hmore
      exact hmore
    · exact hmore

/-! ### Two fetches -/

def answeredBy (answers : List Answer) (s : Session Script) : Session Script :=
  { s with link := { s.link with answers := answers } }

def limitedTo (maxPages : UInt32) (s : Session σ) : Session σ :=
  { s with client := s.client.withMaxPages maxPages }

/-- A fetch finds the first of the episodes of another one, and sends the first of its requests. -/
def Begins (x y : List Episode × Session Script) : Prop :=
  x.1 <+: y.1 ∧ x.2.link.sent <+: y.2.link.sent

theorem fetch_of_unusable {s : Session σ} {now : Int} {series : String} {e : PageError}
    (h : s.client.listingUrl series = .error e) :
    s.fetch send now series = ([], s.note (.urlUnusable series e)) := by
  simp only [fetch, h]

/-- Over the first of the answers a fetch is the first part of the fetch over all. -/
theorem begins_answeredBy (s : Session Script) (now : Int) (series : String)
    (first later : List Answer) :
    Begins ((s.answeredBy first).fetch Script.send now series)
      ((s.answeredBy (first ++ later)).fetch Script.send now series) := by
  cases hurl : s.client.listingUrl series with
  | error e =>
      rw [fetch_of_unusable (s := s.answeredBy first) Script.send hurl,
        fetch_of_unusable (s := s.answeredBy (first ++ later)) Script.send hurl]
      exact ⟨List.prefix_rfl, List.prefix_rfl⟩
  | ok endpoint =>
      have hwalk := fetchExchanges_derivation Script.send now series endpoint
        (s.answeredBy (first ++ later)) hurl
      have hall := fetch_conversation Script.send now series (s.answeredBy (first ++ later))
      rw [Begins, hall.sent_eq]
      rcases Conversation.cut hall with
        ⟨l', hsame⟩ | ⟨before, e, after, fault, l', hes, hcut⟩
      · obtain ⟨log, hfetch⟩ := fetch_execution (s := s.answeredBy first) hurl hwalk hsame
        rw [hfetch]
        exact ⟨List.prefix_rfl, hsame.sent_eq ▸ List.prefix_rfl⟩
      · rw [hes] at hwalk ⊢
        obtain ⟨found, auth', hfound, hshort⟩ := hwalk.cut fault
        obtain ⟨log, hfetch⟩ := fetch_execution (s := s.answeredBy first) hurl hshort hcut
        rw [hfetch]
        refine ⟨hfound, ?_⟩
        -- The request without a reply is the last one, and the same in both.
        have hsent : l'.sent = s.link.sent ++ (before ++ [e]).map Exchange.request := by
          simpa [Exchange.failing] using hcut.sent_eq
        refine ⟨after.map Exchange.request, ?_⟩
        simp [moved, hsent, answeredBy]

/-- With a lower limit a fetch is the first part of the fetch with a higher one. -/
theorem begins_limitedTo (s : Session Script) (now : Int) (series : String) {m m' : UInt32}
    (h : m ≤ m') :
    Begins ((s.limitedTo m).fetch Script.send now series)
      ((s.limitedTo m').fetch Script.send now series) := by
  cases hurl : s.client.listingUrl series with
  | error e =>
      rw [fetch_of_unusable (s := s.limitedTo m) Script.send hurl,
        fetch_of_unusable (s := s.limitedTo m') Script.send hurl]
      exact ⟨List.prefix_rfl, List.prefix_rfl⟩
  | ok endpoint =>
      have hwalk := fetchExchanges_derivation Script.send now series endpoint (s.limitedTo m') hurl
      have hall := fetch_conversation Script.send now series (s.limitedTo m')
      obtain ⟨es, found, auth', ⟨rest, hes⟩, hfound, hshort⟩ :=
        hwalk.narrowed (UInt32.le_iff_toNat_le.mp h)
      rw [← hes] at hall
      obtain ⟨l, hfirst, -⟩ := conversation_append_iff.mp hall
      obtain ⟨log, hfetch⟩ := fetch_execution (s := s.limitedTo m) hurl hshort hfirst
      rw [Begins, hall.sent_eq, hfetch]
      refine ⟨hfound, rest.map Exchange.request, ?_⟩
      simp [moved, hfirst.sent_eq, limitedTo]

/-- A fetch that does not come to its limit is the same with a higher one. -/
theorem fetch_limitedTo (s : Session σ) (now : Int) (series : String) {m m' : UInt32} (h : m ≤ m')
    (hlimit : ¬ (s.limitedTo m).ReachesLimit send now series) :
    ((s.limitedTo m').fetch send now series).1 = ((s.limitedTo m).fetch send now series).1 ∧
      ((s.limitedTo m').fetch send now series).2.link =
        ((s.limitedTo m).fetch send now series).2.link := by
  cases hurl : s.client.listingUrl series with
  | error e =>
      rw [fetch_of_unusable (s := s.limitedTo m) send hurl,
        fetch_of_unusable (s := s.limitedTo m') send hurl]
      exact ⟨rfl, rfl⟩
  | ok endpoint =>
      have hall := fetch_conversation send now series (s.limitedTo m)
      have hwalk := (fetch_limit send now series endpoint (s.limitedTo m) hurl).resolve_left hlimit
        (m'.toNat - m.toNat)
      have hroom : (s.limitedTo m).client.maxPages.toNat + (m'.toNat - m.toNat) =
          (s.limitedTo m').client.maxPages.toNat :=
        Nat.add_sub_of_le (UInt32.le_iff_toNat_le.mp h)
      rw [hroom] at hwalk
      obtain ⟨log, hfetch⟩ := fetch_execution (s := s.limitedTo m') hurl hwalk hall
      rw [hfetch]
      exact ⟨rfl, rfl⟩

/-- Fetches of a series that are cut short, by answers that run out or by a limit of pages: each
is the first part of the longer one, and a limit that is not reached makes no difference. -/
structure CutoffSpec (now : Int) (series : String) (s : Session Script) : Prop where
  answers : ∀ first later, Begins ((s.answeredBy first).fetch Script.send now series)
    ((s.answeredBy (first ++ later)).fetch Script.send now series)
  limit : ∀ m m', m ≤ m' → Begins ((s.limitedTo m).fetch Script.send now series)
    ((s.limitedTo m').fetch Script.send now series)
  unreached : ∀ m m', m ≤ m' → ¬ (s.limitedTo m).ReachesLimit Script.send now series →
    ((s.limitedTo m').fetch Script.send now series).1 =
        ((s.limitedTo m).fetch Script.send now series).1 ∧
      ((s.limitedTo m').fetch Script.send now series).2.link =
        ((s.limitedTo m).fetch Script.send now series).2.link

/-- What a client has sent and found before it is cut short does not depend on what would follow. -/
theorem fetch_cutoffSpec (s : Session Script) (now : Int) (series : String) :
    CutoffSpec now series s where
  answers := s.begins_answeredBy now series
  limit := fun _ _ h => s.begins_limitedTo now series h
  unreached := fun _ _ h hlimit => s.fetch_limitedTo Script.send now series h hlimit

end Session

end EpisodeGuide
