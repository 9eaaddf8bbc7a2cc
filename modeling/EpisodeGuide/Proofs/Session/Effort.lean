import EpisodeGuide.Proofs.Session.Execution
import EpisodeGuide.Proofs.Session.Walk

/-! # The effort of a fetch

Whatever the provider answers, a fetch ends, its page counter stays within the limit, and the
number of its requests is bounded: each page costs at most two requests and the login between
them, and one more login may come before the first page. -/

namespace EpisodeGuide

open Http Provider

def logins (es : List Exchange) : List Exchange :=
  es.filter fun e => e.request.method = .post

@[simp] theorem logins_append (xs ys : List Exchange) :
    logins (xs ++ ys) = logins xs ++ logins ys :=
  List.filter_append xs ys

theorem Exchange.method_of_page? {e : Exchange} {n : ℕ} (h : e.page? = some n) :
    e.request.method = .get := by
  cases hm : e.request.method with
  | get => rfl
  | post => simp [Exchange.page?_of_post hm] at h

/-! ### What a page costs -/

/-- What a page costs behind the login for its first request: nothing, one request, a refused one
and a login, or these and the request again. -/
inductive PageCost (n : ℕ) : List Exchange → Prop where
  | unasked : PageCost n []
  | asked {ask} : ask.page? = some n → PageCost n [ask]
  | abandoned {ask login} : ask.page? = some n → ask.Refused → login.request.method = .post →
      PageCost n [ask, login]
  | renewed {ask login second} : ask.page? = some n → ask.Refused →
      login.request.method = .post → second.page? = some n → PageCost n [ask, login, second]

/-- What the pages from `page` on cost, at most `room` of them. -/
inductive WalkCost : ℕ → ℕ → List Exchange → Prop where
  | done (room page) : WalkCost room page []
  | page {room page xs ys} : PageCost page xs → WalkCost room (page + 1) ys →
      WalkCost (room + 1) page (xs ++ ys)

/-- A login behind these exchanges is charged to a page: it is the refusal of a request for that
page which it answers. -/
def ChargedTo (n : ℕ) (before : List Exchange) : Prop :=
  ∃ ask ∈ before.getLast?, ask.page? = some n ∧ ask.Refused

namespace ChargedTo

variable {n k : ℕ} {before xs ys : List Exchange} {e : Exchange}

theorem append_left (h : ChargedTo n before) (xs : List Exchange) : ChargedTo n (xs ++ before) := by
  obtain ⟨ask, hlast, hask, hr⟩ := h
  exact ⟨ask, by simp [List.getLast?_append, Option.mem_def.mp hlast], hask, hr⟩

theorem append_cons_iff : ChargedTo n (xs ++ e :: ys) ↔ ChargedTo n (e :: ys) := by
  simp [ChargedTo, List.getLast?_append, List.getLast?_cons]

theorem mem_pagesAsked (h : ChargedTo n before) : n ∈ pagesAsked before := by
  obtain ⟨ask, hlast, hask, -⟩ := h
  exact mem_pagesAsked_iff.mpr ⟨ask, List.mem_of_getLast? hlast, hask⟩

theorem unique (h : ChargedTo n before) (h' : ChargedTo k before) : n = k := by
  obtain ⟨ask, hlast, hask, -⟩ := h
  obtain ⟨ask', hlast', hask', -⟩ := h'
  obtain rfl : ask = ask' := Option.some.inj (hlast.symm.trans hlast')
  exact Option.some.inj (hask.symm.trans hask')

end ChargedTo

namespace PageCost

variable {n : ℕ} {es before after : List Exchange} {login : Exchange}

theorem length_le (h : PageCost n es) : es.length ≤ 3 := by
  cases h <;> simp

theorem length_logins_le (h : PageCost n es) : (logins es).length ≤ 1 := by
  cases h with
  | unasked => simp [logins]
  | asked hask => simp [logins, Exchange.method_of_page? hask]
  | abandoned hask _ hlogin => simp [logins, Exchange.method_of_page? hask, hlogin]
  | renewed hask _ hlogin hsecond =>
      simp [logins, Exchange.method_of_page? hask, hlogin, Exchange.method_of_page? hsecond]

theorem eq_of_mem (h : PageCost n es) {k : ℕ} (hk : k ∈ pagesAsked es) : k = n := by
  cases h with
  | unasked => simp [pagesAsked] at hk
  | asked hask => simpa [pagesAsked, hask] using hk
  | abandoned hask _ hlogin =>
      simpa [pagesAsked, hask, Exchange.page?_of_post hlogin] using hk
  | renewed hask _ hlogin hsecond =>
      simpa [pagesAsked, hask, Exchange.page?_of_post hlogin, hsecond] using hk

/-- The login for a page is charged to it, behind the first request for it. -/
theorem charged (h : PageCost n (before ++ login :: after))
    (hlogin : login.request.method = .post) :
    ChargedTo n before ∧ (pagesAsked before).count n = 1 := by
  generalize hes : before ++ login :: after = es at h
  -- A request for a page is no login.
  have hother {e : Exchange} (he : e.page? = some n) : login ≠ e := by
    rintro rfl
    simp [Exchange.page?_of_post hlogin] at he
  have hfirst {e : Exchange} (he : e.page? = some n) (hr : e.Refused) :
      ChargedTo n [e] ∧ (pagesAsked [e]).count n = 1 :=
    ⟨⟨e, rfl, he, hr⟩, by simp [pagesAsked, he]⟩
  cases h with
  | unasked => simp at hes
  | asked hask =>
      obtain ⟨-, rfl, -⟩ : before = [] ∧ login = _ ∧ after = [] := by
        simpa [List.append_eq_singleton_iff] using hes
      exact (hother hask rfl).elim
  | @abandoned ask _ hask hr =>
      rcases before with _ | ⟨first, before⟩
      · exact (hother hask (List.cons.inj hes).1).elim
      · obtain ⟨rfl, hes⟩ := List.cons.inj hes
        obtain ⟨rfl, -⟩ : before = [] ∧ _ := by
          simpa [List.append_eq_singleton_iff] using hes
        exact hfirst hask hr
  | @renewed ask _ second hask hr _ hsecond =>
      rcases before with _ | ⟨first, _ | ⟨between, before⟩⟩
      · exact (hother hask (List.cons.inj hes).1).elim
      · obtain ⟨rfl, -⟩ := List.cons.inj hes
        exact hfirst hask hr
      · obtain ⟨-, hes⟩ := List.cons.inj hes
        obtain ⟨-, hes⟩ := List.cons.inj hes
        obtain ⟨-, rfl, -⟩ : before = [] ∧ login = _ ∧ after = [] := by
          simpa [List.append_eq_singleton_iff] using hes
        exact (hother hsecond rfl).elim

end PageCost

namespace WalkCost

variable {room page : ℕ} {es before after : List Exchange} {login : Exchange}

theorem single {xs : List Exchange} (h : PageCost page xs) : WalkCost (room + 1) page xs :=
  List.append_nil xs ▸ .page h (.done room (page + 1))

theorem length_le (h : WalkCost room page es) : es.length ≤ 3 * room := by
  induction h with
  | done => simp
  | page hpage _ ih =>
      have hlength := hpage.length_le
      rw [List.length_append]
      omega

theorem length_logins_le (h : WalkCost room page es) : (logins es).length ≤ room := by
  induction h with
  | done => simp [logins]
  | page hpage _ ih =>
      have hlength := hpage.length_logins_le
      rw [logins_append, List.length_append]
      omega

/-- Every login is charged to a page, behind the first request for it. -/
theorem charged (h : WalkCost room page (before ++ login :: after))
    (hlogin : login.request.method = .post) :
    ∃ n, page ≤ n ∧ ChargedTo n before ∧ (pagesAsked before).count n = 1 := by
  generalize hes : before ++ login :: after = es at h
  induction h generalizing before with
  | done => simp at hes
  | @page _ page xs ys hpage _ ih =>
      rcases History.append_eq_split hes.symm with ⟨rest, rfl, -⟩ | ⟨head, rfl, hys⟩
      · exact ⟨page, le_rfl, hpage.charged hlogin⟩
      · obtain ⟨n, hn, hcharged, hfirst⟩ := ih hys.symm
        have hxs : (pagesAsked xs).count n = 0 := List.count_eq_zero.mpr fun hmem => by
          have heq := hpage.eq_of_mem hmem
          omega
        exact ⟨n, by omega, hcharged.append_left xs, by simp [hxs, hfirst]⟩

end WalkCost

/-! ### Derivations within the costs -/

variable {now : Int} {series endpoint : String} {page room : ℕ} {auth auth' auth'' : Authenticator}
  {es es' : List Exchange} {result : Except PageError Page}

/-- At most one login, and none with a good token at hand. -/
structure Opening (now : Int) (auth : Authenticator) (ls : List Exchange) : Prop where
  posts : ∀ e ∈ ls, e.request.method = .post
  length_le : ls.length ≤ 1
  of_held : ∀ t, auth.currentToken now = some t → ls = []

theorem TokenDerivation.opening {token : Option Token}
    (h : TokenDerivation now auth es token auth') : Opening now auth es where
  posts := h.login_only
  length_le := h.length_le_one
  of_held := fun _ ht => (h.of_held ht).1

theorem PageDerivation.cost (h : PageDerivation now endpoint page auth es result auth') :
    ∃ ls xs, es = ls ++ xs ∧ Opening now auth ls ∧ PageCost page xs := by
  cases h with
  | noToken ht => exact ⟨es, [], by simp, ht.opening, .unasked⟩
  | asked outcome ht => exact ⟨_, _, rfl, ht.opening, .asked (by simp)⟩

/-- A page that was refused is at most asked for once more, behind one login. -/
theorem PageDerivation.cost_retry
    (h : PageDerivation now endpoint page auth es (.error .unauthorized) auth')
    (h' : PageDerivation now endpoint page auth'.invalidate es' result auth'') :
    ∃ ls xs, es ++ es' = ls ++ xs ∧ Opening now auth ls ∧ PageCost page xs := by
  generalize hresult : (Except.error PageError.unauthorized : Except PageError Page) = first at h
  cases h with
  | noToken => cases hresult
  | @asked ls t _ outcome ht =>
      have hrefused : (⟨now, pageRequest endpoint t page, outcome⟩ : Exchange).Refused :=
        (refused_iff_pageOf rfl).mpr hresult.symm
      have hask : (⟨now, pageRequest endpoint t page, outcome⟩ : Exchange).page? = some page := by
        simp
      refine ⟨ls, ⟨now, pageRequest endpoint t page, outcome⟩ :: es', by simp, ht.opening, ?_⟩
      cases h' with
      | noToken ht' =>
          rcases ht'.of_none.2 with ⟨rfl, -⟩ | ⟨login, rfl, -, hlogin, -⟩
          · exact .asked hask
          · exact .abandoned hask hrefused hlogin
      | asked outcome' ht' =>
          obtain ⟨login, rfl, -⟩ := ht'.issued_of_token_none rfl
          exact .renewed hask hrefused (ht'.login_only login (by simp)) (by simp)

theorem RequestDerivation.cost (h : RequestDerivation now endpoint page auth es result auth') :
    ∃ ls xs, es = ls ++ xs ∧ Opening now auth ls ∧ PageCost page xs := by
  cases h with
  | once hp => exact hp.cost
  | renewed hp hp' | rejected hp hp' => exact hp.cost_retry hp'

/-- Behind a page that was read no login opens the rest: the token is still good. -/
theorem WalkDerivation.cost {found : List Episode}
    (h : WalkDerivation now series endpoint room page auth es found auth') :
    ∃ ls xs, es = ls ++ xs ∧ Opening now auth ls ∧ WalkCost room page xs := by
  induction h with
  | limit page auth => exact ⟨[], [], rfl, ⟨by simp, by simp, by simp⟩, .done 0 page⟩
  | stopped hp | last hp =>
      obtain ⟨ls, xs, rfl, hopening, hcost⟩ := hp.cost
      exact ⟨ls, xs, rfl, hopening, .single hcost⟩
  | next hp _ _ _ ih =>
      obtain ⟨ls, xs, rfl, hopening, hcost⟩ := hp.cost
      obtain ⟨ls', ys, rfl, hopening', hrest⟩ := ih
      obtain ⟨t, hheld, hvalid⟩ := hp.valid_of_ok
      obtain rfl : ls' = [] := hopening'.of_held t
        ((Authenticator.currentToken_eq_some_iff now _ t).mpr ⟨hheld, hvalid⟩)
      exact ⟨ls, xs ++ ys, by simp, hopening, .page hcost hrest⟩

section Bounds

variable {found : List Episode}

theorem WalkDerivation.eq_nil
    (h : WalkDerivation now series endpoint 0 page auth es found auth') : es = [] := by
  cases h
  rfl

theorem WalkDerivation.length_le
    (h : WalkDerivation now series endpoint room page auth es found auth') :
    es.length ≤ 3 * room + 1 := by
  obtain ⟨ls, xs, rfl, hopening, hcost⟩ := h.cost
  have hls := hopening.length_le
  have hxs := hcost.length_le
  rw [List.length_append]
  omega

theorem WalkDerivation.length_logins_le
    (h : WalkDerivation now series endpoint room page auth es found auth') :
    (logins es).length ≤ room + 1 := by
  obtain ⟨ls, xs, rfl, hopening, hcost⟩ := h.cost
  have hls : (logins ls).length ≤ 1 := (List.length_filter_le _ ls).trans hopening.length_le
  have hxs := hcost.length_logins_le
  rw [logins_append, List.length_append]
  omega

/-- A login is sent before all other requests, or charged to a page that was asked for once. -/
theorem WalkDerivation.charged {before after : List Exchange} {login : Exchange}
    (h : WalkDerivation now series endpoint room page auth (before ++ login :: after) found auth')
    (hlogin : login.request.method = .post) :
    before = [] ∨ ∃ n, ChargedTo n before ∧ (pagesAsked before).count n = 1 := by
  obtain ⟨ls, xs, hes, hopening, hcost⟩ := h.cost
  rcases History.append_eq_split hes.symm with ⟨rest, rfl, -⟩ | ⟨head, rfl, rfl⟩
  · refine .inl (List.length_eq_zero_iff.mp ?_)
    have hls := hopening.length_le
    simp only [List.length_append, List.length_cons] at hls
    omega
  · obtain ⟨n, -, hcharged, hfirst⟩ := hcost.charged hlogin
    exact .inr ⟨n, hcharged.append_left ls, by
      rw [pagesAsked_append, pagesAsked_of_post hopening.posts, List.nil_append, hfirst]⟩

/-- No two logins are charged to one page. -/
theorem WalkDerivation.charged_once {before between after : List Exchange} {login again : Exchange}
    (h : WalkDerivation now series endpoint room page auth
      (before ++ login :: (between ++ again :: after)) found auth')
    (hagain : again.request.method = .post) {n : ℕ} (hcharged : ChargedTo n before) :
    ¬ ChargedTo n (before ++ login :: between) := by
  intro hcharged'
  rw [← List.cons_append, ← List.append_assoc] at h
  rcases h.charged hagain with hnil | ⟨k, hk, hfirst⟩
  · simp at hnil
  · obtain rfl := hcharged'.unique hk
    rw [pagesAsked_append, List.count_append] at hfirst
    have hbefore := List.count_pos_iff.mpr hcharged.mem_pagesAsked
    have hbetween :=
      List.count_pos_iff.mpr (ChargedTo.append_cons_iff.mp hcharged').mem_pagesAsked
    omega

end Bounds

/-! ### The loop over the pages -/

variable {σ : Type}

/-- The loop over the pages before one of its turns: the page counter, which is a machine word,
the episodes so far and the session. -/
structure Turn (σ : Type) where
  page : UInt32
  found : List Episode
  session : Session σ

namespace Turn

/-- One turn of the loop: it ends, or goes on with the counter one higher. -/
def next (send : Transport σ) (now : Int) (series endpoint : String) (t : Turn σ) :
    (List Episode × Session σ) ⊕ Turn σ :=
  if t.session.client.maxPages ≤ t.page then
    .inl (t.found, t.session.note (.pageLimitReached series t.session.client.maxPages))
  else
    match t.session.requestPage send now endpoint t.page.toNat with
    | (.error .noToken, s) => .inl (t.found, s.note (.tokenMissing series t.page.toNat))
    | (.error e, s) => .inl (t.found, s.note (.pageFailed series t.page.toNat e))
    | (.ok body, s) =>
      if (body.episodes series).isEmpty then .inl (t.found, s)
      else if body.hasNext then .inr ⟨t.page + 1, t.found ++ body.episodes series, s⟩
      else .inl (t.found ++ body.episodes series, s)

/-- The loop ends in so many turns. -/
inductive Ends (send : Transport σ) (now : Int) (series endpoint : String) :
    ℕ → Turn σ → List Episode × Session σ → Prop where
  | last {t r} : t.next send now series endpoint = .inl r → Ends send now series endpoint 1 t r
  | further {n t t' r} : t.next send now series endpoint = .inr t' →
      Ends send now series endpoint n t' r → Ends send now series endpoint (n + 1) t r

/-- The loop comes from one turn to another. -/
abbrev Reaches (send : Transport σ) (now : Int) (series endpoint : String) :
    Turn σ → Turn σ → Prop :=
  Relation.ReflTransGen fun t t' => t.next send now series endpoint = .inr t'

end Turn

section Loop

variable (send : Transport σ) (now : Int) (series endpoint : String)

theorem Session.requestPage_moved (page : ℕ) (s : Session σ) :
    ∃ auth link log, (s.requestPage send now endpoint page).2 = s.moved auth link log := by
  obtain ⟨es, hpast, hd⟩ := requestPage_derivation send now endpoint page s.recorded
  obtain ⟨-, hmirrors⟩ := requestPage_agree (recording_tracks send now s.link) now endpoint page
    (recorded_mirrors send s)
  have hc := hmirrors.link.2
  rw [hpast, recorded, List.nil_append] at hc
  obtain ⟨log, hrun⟩ := RequestDerivation.execution (s := s) hd hc
  exact ⟨_, _, log, by rw [hrun]⟩

namespace Turn

variable {send now series endpoint} {t t' : Turn σ}

/-- The loop goes on below the limit only, so the counter does not wrap around. -/
theorem next_eq_inr (h : t.next send now series endpoint = .inr t') :
    t.page < t.session.client.maxPages ∧ t'.page.toNat = t.page.toNat + 1 ∧
      t'.session.client.maxPages = t.session.client.maxPages := by
  unfold next at h
  split at h
  · cases h
  · next hlimit =>
    have hlt : t.page < t.session.client.maxPages := UInt32.not_le.mp hlimit
    obtain ⟨auth, link, log, hmoved⟩ :=
      t.session.requestPage_moved send now endpoint t.page.toNat
    rcases hpage : t.session.requestPage send now endpoint t.page.toNat with ⟨result, s⟩
    simp only [hpage] at h hmoved
    have hcounter : (t.page + 1).toNat = t.page.toNat + 1 := by
      have hword := t.session.client.maxPages.toNat_lt
      have hbelow := UInt32.lt_iff_toNat_lt.mp hlt
      rw [UInt32.toNat_add, UInt32.toNat_one, Nat.mod_eq_of_lt (by omega)]
    cases result with
    | error e => cases e <;> cases h
    | ok body =>
        dsimp only at h
        split at h
        · cases h
        · split at h
          · obtain rfl := Sum.inr.inj h
            exact ⟨hlt, hcounter, by rw [hmoved]; rfl⟩
          · cases h

/-- The counter never gets over the limit, which stays as it is. -/
theorem Reaches.page_le (h : Reaches send now series endpoint t t')
    (ht : t.page ≤ t.session.client.maxPages) :
    t'.page ≤ t'.session.client.maxPages ∧
      t'.session.client.maxPages = t.session.client.maxPages := by
  induction h with
  | refl => exact ⟨ht, rfl⟩
  | tail _ hnext ih =>
      obtain ⟨hlt, hcounter, hlimit⟩ := next_eq_inr hnext
      refine ⟨UInt32.le_iff_toNat_le.mpr ?_, hlimit.trans ih.2⟩
      have hbelow := UInt32.lt_iff_toNat_lt.mp hlt
      rw [hcounter, hlimit]
      omega

end Turn

/-- From a turn with room for so many pages the loop ends as the walk does, a turn for each page
and one more at most. -/
theorem Session.walk_ends (room : ℕ) (t : Turn σ)
    (hroom : t.page.toNat + room = t.session.client.maxPages.toNat) :
    ∃ turns ≤ room + 1, Turn.Ends send now series endpoint turns t
      (t.found ++ (t.session.walk send now series endpoint room t.page.toNat).1,
        (t.session.walk send now series endpoint room t.page.toNat).2) := by
  induction room generalizing t with
  | zero =>
      have hlimit : t.session.client.maxPages ≤ t.page := UInt32.le_iff_toNat_le.mpr hroom.ge
      exact ⟨1, le_rfl, .last (by simp [Turn.next, hlimit, walk])⟩
  | succ room ih =>
      have hlimit : ¬ t.session.client.maxPages ≤ t.page := by
        rw [UInt32.le_iff_toNat_le]
        omega
      rcases hpage : t.session.requestPage send now endpoint t.page.toNat with ⟨result, s⟩
      cases result with
      | error e => exact ⟨1, by omega, .last (by cases e <;> simp [Turn.next, hlimit, hpage, walk])⟩
      | ok body =>
          by_cases hempty : body.episodes series = []
          · exact ⟨1, by omega, .last (by simp [Turn.next, hlimit, hpage, walk, hempty])⟩
          · cases hnext : body.hasNext with
            | false =>
                exact ⟨1, by omega, .last (by simp [Turn.next, hlimit, hpage, walk, hempty, hnext])⟩
            | true =>
                have hturn : t.next send now series endpoint =
                    .inr ⟨t.page + 1, t.found ++ body.episodes series, s⟩ := by
                  simp [Turn.next, hlimit, hpage, hempty, hnext]
                obtain ⟨-, hcounter, hmax⟩ := Turn.next_eq_inr hturn
                obtain ⟨turns, hturns, hends⟩ :=
                  ih ⟨t.page + 1, t.found ++ body.episodes series, s⟩ (by
                    simp only at hcounter hmax ⊢
                    rw [hcounter, hmax]
                    omega)
                refine ⟨turns + 1, by omega, .further hturn ?_⟩
                simp only at hcounter
                simpa [walk, hpage, hempty, hnext, hcounter] using hends

end Loop

/-! ### Fetching a listing -/

namespace Session

/-- What the loop over the pages leaves is reported when episodes were found. -/
def reported (series : String) (r : List Episode × Session σ) : List Episode × Session σ :=
  if r.1.isEmpty then r else (r.1, r.2.note (.fetched series r.1.length))

/-- What a fetch takes, whatever the other side of the link answers: its loop ends, its counter
stays within the limit, and a page costs at most two requests and one login. -/
structure EffortSpec (send : Transport σ) (now : Int) (series : String) (s : Session σ)
    (es : List Exchange) : Prop where
  conversation : Conversation send s.link es (s.fetch send now series).2.link
  ends : ∀ endpoint, s.client.listingUrl series = .ok endpoint →
    ∃ turns ≤ s.client.maxPages.toNat + 1, ∃ r,
      Turn.Ends send now series endpoint turns ⟨0, [], s⟩ r ∧
        s.fetch send now series = reported series r
  counter : ∀ endpoint t, Turn.Reaches send now series endpoint ⟨0, [], s⟩ t →
    t.page ≤ s.client.maxPages ∧
      ∀ t', t.next send now series endpoint = .inr t' → t'.page.toNat = t.page.toNat + 1
  total : es.length ≤ 3 * s.client.maxPages.toNat + 1
  silent : s.client.maxPages = 0 → es = []
  asked : ∀ e ∈ es, e.request.method = .get → ∃ n < s.client.maxPages.toNat, e.page? = some n
  atMostTwice : ∀ n, (pagesAsked es).count n ≤ 2
  logins : (logins es).length ≤ s.client.maxPages.toNat + 1
  charged : ∀ before login after, es = before ++ login :: after →
    login.request.method = .post → before = [] ∨ ∃ n, ChargedTo n before
  atMostOnce : ∀ before login between again after,
    es = before ++ login :: (between ++ again :: after) → again.request.method = .post →
      ∀ n, ChargedTo n before → ¬ ChargedTo n (before ++ login :: between)

theorem fetch_ends (send : Transport σ) (now : Int) (series endpoint : String) (s : Session σ)
    (h : s.client.listingUrl series = .ok endpoint) :
    ∃ turns ≤ s.client.maxPages.toNat + 1, ∃ r,
      Turn.Ends send now series endpoint turns ⟨0, [], s⟩ r ∧
        s.fetch send now series = reported series r := by
  obtain ⟨turns, hturns, hends⟩ := walk_ends send now series endpoint s.client.maxPages.toNat
    ⟨0, [], s⟩ (Nat.zero_add _)
  refine ⟨turns, hturns, _, hends, ?_⟩
  simp only [fetch, h, reported, List.nil_append, UInt32.toNat_zero]
  split
  · next hempty => exact Prod.ext (List.isEmpty_iff.mp hempty).symm rfl
  · rfl

/-- However the provider answers, a fetch takes no more than its limit of pages allows. -/
theorem fetch_effortSpec (send : Transport σ) (now : Int) (series : String) (s : Session σ) :
    EffortSpec send now series s (s.fetchExchanges send now series) := by
  have hcounter (endpoint : String) (t : Turn σ)
      (ht : Turn.Reaches send now series endpoint ⟨0, [], s⟩ t) : t.page ≤ s.client.maxPages ∧
        ∀ t', t.next send now series endpoint = .inr t' → t'.page.toNat = t.page.toNat + 1 := by
    obtain ⟨hle, hlimit⟩ := ht.page_le (UInt32.zero_le)
    exact ⟨hlimit ▸ hle, fun t' h => (Turn.next_eq_inr h).2.1⟩
  cases hurl : s.client.listingUrl series with
  | error e =>
      rw [(fetchExchanges_of_unusable send now series s e hurl).1]
      exact {
        conversation := by
          have hnone := fetch_conversation send now series s
          rwa [(fetchExchanges_of_unusable send now series s e hurl).1] at hnone
        ends := fun endpoint h => by cases hurl.symm.trans h
        counter := hcounter
        total := by simp
        silent := fun _ => rfl
        asked := by simp
        atMostTwice := by simp [pagesAsked]
        logins := by simp [EpisodeGuide.logins]
        charged := by simp
        atMostOnce := by simp }
  | ok endpoint =>
      have hwalk := fetchExchanges_derivation send now series endpoint s hurl
      exact {
        conversation := fetch_conversation send now series s
        ends := fun endpoint h => fetch_ends send now series endpoint s h
        counter := hcounter
        total := hwalk.length_le
        silent := fun hmax => by
          rw [hmax, UInt32.toNat_zero] at hwalk
          exact hwalk.eq_nil
        asked := fun e he hget => by
          obtain ⟨-, -, n, hn, -⟩ := (hwalk.proper e he).2 hget
          have hbounds := hwalk.bounds n (mem_pagesAsked_iff.mpr ⟨e, he, hn⟩)
          exact ⟨n, by omega, hn⟩
        atMostTwice := hwalk.count_le_two
        logins := hwalk.length_logins_le
        charged := by
          intro before login after hes hlogin
          rw [hes] at hwalk
          rcases hwalk.charged hlogin with hfirst | ⟨n, hn, -⟩
          · exact .inl hfirst
          · exact .inr ⟨n, hn⟩
        atMostOnce := by
          intro before login between again after hes hagain n hcharged
          rw [hes] at hwalk
          exact hwalk.charged_once hagain hcharged }

end Session

end EpisodeGuide
