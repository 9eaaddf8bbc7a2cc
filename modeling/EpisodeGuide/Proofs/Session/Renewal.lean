import EpisodeGuide.Proofs.Session.Order

/-! # Renewal of tokens over a run

A client fetches series after series while the clock moves and the provider answers as it likes.
Over the whole run a rejected token is never used again, and no login is sent while the last
accepted token is still good. -/

namespace EpisodeGuide

open Http Provider

variable {σ : Type}

/-- What happens to a client: it fetches a series, the clock moves by some seconds, forwards or
backwards, or the other side of the link changes. -/
inductive ClientMove (σ : Type) where
  | fetch (series : String)
  | advance (seconds : Int)
  | outside (change : σ → σ)

/-- The exchanges of a run that starts at the second `now`. -/
def Session.runExchanges (send : Transport σ) :
    List (ClientMove σ) → (now : Int) → Session σ → List Exchange
  | [], _, _ => []
  | .fetch series :: moves, now, s =>
      s.fetchExchanges send now series ++ runExchanges send moves now (s.fetch send now series).2
  | .advance seconds :: moves, now, s => runExchanges send moves (now + seconds) s
  | .outside change :: moves, now, s =>
      runExchanges send moves now { s with link := change s.link }

theorem Session.runExchanges_orderly (send : Transport σ) (moves : List (ClientMove σ))
    (now : Int) (s : Session σ) : Orderly s.client.auth.token (s.runExchanges send moves now) := by
  induction moves generalizing now s with
  | nil => trivial
  | cons move moves ih =>
      cases move with
      | fetch series =>
          rw [runExchanges, orderly_append, ← fetch_token]
          exact ⟨fetchExchanges_orderly send now series s, ih now _⟩
      | advance seconds => exact ih (now + seconds) s
      | outside change => exact ih now { s with link := change s.link }

/-! ### Orderly histories that start without a token -/

variable {es before between after : List Exchange} {e refused : Exchange}

/-- A page request carries the token of the last accepted login, which no page has been refused
for and which is still valid. -/
theorem Orderly.carried (h : Orderly none (before ++ e :: after)) (he : e.request.method = .get) :
    ∃ xs login ys t, before = xs ++ login :: ys ∧ login.Issues t ∧ Quiet ys ∧
      e.time < t.expiresAt ∧ e.request.bearer = some t.value := by
  have hfits := h.fits
  rw [Exchange.Fits, he] at hfits
  obtain ⟨t, hheld, hvalid, hbearer⟩ := hfits
  rcases (heldAfter_eq_some_iff none before t).mp hheld with ⟨hnone, -⟩ | hlogin
  · cases hnone
  · obtain ⟨xs, login, ys, rfl, hissues, hquiet⟩ := hlogin
    exact ⟨xs, login, ys, t, rfl, hissues, hquiet, hvalid, hbearer⟩

/-- Behind a refusal a page is only asked for after a new login. -/
theorem Orderly.renewed (h : Orderly none (before ++ refused :: between ++ e :: after))
    (hr : refused.Refused) (he : e.request.method = .get) :
    ∃ xs login ys t, between = xs ++ login :: ys ∧ login.Issues t ∧ Quiet ys ∧
      e.time < t.expiresAt ∧ e.request.bearer = some t.value := by
  have hsplit : before ++ refused :: between ++ e :: after =
      (before ++ [refused]) ++ (between ++ e :: after) := by simp
  rw [hsplit, orderly_append, heldAfter_append, heldAfter_cons, heldAfter_nil,
    Exchange.keep_of_refused hr] at h
  exact h.2.carried he

/-- Between two accepted logins every page is asked for with the token of the first. -/
theorem Orderly.bearer_eq {t : Token} (h : Orderly (some t) (before ++ e :: after))
    (ha : ∀ x ∈ before, ¬ x.Accepted) (he : e.request.method = .get) :
    e.request.bearer = some t.value := by
  have hfits := h.fits
  rw [Exchange.Fits, he] at hfits
  obtain ⟨t', hheld, -, hbearer⟩ := hfits
  rcases (heldAfter_eq_some_iff (some t) before t').mp hheld with ⟨heq, -⟩ | hlogin
  · rw [Option.some.inj heq, hbearer]
  · obtain ⟨xs, login, ys, rfl, hissues, -⟩ := hlogin
    exact (ha login (by simp) ⟨t', hissues⟩).elim

/-- A login is sent only when none was accepted so far, or when the token of the last accepted
one has expired or has been refused. -/
theorem Orderly.needed (h : Orderly none (before ++ e :: after)) (he : e.request.method = .post) :
    (∀ x ∈ before, ¬ x.Accepted) ∨
      ∃ xs login ys t, before = xs ++ login :: ys ∧ login.Issues t ∧ (∀ x ∈ ys, ¬ x.Accepted) ∧
        (t.expiresAt ≤ e.time ∨ ∃ x ∈ ys, x.Refused ∧ x.request.bearer = some t.value) := by
  rcases History.eq_append_last Exchange.Accepted before with
    hnone | ⟨xs, login, ys, rfl, ⟨t, hissues⟩, hys⟩
  · exact .inl hnone
  · refine .inr ⟨xs, login, ys, t, rfl, hissues, hys, ?_⟩
    by_cases hr : ∃ x ∈ ys, x.Refused
    · obtain ⟨x, hx, hrefused⟩ := hr
      obtain ⟨as, bs, rfl⟩ := List.mem_iff_append.mp hx
      refine .inr ⟨x, hx, hrefused, ?_⟩
      have hsplit : xs ++ login :: (as ++ x :: bs) ++ e :: after =
          (xs ++ [login]) ++ (as ++ x :: (bs ++ e :: after)) := by simp
      rw [hsplit, orderly_append, heldAfter_append, heldAfter_cons, heldAfter_nil,
        Exchange.keep_of_issues hissues] at h
      exact h.2.bearer_eq (fun y hy => hys y (by simp [hy])) hrefused.1
    · have hquiet : Quiet ys := fun x hx => ⟨hys x hx, fun hrefused => hr ⟨x, hx, hrefused⟩⟩
      have hfits := h.fits
      rw [Exchange.Fits, he, heldAfter_append, heldAfter_cons, Exchange.keep_of_issues hissues,
        heldAfter_of_quiet hquiet] at hfits
      exact .inl (hfits t rfl)

/-- While a token is neither refused nor expired, no login is sent. -/
theorem Orderly.no_login {t : Token} (h : Orderly (some t) es) (hr : ∀ x ∈ es, ¬ x.Refused)
    (ht : ∀ x ∈ es, x.time < t.expiresAt) : ∀ x ∈ es, x.request.method = .get := by
  induction es with
  | nil => simp
  | cons x es ih =>
      obtain ⟨hfits, hrest⟩ := h
      have hget : x.request.method = .get := by
        cases hm : x.request.method with
        | get => rfl
        | post =>
            rw [Exchange.Fits, hm] at hfits
            have hexpired := hfits t rfl
            have hvalid := ht x (by simp)
            omega
      have ha : ¬ x.Accepted := by
        rintro ⟨_, hpost, -⟩
        simp [hget] at hpost
      rw [Exchange.keep_of_quiet ha (hr x (by simp))] at hrest
      intro y hy
      rcases List.mem_cons.mp hy with rfl | hy
      · exact hget
      · exact ih hrest (fun z hz => hr z (by simp [hz])) (fun z hz => ht z (by simp [hz])) y hy

/-! ### Runs of a client -/

/-- Tokens over the exchanges of a run: every page is asked for with the good token of the last
accepted login, which is a new one behind a refusal, and a login is sent only when it is needed. -/
structure RenewalSpec (es : List Exchange) : Prop where
  carried : ∀ before page after, es = before ++ page :: after → page.request.method = .get →
    ∃ xs login ys t, before = xs ++ login :: ys ∧ login.Issues t ∧ Quiet ys ∧
      page.time < t.expiresAt ∧ page.request.bearer = some t.value
  renewed : ∀ before refused between page after,
    es = before ++ refused :: between ++ page :: after → refused.Refused →
    page.request.method = .get → (∀ x ∈ between, x.request.method ≠ .get) →
    ∃ xs login ys t, between = xs ++ login :: ys ∧ login.Issues t ∧
      (∀ x ∈ ys, ¬ x.Accepted) ∧ page.request.bearer = some t.value
  needed : ∀ before login after, es = before ++ login :: after → login.request.method = .post →
    (∀ x ∈ before, ¬ x.Accepted) ∨
      ∃ xs issue ys t, before = xs ++ issue :: ys ∧ issue.Issues t ∧ (∀ x ∈ ys, ¬ x.Accepted) ∧
        (t.expiresAt ≤ login.time ∨ ∃ x ∈ ys, x.Refused ∧ x.request.bearer = some t.value)
  single : ∀ before first after t, es = before ++ first :: after → first.Issues t →
    (∀ x ∈ before, ¬ x.Accepted) → (∀ x ∈ es, ¬ x.Refused) →
    (∀ x ∈ after, x.time < first.time + 86400) →
    ∀ x ∈ after, x.request.method ≠ .post ∧ ¬ x.Accepted

theorem Orderly.renewalSpec (h : Orderly none es) : RenewalSpec es := by
  refine ⟨?_, ?_, ?_, ?_⟩
  · rintro before page after rfl hpage
    exact h.carried hpage
  · rintro before refused between page after rfl hrefused hpage -
    obtain ⟨xs, login, ys, t, hbetween, hissues, hquiet, -, hbearer⟩ := h.renewed hrefused hpage
    exact ⟨xs, login, ys, t, hbetween, hissues, fun x hx => (hquiet x hx).1, hbearer⟩
  · rintro before login after rfl hlogin
    exact h.needed hlogin
  · rintro before first after t rfl hissues - hrefused htimes x hx
    rw [orderly_append] at h
    have hafter : Orderly (first.keep (heldAfter none before)) after := h.2.2
    rw [Exchange.keep_of_issues hissues] at hafter
    have hget := hafter.no_login (fun y hy => hrefused y (by simp [hy]))
      (fun y hy => hissues.expiresAt_eq ▸ htimes y hy) x hx
    refine ⟨by simp [hget], ?_⟩
    rintro ⟨_, hpost, -⟩
    simp [hget] at hpost

/-- Over every run of a client that has just been set up, a rejected token is never used again
and a good one is never thrown away. -/
theorem Session.runExchanges_renewalSpec (send : Transport σ) (moves : List (ClientMove σ))
    (now : Int) (apiKey : Option String) (baseUrl : String) (maxPages : UInt32) (link : σ) :
    RenewalSpec ((Session.start apiKey baseUrl maxPages link).runExchanges send moves now) :=
  (runExchanges_orderly send moves now (start apiKey baseUrl maxPages link)).renewalSpec

end EpisodeGuide
