import EpisodeGuide.Http.Script
import EpisodeGuide.Proofs.Session.Pages
import Mathlib

/-! # The shape of a walk

A walk asks for page after page, each at most twice, and goes on behind a page that has episodes
and a next one. What it finds are the episodes of the pages that were read, in their order. -/

namespace EpisodeGuide

open Http Provider

/-- The episodes of a series on a page that was read, and none if it was not. -/
def keptEpisodes (series : String) (page : Option Page) : List Episode :=
  (page.elim [] Page.usableEntries).map fun entry =>
    ⟨series, entry.season.getD 0, entry.number.getD 0, entry.name.getD "", entry.aired.getD ""⟩

/-- An exchange at the second `now` that asks the listing at `endpoint` for a page, or a login. -/
def Exchange.Proper (now : Int) (endpoint : String) (e : Exchange) : Prop :=
  e.time = now ∧ (e.request.method = .get → e.request.url = endpoint ∧ e.request.body = none ∧
    ∃ n, e.page? = some n ∧ e.request.query = [("page", toString n)])

variable {now : Int} {series endpoint : String} {auth auth' : Authenticator}
  {es : List Exchange} {page room : ℕ} {result : Except PageError Page}

theorem TokenDerivation.proper {token : Option Token}
    (h : TokenDerivation now auth es token auth') : ∀ e ∈ es, e.Proper now endpoint := by
  intro e he
  refine ⟨h.time_eq e he, fun hget => ?_⟩
  have hpost := h.login_only e he
  simp [hget] at hpost

theorem PageDerivation.proper (h : PageDerivation now endpoint page auth es result auth') :
    ∀ e ∈ es, e.Proper now endpoint := by
  cases h with
  | noToken ht => exact ht.proper
  | asked outcome ht =>
      refine List.forall_mem_append.mpr ⟨ht.proper, List.forall_mem_singleton.mpr ?_⟩
      exact ⟨rfl, fun _ => ⟨rfl, rfl, page, by simp, rfl⟩⟩

theorem RequestDerivation.proper (h : RequestDerivation now endpoint page auth es result auth') :
    ∀ e ∈ es, e.Proper now endpoint := by
  cases h with
  | once hp => exact hp.proper
  | renewed hp hp' | rejected hp hp' =>
      exact List.forall_mem_append.mpr ⟨hp.proper, hp'.proper⟩

/-! ### Where a page is asked for at all -/

/-- A valid token is held, or the first exchange is a login that is accepted. -/
def TokenAtHand (now : Int) (held : Option Token) (es : List Exchange) : Prop :=
  (∃ t, held = some t ∧ now < t.expiresAt) ∨ ∃ login ∈ es.head?, login.Accepted

theorem TokenAtHand.append {held : Option Token} {xs : List Exchange}
    (h : TokenAtHand now held xs) (ys : List Exchange) : TokenAtHand now held (xs ++ ys) := by
  rcases h with hvalid | ⟨login, hlogin, haccepted⟩
  · exact .inl hvalid
  · exact .inr ⟨login, by simp [List.head?_append, Option.mem_def.mp hlogin], haccepted⟩

theorem TokenDerivation.not_atHand (h : TokenDerivation now auth es none auth') :
    ¬ TokenAtHand now auth.token es := by
  obtain ⟨hnone, hlogin⟩ := h.of_none
  rintro (⟨t, hheld, hvalid⟩ | ⟨login, hfirst, haccepted⟩)
  · rw [(Authenticator.currentToken_eq_some_iff now auth t).mpr ⟨hheld, hvalid⟩] at hnone
    cases hnone
  · rcases hlogin with ⟨rfl, -⟩ | ⟨e, rfl, -, -, hrejected⟩
    · cases hfirst
    · obtain rfl : e = login := Option.some.inj hfirst
      exact hrejected haccepted

theorem TokenDerivation.atHand {t : Token} (h : TokenDerivation now auth es (some t) auth') :
    TokenAtHand now auth.token es := by
  rcases h.of_some with ⟨-, hheld⟩ | ⟨-, e, rfl, -, hissues⟩
  · exact .inl ⟨t, (Authenticator.currentToken_eq_some_iff now auth t).mp hheld⟩
  · exact .inr ⟨e, rfl, t, hissues⟩

theorem PageDerivation.asked_iff (h : PageDerivation now endpoint page auth es result auth') :
    page ∈ pagesAsked es ↔ TokenAtHand now auth.token es := by
  cases h with
  | noToken ht =>
      have hnone : pagesAsked es = [] := pagesAsked_of_post fun e he => (ht.fruitless e he).1
      exact iff_of_false (by simp [hnone]) ht.not_atHand
  | asked outcome ht =>
      refine iff_of_true ?_ (ht.atHand.append _)
      simp [pagesAsked_append_cons ht.login_only]

theorem PageDerivation.mem_of_unauthorized
    (h : PageDerivation now endpoint page auth es (.error .unauthorized) auth') :
    page ∈ pagesAsked es := by
  rcases h.forms with ⟨hresult, -⟩ | ⟨ls, ask, rfl, hls, -, hask, -⟩
  · cases hresult
  · exact pagesAsked_append_cons hls hask ▸ List.mem_cons_self ..

theorem RequestDerivation.asked_iff
    (h : RequestDerivation now endpoint page auth es result auth') :
    page ∈ pagesAsked es ↔ TokenAtHand now auth.token es := by
  cases h with
  | once hp => exact hp.asked_iff
  | renewed hp | rejected hp =>
      have hasked := hp.mem_of_unauthorized
      refine iff_of_true ?_ ((hp.asked_iff.mp hasked).append _)
      rw [pagesAsked_append]
      exact List.mem_append_left _ hasked

/-- Behind a page that was read the token is still good. -/
theorem PageDerivation.valid_of_ok {body : Page}
    (h : PageDerivation now endpoint page auth es (.ok body) auth') :
    ∃ t, auth'.token = some t ∧ now < t.expiresAt := by
  generalize hresult : (Except.ok body : Except PageError Page) = result at h
  cases h with
  | noToken => cases hresult
  | asked outcome ht => exact ⟨_, ht.valid⟩

theorem RequestDerivation.valid_of_ok {body : Page}
    (h : RequestDerivation now endpoint page auth es (.ok body) auth') :
    ∃ t, auth'.token = some t ∧ now < t.expiresAt := by
  cases h with
  | once hp => exact hp.valid_of_ok
  | renewed hp hp' => exact hp'.valid_of_ok

/-! ### Episodes that are kept -/

/-- The episodes of a block come in front of those behind it. -/
theorem PageBlock.kept_eq {block rest : List Exchange} (h : PageBlock page block result)
    (series : String) (room : ℕ) (hrest : page ∉ pagesAsked rest) :
    ((List.range' page (room + 1)).flatMap fun n =>
        keptEpisodes series (finalPage? n (block ++ rest))) =
      keptEpisodes series result.toOption ++
        (List.range' (page + 1) room).flatMap fun n => keptEpisodes series (finalPage? n rest) := by
  rw [List.range'_succ, List.flatMap_cons, h.finalPage?_eq hrest]
  refine congrArg _ (List.flatMap_congr ?_)
  intro n hn
  have hlater : page + 1 ≤ n := (List.mem_range'_1.mp hn).1
  have hblock : n ∉ pagesAsked block := fun hmem => by
    have heq := h.eq_of_mem hmem
    omega
  rw [finalPage?_append_right hblock]

theorem PageBlock.kept_self {block : List Exchange} (h : PageBlock page block result)
    (series : String) (room : ℕ) :
    ((List.range' page (room + 1)).flatMap fun n => keptEpisodes series (finalPage? n block)) =
      keptEpisodes series result.toOption := by
  have hkept := h.kept_eq series room notMem_pagesAsked_nil
  have hnil (pages : List ℕ) :
      (pages.flatMap fun n => keptEpisodes series (finalPage? n [])) = [] := by
    simp [finalPage?, keptEpisodes]
  rwa [List.append_nil, hnil, List.append_nil] at hkept

/-! ### Walks -/

namespace WalkDerivation

variable {found : List Episode}

theorem proper (h : WalkDerivation now series endpoint room page auth es found auth') :
    ∀ e ∈ es, e.Proper now endpoint := by
  induction h with
  | limit => simp
  | stopped hp | last hp => exact hp.proper
  | next hp _ _ _ ih => exact List.forall_mem_append.mpr ⟨hp.proper, ih⟩

theorem bounds (h : WalkDerivation now series endpoint room page auth es found auth') :
    ∀ n ∈ pagesAsked es, page ≤ n ∧ n < page + room := by
  induction h with
  | limit => simp [pagesAsked]
  | stopped hp | last hp =>
      intro n hn
      have heq := hp.pageBlock.eq_of_mem hn
      omega
  | next hp _ _ _ ih =>
      intro n hn
      rw [pagesAsked_append] at hn
      rcases List.mem_append.mp hn with hn | hn
      · have heq := hp.pageBlock.eq_of_mem hn
        omega
      · have hlater := ih n hn
        omega

/-- The pages behind the first one do not ask for it again. -/
theorem notMem_later (h : WalkDerivation now series endpoint room (page + 1) auth es found auth') :
    page ∉ pagesAsked es := by
  intro hmem
  have hlater := h.bounds page hmem
  omega

theorem asked_iff (h : WalkDerivation now series endpoint room page auth es found auth') :
    page ∈ pagesAsked es ↔ 0 < room ∧ TokenAtHand now auth.token es := by
  cases h with
  | limit => simp [pagesAsked]
  | stopped hp | last hp => simpa using hp.asked_iff
  | next hp _ _ hrest =>
      have hasked := hp.pageBlock.mem_of_ok
      refine iff_of_true ?_ ⟨Nat.succ_pos _, (hp.asked_iff.mp hasked).append _⟩
      rw [pagesAsked_append]
      exact List.mem_append_left _ hasked

theorem head_eq (h : WalkDerivation now series endpoint room page auth es found auth') :
    ∀ n ∈ (pagesAsked es).head?, n = page := by
  cases h with
  | limit => simp [pagesAsked]
  | stopped hp | last hp =>
      exact fun n hn => hp.pageBlock.eq_of_mem (List.mem_of_mem_head? hn)
  | next hp _ _ hrest =>
      have hasked := hp.pageBlock.mem_of_ok
      rcases hp.pageBlock.pagesAsked_eq with hnone | hone | htwo
      · simp [hnone] at hasked
      · simp [hone]
      · simp [htwo]

theorem contiguous (h : WalkDerivation now series endpoint room page auth es found auth') :
    (pagesAsked es).IsChain (fun a b => b = a ∨ b = a + 1) := by
  induction h with
  | limit => simp [pagesAsked]
  | stopped hp | last hp =>
      rcases hp.pageBlock.pagesAsked_eq with hnone | hone | htwo
      · simp [hnone]
      · simp [hone]
      · simp [htwo]
  | next hp _ _ hrest ih =>
      rw [pagesAsked_append, List.isChain_append]
      refine ⟨?_, ih, ?_⟩
      · rcases hp.pageBlock.pagesAsked_eq with hnone | hone | htwo
        · simp [hnone]
        · simp [hone]
        · simp [htwo]
      · intro a ha b hb
        rw [hp.pageBlock.eq_of_mem (List.mem_of_mem_getLast? ha), hrest.head_eq b hb]
        exact .inr rfl

theorem count_le_two (h : WalkDerivation now series endpoint room page auth es found auth')
    (n : ℕ) : (pagesAsked es).count n ≤ 2 := by
  induction h with
  | limit => simp [pagesAsked]
  | stopped hp | last hp => exact hp.pageBlock.count_le_two n
  | @next _ page _ _ es' _ _ _ _ hp _ _ hrest ih =>
      rw [pagesAsked_append, List.count_append]
      by_cases hn : n = page
      · subst hn
        have hlater : (pagesAsked es').count n = 0 := List.count_eq_zero.mpr hrest.notMem_later
        have hblock := hp.pageBlock.count_le_two n
        omega
      · have hblock := hp.pageBlock.count_eq_zero hn
        omega

/-- A page is asked for twice exactly when it is refused and the login right behind is accepted. -/
theorem count_eq_two_iff (h : WalkDerivation now series endpoint room page auth es found auth')
    (n : ℕ) : (pagesAsked es).count n = 2 ↔
      ∃ first login later, sincePage n es = first :: login :: later ∧ first.Refused ∧
        login.Accepted := by
  induction h with
  | limit => simp [pagesAsked, sincePage]
  | stopped hp | last hp => exact hp.pageBlock.count_eq_two_iff_self n
  | @next _ page _ es es' _ _ _ _ hp _ _ hrest ih =>
      by_cases hn : n = page
      · subst hn
        exact hp.pageBlock.count_eq_two_iff hrest.notMem_later (.inr ⟨_, rfl⟩)
      · have hblock : n ∉ pagesAsked es := fun hmem => hn (hp.pageBlock.eq_of_mem hmem)
        rw [pagesAsked_append, List.count_append, hp.pageBlock.count_eq_zero hn, Nat.zero_add,
          sincePage_append_right hblock]
        exact ih

/-- The walk goes on exactly behind a page that was read, has episodes and has a next one. -/
theorem continued_iff (h : WalkDerivation now series endpoint room page auth es found auth')
    (n : ℕ) (hlow : page ≤ n) (hhigh : n + 1 < page + room) :
    n + 1 ∈ pagesAsked es ↔
      ∃ body, finalPage? n es = some body ∧ body.usableEntries ≠ [] ∧ body.hasNext = true := by
  induction h with
  | limit => omega
  | @stopped _ page _ es e _ hp =>
      have hfinal := hp.pageBlock.finalPage?_self n
      refine iff_of_false (fun hmem => ?_) ?_
      · have heq := hp.pageBlock.eq_of_mem hmem
        omega
      · simp [hfinal, Except.toOption]
  | @last _ page _ es body _ hp hend =>
      have hfinal := hp.pageBlock.finalPage?_self n
      refine iff_of_false (fun hmem => ?_) ?_
      · have heq := hp.pageBlock.eq_of_mem hmem
        omega
      · rintro ⟨body', hbody, hne, hnext⟩
        rw [hfinal] at hbody
        obtain ⟨-, rfl⟩ : n = page ∧ body = body' := by
          simpa [Except.toOption] using hbody
        rcases hend with hempty | hlast
        · exact hne hempty
        · simp [hlast] at hnext
  | @next room page _ es es' body _ _ _ hp hne hnext hrest ih =>
      have hother : n + 1 ∉ pagesAsked es := fun hmem => by
        have heq := hp.pageBlock.eq_of_mem hmem
        omega
      rw [pagesAsked_append, List.mem_append, or_iff_right hother]
      by_cases hn : n = page
      · subst hn
        rw [hp.pageBlock.finalPage?_eq hrest.notMem_later, hrest.asked_iff]
        exact iff_of_true ⟨by omega, .inl hp.valid_of_ok⟩ ⟨body, rfl, hne, hnext⟩
      · have hblock : n ∉ pagesAsked es := fun hmem => hn (hp.pageBlock.eq_of_mem hmem)
        rw [finalPage?_append_right hblock]
        exact ih (by omega) (by omega)

/-- What is found are the episodes of the pages that were read. -/
theorem found_eq (h : WalkDerivation now series endpoint room page auth es found auth') :
    found = (List.range' page room).flatMap fun n => keptEpisodes series (finalPage? n es) := by
  induction h with
  | limit => rfl
  | stopped hp | last hp => exact (hp.pageBlock.kept_self series _).symm
  | next hp hne hnext hrest ih =>
      rw [hp.pageBlock.kept_eq series _ hrest.notMem_later, ← ih]
      rfl

end WalkDerivation

/-! ### Fetching a listing -/

/-- A walk over at most `limit` pages, from the token that is held before it: the exchanges `es`
and the episodes that are found. -/
structure WalkSpec (now : Int) (series endpoint : String) (limit : ℕ) (held : Option Token)
    (es : List Exchange) (found : List Episode) : Prop where
  requests : ∀ e ∈ es, e.time = now ∧ (e.request.method = .get →
    e.request.url = endpoint ∧ e.request.body = none ∧
      ∃ n, e.page? = some n ∧ e.request.query = [("page", toString n)])
  bearers : ∀ before e after, es = before ++ e :: after → e.request.method = .get →
    ∃ t, heldAfter held before = some t ∧ now < t.expiresAt ∧ e.request.bearer = some t.value
  started : 0 ∈ pagesAsked es ↔ 0 < limit ∧ TokenAtHand now held es
  first : ∀ n ∈ (pagesAsked es).head?, n = 0
  contiguous : (pagesAsked es).IsChain (fun a b => b = a ∨ b = a + 1)
  bounded : ∀ n ∈ pagesAsked es, n < limit
  atMostTwice : ∀ n, (pagesAsked es).count n ≤ 2
  twice : ∀ n, (pagesAsked es).count n = 2 ↔
    ∃ refused login later, sincePage n es = refused :: login :: later ∧ refused.Refused ∧
      login.Accepted
  continued : ∀ n, n + 1 < limit → (n + 1 ∈ pagesAsked es ↔
    ∃ page, finalPage? n es = some page ∧ page.usableEntries ≠ [] ∧ page.hasNext = true)
  listed : found = (List.range limit).flatMap fun n => keptEpisodes series (finalPage? n es)

theorem WalkDerivation.walkSpec {found : List Episode}
    (h : WalkDerivation now series endpoint room 0 auth es found auth') :
    WalkSpec now series endpoint room auth.token es found where
  requests := h.proper
  bearers := by
    rintro before e after rfl hget
    have hfits := h.orderly.fits
    rw [Exchange.Fits, hget] at hfits
    rw [← (h.proper e (by simp)).1]
    exact hfits
  started := h.asked_iff
  first := h.head_eq
  contiguous := h.contiguous
  bounded := fun n hn => by
    have hbounds := h.bounds n hn
    omega
  atMostTwice := h.count_le_two
  twice := h.count_eq_two_iff
  continued := fun n hn => h.continued_iff n (Nat.zero_le n) (by omega)
  listed := by
    rw [List.range_eq_range']
    exact h.found_eq

/-- One fetch of a series whose listing has an address: the replies are taken in their order, the
token is the one that they leave, and the requests and the result have the shape of a walk. -/
theorem Session.fetch_walkSpec {σ : Type} (send : Transport σ) (now : Int)
    (series endpoint : String) (s : Session σ) (h : s.client.listingUrl series = .ok endpoint) :
    Conversation send s.link (s.fetchExchanges send now series) (s.fetch send now series).2.link ∧
      (s.fetch send now series).2.client.auth.token =
        heldAfter s.client.auth.token (s.fetchExchanges send now series) ∧
      WalkSpec now series endpoint s.client.maxPages.toNat s.client.auth.token
        (s.fetchExchanges send now series) (s.fetch send now series).1 :=
  ⟨(fetch_recorded send now series s).2.link.2, fetch_token send now series s,
    (fetchExchanges_derivation send now series endpoint s h).walkSpec⟩

/-- A walk over two pages, the second one asked for again with a new token. -/
theorem Session.fetch_walkSpec_renewed :
    let login (token : String) : Answer :=
      .reply ⟨200, "\x7b\"status\":\"success\",\"data\":\x7b\"token\":\"" ++ token ++ "\"\x7d\x7d"⟩
    let page (entry next : String) : Answer :=
      .reply ⟨200, "\x7b\"data\":\x7b\"episodes\":[\x7b" ++ entry ++
        "\x7d]\x7d,\"links\":\x7b\"next\":" ++ next ++ "\x7d\x7d"⟩
    let replies := [login "first", page "\"name\":\"Pilot\"" "1", .reply ⟨401, ""⟩,
      login "second", page "\"number\":2" "null"]
    let s := Session.start (some "key") defaultBaseUrl 10 (⟨replies, []⟩ : Script)
    let endpoint := "https://api4.thetvdb.com/v4/series/42/episodes/default"
    s.client.listingUrl "42" = .ok endpoint ∧
      WalkSpec 0 "42" endpoint 10 none (s.fetchExchanges Script.send 0 "42")
        [⟨"42", 0, 0, "Pilot", ""⟩, ⟨"42", 0, 2, "", ""⟩] := by
  intro login page replies s endpoint
  have h : s.client.listingUrl "42" = .ok endpoint := by cbv
  have hfound : (s.fetch Script.send 0 "42").1 =
      [⟨"42", 0, 0, "Pilot", ""⟩, ⟨"42", 0, 2, "", ""⟩] := by cbv
  exact ⟨h, hfound ▸ (Session.fetch_walkSpec Script.send 0 "42" endpoint s h).2.2⟩

end EpisodeGuide
