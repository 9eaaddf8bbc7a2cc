import EpisodeGuide.Proofs.Session.Order

/-! # Pages that a history asks for

A history of exchanges is read by page number: which pages are asked for, what follows on the
first request for a page, and which page the last reply for it carries. The exchanges that one
page costs come in four forms. -/

namespace EpisodeGuide

open Http Provider

namespace Exchange

def page? (e : Exchange) : Option ℕ :=
  match e.request.method, e.request.query with
  | .get, [(_, text)] => some (Nat.ofDigitChars 10 text.toList 0)
  | _, _ => none

def content? (e : Exchange) : Option Page :=
  match e.outcome with
  | .ok reply => if reply.status = 200 then Page.ofText? reply.body else none
  | .error _ => none

theorem page?_of_post {e : Exchange} (h : e.request.method = .post) : e.page? = none := by
  simp [page?, h]

@[simp] theorem page?_pageRequest (now : Int) (endpoint : String) (t : Token) (n : ℕ)
    (outcome : Except TransportError Reply) :
    (⟨now, pageRequest endpoint t n, outcome⟩ : Exchange).page? = some n := by
  simp [page?, pageRequest, Request.get, Request.withBearer, Request.withQuery]

theorem content?_eq (e : Exchange) : e.content? = (pageOf e.outcome).toOption := by
  obtain ⟨time, request, outcome⟩ := e
  cases outcome with
  | error fault => rfl
  | ok reply =>
      by_cases hstatus : reply.status = 200
      · cases hbody : Page.ofText? reply.body <;>
          simp [content?, pageOf, readPage, hstatus, hbody, Except.toOption]
      · have hread : ∀ page, readPage reply ≠ .ok page := by
          intro page h
          simp only [readPage] at h
          split at h
          · next hok => exact hstatus hok
          · cases h
          · cases h
        cases hr : readPage reply with
        | error fault => simp [content?, pageOf, hstatus, hr, Except.toOption]
        | ok page => exact (hread page hr).elim

theorem content?_of_refused {e : Exchange} (h : e.Refused) : e.content? = none := by
  obtain ⟨-, reply, houtcome, hstatus⟩ := h
  simp [content?, houtcome, hstatus]

end Exchange

/-! ### Reading a history by page -/

/-- The numbers of the pages that are asked for, in the order of the requests. -/
def pagesAsked (es : List Exchange) : List ℕ :=
  es.filterMap Exchange.page?

def sincePage (n : ℕ) (es : List Exchange) : List Exchange :=
  es.dropWhile (fun e => e.page? ≠ some n)

/-- The page that the last reply for its number carries. -/
def finalPage? (n : ℕ) (es : List Exchange) : Option Page :=
  (es.filter (fun e => e.page? = some n)).getLast?.bind Exchange.content?

section Reading

variable {n : ℕ} {xs ys : List Exchange}

@[simp] theorem pagesAsked_append : pagesAsked (xs ++ ys) = pagesAsked xs ++ pagesAsked ys :=
  List.filterMap_append

theorem notMem_pagesAsked_nil : n ∉ pagesAsked [] :=
  List.not_mem_nil

theorem mem_pagesAsked_iff : n ∈ pagesAsked xs ↔ ∃ e ∈ xs, e.page? = some n :=
  List.mem_filterMap

theorem pagesAsked_of_post (h : ∀ e ∈ xs, e.request.method = .post) : pagesAsked xs = [] :=
  List.filterMap_eq_nil_iff.mpr fun e he => Exchange.page?_of_post (h e he)

theorem pagesAsked_append_cons {e : Exchange} (h : ∀ x ∈ xs, x.request.method = .post)
    (he : e.page? = some n) : pagesAsked (xs ++ e :: ys) = n :: pagesAsked ys := by
  rw [pagesAsked_append, pagesAsked_of_post h, List.nil_append, pagesAsked,
    List.filterMap_cons_some he, pagesAsked]

theorem filter_page_eq_nil (h : n ∉ pagesAsked xs) :
    xs.filter (fun e => e.page? = some n) = [] := by
  rw [List.filter_eq_nil_iff]
  intro e he hn
  exact h (mem_pagesAsked_iff.mpr ⟨e, he, of_decide_eq_true hn⟩)

theorem finalPage?_of_notMem (h : n ∉ pagesAsked xs) : finalPage? n xs = none := by
  simp [finalPage?, filter_page_eq_nil h]

theorem finalPage?_append_right (h : n ∉ pagesAsked xs) :
    finalPage? n (xs ++ ys) = finalPage? n ys := by
  simp [finalPage?, filter_page_eq_nil h]

theorem finalPage?_append_left (h : n ∉ pagesAsked ys) :
    finalPage? n (xs ++ ys) = finalPage? n xs := by
  simp [finalPage?, filter_page_eq_nil h]

/-- The last request for a page decides about its content. -/
theorem finalPage?_append_cons {e : Exchange} (he : e.page? = some n) (h : n ∉ pagesAsked ys) :
    finalPage? n (xs ++ e :: ys) = e.content? := by
  have hall : xs ++ e :: ys = (xs ++ [e]) ++ ys := by simp
  rw [hall, finalPage?_append_left h]
  simp [finalPage?, he]

theorem sincePage_append_right (h : n ∉ pagesAsked xs) :
    sincePage n (xs ++ ys) = sincePage n ys := by
  refine List.dropWhile_append_of_pos ?_
  intro e he
  refine decide_eq_true fun hn => h ?_
  exact mem_pagesAsked_iff.mpr ⟨e, he, hn⟩

theorem sincePage_of_notMem (h : n ∉ pagesAsked xs) : sincePage n xs = [] := by
  have happend : sincePage n (xs ++ []) = sincePage n [] := sincePage_append_right h
  simpa [sincePage] using happend

theorem sincePage_append_cons {e : Exchange} (h : ∀ x ∈ xs, x.request.method = .post)
    (he : e.page? = some n) : sincePage n (xs ++ e :: ys) = e :: ys := by
  rw [sincePage_append_right (by simp [pagesAsked_of_post h])]
  simp [sincePage, he]

end Reading

/-! ### What one page costs -/

/-- Logins that issue nothing. -/
def Fruitless (es : List Exchange) : Prop :=
  ∀ e ∈ es, e.request.method = .post ∧ ¬ e.Accepted

/-- The exchanges for a page: no token is to be had; one request, which is not refused; a refused
one without a new token; or a refused one, the login right after it and the request again. -/
inductive PageBlock (n : ℕ) : List Exchange → Except PageError Page → Prop where
  | missing {ls} : Fruitless ls → PageBlock n ls (.error .noToken)
  | once {ls ask} : (∀ e ∈ ls, e.request.method = .post) → ask.page? = some n → ¬ ask.Refused →
      PageBlock n (ls ++ [ask]) (pageOf ask.outcome)
  | abandoned {ls ask ls'} : (∀ e ∈ ls, e.request.method = .post) → ask.page? = some n →
      ask.Refused → Fruitless ls' → PageBlock n (ls ++ ask :: ls') (.error .noToken)
  | renewed {ls first login second} : (∀ e ∈ ls, e.request.method = .post) →
      first.page? = some n → first.Refused → login.request.method = .post → login.Accepted →
      second.page? = some n → PageBlock n (ls ++ [first, login, second]) (pageOf second.outcome)

variable {now : Int} {endpoint : String} {auth auth' : Authenticator} {es : List Exchange}
  {n : ℕ} {result : Except PageError Page}

theorem TokenDerivation.fruitless (h : TokenDerivation now auth es none auth') :
    Fruitless es := by
  rcases h.of_none.2 with ⟨rfl, -⟩ | ⟨e, rfl, -, hpost, hrejected⟩
  · exact List.forall_mem_nil _
  · exact List.forall_mem_singleton.mpr ⟨hpost, hrejected⟩

/-- Without a token a new one comes from a login that is accepted. -/
theorem TokenDerivation.issued_of_token_none {t : Token}
    (h : TokenDerivation now auth es (some t) auth') (ha : auth.token = none) :
    ∃ login, es = [login] ∧ login.Accepted := by
  rcases h.of_some with ⟨-, hheld⟩ | ⟨-, e, rfl, -, hissues⟩
  · simp [Authenticator.currentToken, ha] at hheld
  · exact ⟨e, rfl, t, hissues⟩

theorem refused_iff_pageOf {e : Exchange} (hget : e.request.method = .get) :
    e.Refused ↔ pageOf e.outcome = .error .unauthorized := by
  constructor
  · rintro ⟨-, reply, houtcome, hstatus⟩
    simp [houtcome, pageOf, readPage, hstatus]
  · intro h
    exact ⟨hget, PageDerivation.pageOf_unauthorized h⟩

/-- A page is asked for behind logins at most, or fruitless logins leave no token for it. -/
theorem PageDerivation.forms (h : PageDerivation now endpoint n auth es result auth') :
    (result = .error .noToken ∧ Fruitless es) ∨
      ∃ ls ask, es = ls ++ [ask] ∧ (∀ e ∈ ls, e.request.method = .post) ∧
        ask.request.method = .get ∧ ask.page? = some n ∧ result = pageOf ask.outcome ∧
        (auth.token = none → ∃ login, ls = [login] ∧ login.Accepted) := by
  cases h with
  | noToken ht => exact .inl ⟨rfl, ht.fruitless⟩
  | @asked ls t _ outcome ht =>
      exact .inr ⟨ls, ⟨now, pageRequest endpoint t n, outcome⟩, rfl, ht.login_only, rfl, by simp,
        rfl, ht.issued_of_token_none⟩

theorem PageDerivation.exists_refused
    (h : PageDerivation now endpoint n auth es (.error .unauthorized) auth') :
    ∃ e ∈ es, e.page? = some n ∧ e.Refused := by
  rcases h.forms with ⟨hresult, -⟩ | ⟨ls, ask, rfl, -, hget, hask, hresult, -⟩
  · cases hresult
  · exact ⟨ask, by simp, hask, (refused_iff_pageOf hget).mpr hresult.symm⟩

/-- A page that was refused is asked for again behind a login that is accepted, or not at all. -/
theorem PageDerivation.pageBlock_retry {auth'' : Authenticator} {es' : List Exchange}
    (h : PageDerivation now endpoint n auth es (.error .unauthorized) auth')
    (h' : PageDerivation now endpoint n auth'.invalidate es' result auth'') :
    PageBlock n (es ++ es') result := by
  rcases h.forms with ⟨hresult, -⟩ | ⟨ls, first, rfl, hls, hget, hfirst, hresult, -⟩
  · cases hresult
  have hrefused : first.Refused := (refused_iff_pageOf hget).mpr hresult.symm
  rw [List.append_assoc, List.singleton_append]
  rcases h'.forms with ⟨rfl, hls'⟩ | ⟨_, second, rfl, hlogin, -, hsecond, rfl, hrenewed⟩
  · exact .abandoned hls hfirst hrefused hls'
  · obtain ⟨login, rfl, haccepted⟩ := hrenewed rfl
    exact .renewed hls hfirst hrefused (hlogin login (by simp)) haccepted hsecond

theorem RequestDerivation.pageBlock (h : RequestDerivation now endpoint n auth es result auth') :
    PageBlock n es result := by
  cases h with
  | once hp hr =>
      rcases hp.forms with ⟨rfl, hls⟩ | ⟨ls, ask, rfl, hls, hget, hask, rfl, -⟩
      · exact .missing hls
      · exact .once hls hask fun hrefused => hr ((refused_iff_pageOf hget).mp hrefused)
  | renewed hp hp' | rejected hp hp' => exact hp.pageBlock_retry hp'

/-! ### Blocks within a history -/

namespace PageBlock

variable {block rest : List Exchange}

theorem pagesAsked_eq (h : PageBlock n block result) :
    pagesAsked block = [] ∨ pagesAsked block = [n] ∨ pagesAsked block = [n, n] := by
  cases h with
  | missing hls => exact .inl (pagesAsked_of_post fun e he => (hls e he).1)
  | once hls hask => exact .inr (.inl (pagesAsked_append_cons hls hask))
  | abandoned hls hask hr hls' =>
      have htail := pagesAsked_of_post fun e he => (hls' e he).1
      exact .inr (.inl (by rw [pagesAsked_append_cons hls hask, htail]))
  | renewed hls hfirst hr hpost ha hsecond =>
      refine .inr (.inr ?_)
      rw [pagesAsked_append_cons hls hfirst]
      simp [pagesAsked, Exchange.page?_of_post hpost, hsecond]

theorem eq_of_mem (h : PageBlock n block result) {m : ℕ} (hm : m ∈ pagesAsked block) :
    m = n := by
  rcases h.pagesAsked_eq with hnone | hone | htwo <;> simp_all

theorem count_le_two (h : PageBlock n block result) (m : ℕ) :
    (pagesAsked block).count m ≤ 2 := by
  have hlength : (pagesAsked block).length ≤ 2 := by
    rcases h.pagesAsked_eq with hnone | hone | htwo
    · simp [hnone]
    · simp [hone]
    · simp [htwo]
  exact Nat.le_trans List.count_le_length hlength

theorem count_eq_zero (h : PageBlock n block result) {m : ℕ} (hm : m ≠ n) :
    (pagesAsked block).count m = 0 :=
  List.count_eq_zero.mpr fun hmem => hm (h.eq_of_mem hmem)

theorem mem_of_ok {page : Page} (h : PageBlock n block (.ok page)) : n ∈ pagesAsked block := by
  generalize hresult : (Except.ok page : Except PageError Page) = result at h
  cases h with
  | missing | abandoned => cases hresult
  | once hls hask | renewed hls hask => simp [pagesAsked_append_cons hls hask]

/-- The page that a block ends with is the one that its last request brought. -/
theorem finalPage?_eq (h : PageBlock n block result) (hrest : n ∉ pagesAsked rest) :
    finalPage? n (block ++ rest) = result.toOption := by
  rw [finalPage?_append_left hrest]
  cases h with
  | missing hls =>
      have hnone : pagesAsked block = [] := pagesAsked_of_post fun e he => (hls e he).1
      rw [finalPage?_of_notMem (by simp [hnone])]
      rfl
  | once hls hask =>
      rw [finalPage?_append_cons hask (by simp [pagesAsked]), Exchange.content?_eq]
  | abandoned hls hask hr hls' =>
      have hnone := pagesAsked_of_post fun e he => (hls' e he).1
      rw [finalPage?_append_cons hask (by simp [hnone]), Exchange.content?_of_refused hr]
      rfl
  | @renewed ls first login second hls hfirst hr hpost ha hsecond =>
      have hsplit : ls ++ [first, login, second] = (ls ++ [first, login]) ++ [second] := by simp
      rw [hsplit, finalPage?_append_cons hsecond (by simp [pagesAsked]), Exchange.content?_eq]

/-- A page is asked for twice exactly when it is refused and the login right behind is accepted. -/
theorem count_eq_two_iff (h : PageBlock n block result) (hrest : n ∉ pagesAsked rest)
    (hstop : rest = [] ∨ ∃ page, result = .ok page) :
    (pagesAsked (block ++ rest)).count n = 2 ↔
      ∃ first login later, sincePage n (block ++ rest) = first :: login :: later ∧
        first.Refused ∧ login.Accepted := by
  have hcount : (pagesAsked rest).count n = 0 := List.count_eq_zero.mpr hrest
  rw [pagesAsked_append, List.count_append, hcount]
  cases h with
  | missing hls =>
      have hnone : pagesAsked block = [] := pagesAsked_of_post fun e he => (hls e he).1
      have hsince : sincePage n (block ++ rest) = [] :=
        sincePage_of_notMem (by simpa [hnone] using hrest)
      simp [hnone, hsince]
  | @once ls ask hls hask hr =>
      rw [pagesAsked_append_cons hls hask, List.append_assoc, List.singleton_append,
        sincePage_append_cons hls hask]
      refine iff_of_false (by simp [pagesAsked]) ?_
      rintro ⟨first, login, later, heq, hrefused, -⟩
      obtain rfl : ask = first := (List.cons.inj heq).1
      exact hr hrefused
  | @abandoned ls ask ls' hls hask hr hls' =>
      have htail : pagesAsked ls' = [] := pagesAsked_of_post fun e he => (hls' e he).1
      rw [pagesAsked_append_cons hls hask, htail, List.append_assoc, List.cons_append,
        sincePage_append_cons hls hask]
      refine iff_of_false (by simp) ?_
      rintro ⟨first, login, later, heq, -, haccepted⟩
      -- The walk ends here, so the login could only be one of the fruitless ones.
      obtain rfl : rest = [] := hstop.resolve_right fun ⟨_, hok⟩ => by cases hok
      rw [List.append_nil] at heq
      exact (hls' login (by simp [(List.cons.inj heq).2])).2 haccepted
  | @renewed ls first login second hls hfirst hr hpost ha hsecond =>
      rw [pagesAsked_append_cons hls hfirst, List.append_assoc, List.cons_append,
        sincePage_append_cons hls hfirst]
      refine iff_of_true ?_ ⟨first, login, second :: rest, rfl, hr, ha⟩
      simp [pagesAsked, Exchange.page?_of_post hpost, hsecond]

/-! Blocks that nothing follows. -/

theorem finalPage?_self (h : PageBlock n block result) (m : ℕ) :
    finalPage? m block = if m = n then result.toOption else none := by
  by_cases hm : m = n
  · subst hm
    simpa using h.finalPage?_eq notMem_pagesAsked_nil
  · rw [if_neg hm, finalPage?_of_notMem fun hmem => hm (h.eq_of_mem hmem)]

theorem count_eq_two_iff_self (h : PageBlock n block result) (m : ℕ) :
    (pagesAsked block).count m = 2 ↔
      ∃ first login later, sincePage m block = first :: login :: later ∧ first.Refused ∧
        login.Accepted := by
  by_cases hm : m = n
  · subst hm
    simpa using h.count_eq_two_iff notMem_pagesAsked_nil (.inl rfl)
  · have hblock : m ∉ pagesAsked block := fun hmem => hm (h.eq_of_mem hmem)
    simp [h.count_eq_zero hm, sincePage_of_notMem hblock]

end PageBlock

end EpisodeGuide
