import EpisodeGuide.Proofs.Session.Order

/-! # Lifetime of tokens over a run

Tokens are asked for, looked up and given up in any order while the clock moves. What is handed
out is always the token of the last accepted login, still valid and not given up since. -/

namespace EpisodeGuide

open Http

variable {σ : Type}

/-- What happens to the token of a session: it is asked for, looked up or given up, the clock
moves by some seconds, forwards or backwards, or the other side of the link changes. -/
inductive TokenMove (σ : Type) where
  | get
  | look
  | invalidate
  | advance (seconds : Int)
  | outside (change : σ → σ)

/-- The clock never goes back. -/
def Steady (moves : List (TokenMove σ)) : Prop :=
  ∀ seconds, .advance seconds ∈ moves → 0 ≤ seconds

/-- What a run shows: a login, an answer to somebody who asked for the token or looked it up, and
the end of a token that is given up. Only who asks may cause a login. -/
inductive Occurrence where
  | login (e : Exchange)
  | answer (asked : Bool) (time : Int) (token : Option Token)
  | invalidated (time : Int)

namespace Occurrence

def time : Occurrence → Int
  | login e => e.time
  | answer _ time _ => time
  | invalidated time => time

/-- The token that is held after an occurrence. -/
def keep (held : Option Token) : Occurrence → Option Token
  | login e => e.keep held
  | answer .. => held
  | invalidated _ => none

/-- An occurrence as it may follow when a token is held: exchanges are logins only, and what is
answered is the token that is held, if it is valid. -/
def Fits (held : Option Token) : Occurrence → Prop
  | login e => e.request.method = .post
  | answer _ time token => token = held.filter (·.isValid time)
  | invalidated _ => True

def Issues (o : Occurrence) (t : Token) : Prop :=
  ∃ e, o = .login e ∧ e.Issues t

/-- No token is issued and none is taken away. -/
def Leaves : Occurrence → Prop
  | login e => ¬ e.Accepted ∧ ¬ e.Refused
  | answer .. => True
  | invalidated _ => False

/-- After a run of occurrences a token is held exactly when the last one that does anything
issued it. -/
theorem held_eq_some_iff (held : Option Token) (os : List Occurrence) (t : Token) :
    os.foldl keep held = some t ↔
      (held = some t ∧ ∀ o ∈ os, o.Leaves) ∨
        ∃ xs o ys, os = xs ++ o :: ys ∧ o.Issues t ∧ ∀ y ∈ ys, y.Leaves := by
  have hsets : ∀ o u, Issues o u → ∀ held, keep held o = some u := by
    rintro _ u ⟨e, rfl, hissues⟩ held
    exact Exchange.keep_of_issues hissues held
  have hleaves : ∀ o, Leaves o → ∀ held, keep held o = held := by
    intro o ho held
    cases o with
    | login e => exact Exchange.keep_of_quiet ho.1 ho.2 held
    | answer => rfl
    | invalidated => exact ho.elim
  refine History.foldl_eq_some_iff hsets hleaves ?_ held os t
  intro o
  cases o with
  | login e =>
      by_cases ha : e.Accepted
      · obtain ⟨u, hu⟩ := ha
        exact .inl ⟨u, e, rfl, hu⟩
      · by_cases hr : e.Refused
        · exact .inr (.inr fun held => Exchange.keep_of_refused hr held)
        · exact .inr (.inl ⟨ha, hr⟩)
  | answer => exact .inr (.inl trivial)
  | invalidated => exact .inr (.inr fun _ => rfl)

end Occurrence

/-! ### Runs -/

/-- What is seen of a run that starts at the second `now`. -/
def Session.occurrences (send : Transport σ) :
    List (TokenMove σ) → (now : Int) → Session σ → List Occurrence
  | [], _, _ => []
  | .get :: moves, now, s =>
      (s.tokenExchanges send now).map .login ++ .answer true now (s.getToken send now).1 ::
        occurrences send moves now (s.getToken send now).2
  | .look :: moves, now, s =>
      .answer false now (s.currentToken now) :: occurrences send moves now s
  | .invalidate :: moves, now, s =>
      .invalidated now :: occurrences send moves now s.invalidate
  | .advance seconds :: moves, now, s => occurrences send moves (now + seconds) s
  | .outside change :: moves, now, s =>
      occurrences send moves now { s with link := change s.link }

/-- Every occurrence fits the token that is held when it happens. -/
def Consistent (held : Option Token) (os : List Occurrence) : Prop :=
  History.Along Occurrence.keep Occurrence.Fits held os

theorem consistent_logins {held : Option Token} {es : List Exchange} {rest : List Occurrence}
    (hlogin : ∀ e ∈ es, e.request.method = .post) :
    Consistent held (es.map .login ++ rest) ↔ Consistent (heldAfter held es) rest := by
  induction es generalizing held with
  | nil => rfl
  | cons e es ih =>
      obtain ⟨he, hes⟩ := List.forall_mem_cons.mp hlogin
      rw [heldAfter_cons, ← ih hes]
      exact and_iff_right he

theorem Session.occurrences_consistent (send : Transport σ) (moves : List (TokenMove σ))
    (now : Int) (s : Session σ) :
    Consistent s.client.auth.token (s.occurrences send moves now) := by
  induction moves generalizing now s with
  | nil => trivial
  | cons move moves ih =>
      cases move with
      | get =>
          have hd := tokenExchanges_derivation send now s
          rw [occurrences, consistent_logins hd.login_only, ← hd.token_eq]
          exact ⟨hd.result_eq, ih now _⟩
      | look => exact ⟨rfl, ih now s⟩
      | invalidate => exact ⟨trivial, ih now s.invalidate⟩
      | advance seconds => exact ih (now + seconds) s
      | outside change => exact ih now { s with link := change s.link }

/-- While the clock never goes back, occurrences are seen in the order of their times. -/
theorem Session.occurrences_ordered (send : Transport σ) (moves : List (TokenMove σ))
    (now : Int) (s : Session σ) (h : Steady moves) :
    (∀ o ∈ s.occurrences send moves now, now ≤ o.time) ∧
      (s.occurrences send moves now).Pairwise (fun a b => a.time ≤ b.time) := by
  induction moves generalizing now s with
  | nil => simp [occurrences]
  | cons move moves ih =>
      have hmoves : Steady moves := fun seconds hs => h seconds (List.mem_cons_of_mem _ hs)
      cases move with
      | get =>
          obtain ⟨hlater, hordered⟩ := ih now (s.getToken send now).2 hmoves
          have htime := (tokenExchanges_derivation send now s).time_eq
          have hall : ∀ o ∈ (s.tokenExchanges send now).map Occurrence.login, o.time = now := by
            simpa [Occurrence.time] using htime
          have hrest : ∀ o ∈ Occurrence.answer true now (s.getToken send now).1 ::
              (s.getToken send now).2.occurrences send moves now, now ≤ o.time := by
            simpa [Occurrence.time] using hlater
          refine ⟨?_, List.pairwise_append.mpr ⟨?_, List.pairwise_cons.mpr ⟨hlater, hordered⟩, ?_⟩⟩
          · intro o ho
            rcases List.mem_append.mp ho with ho | ho
            · exact Int.le_of_eq (hall o ho).symm
            · exact hrest o ho
          · refine List.pairwise_of_forall_mem_list ?_
            intro a ha b hb
            exact Int.le_of_eq ((hall a ha).trans (hall b hb).symm)
          · intro a ha b hb
            rw [hall a ha]
            exact hrest b hb
      | look =>
          obtain ⟨hlater, hordered⟩ := ih now s hmoves
          exact ⟨List.forall_mem_cons.mpr ⟨Int.le_refl now, hlater⟩,
            List.pairwise_cons.mpr ⟨hlater, hordered⟩⟩
      | invalidate =>
          obtain ⟨hlater, hordered⟩ := ih now s.invalidate hmoves
          exact ⟨List.forall_mem_cons.mpr ⟨Int.le_refl now, hlater⟩,
            List.pairwise_cons.mpr ⟨hlater, hordered⟩⟩
      | advance seconds =>
          obtain ⟨hlater, hordered⟩ := ih (now + seconds) s hmoves
          have hforward := h seconds (List.mem_cons_self ..)
          refine ⟨fun o ho => ?_, hordered⟩
          have ho := hlater o ho
          omega
      | outside change => exact ih now { s with link := change s.link } hmoves

/-! ### Consistent runs that start without a token -/

/-- No login is accepted, and the token is not given up. -/
def Undisturbed (os : List Occurrence) : Prop :=
  (∀ e, .login e ∈ os → ¬ e.Accepted) ∧ ∀ time, .invalidated time ∉ os

variable {before after : List Occurrence} {asked : Bool} {now : Int} {token : Option Token}
  {t : Token}

theorem Consistent.login_post {held : Option Token} {os : List Occurrence}
    (h : Consistent held os) {e : Exchange} (he : .login e ∈ os) : e.request.method = .post := by
  obtain ⟨xs, ys, rfl⟩ := List.mem_iff_append.mp he
  exact History.Along.fits h

/-- In a consistent run nothing but a login or giving up the token changes what is held. -/
theorem Consistent.leaves_iff {held : Option Token} {xs ys zs : List Occurrence}
    (h : Consistent held (xs ++ ys ++ zs)) : (∀ y ∈ ys, y.Leaves) ↔ Undisturbed ys := by
  constructor
  · intro hys
    exact ⟨fun e he => (hys _ he).1, fun time htime => hys _ htime⟩
  · rintro ⟨hlogins, hinvalidated⟩ y hy
    cases y with
    | login e =>
        refine ⟨hlogins e hy, ?_⟩
        rintro ⟨hget, -⟩
        have hpost := h.login_post (List.mem_append_left zs (List.mem_append_right xs hy))
        simp [hget] at hpost
    | answer => trivial
    | invalidated time => exact hinvalidated time hy

theorem Consistent.answer_eq_some_iff {held : Option Token}
    (h : Consistent held (before ++ .answer asked now token :: after)) :
    token = some t ↔ before.foldl Occurrence.keep held = some t ∧ now < t.expiresAt := by
  have hfits : token = (before.foldl Occurrence.keep held).filter (·.isValid now) :=
    History.Along.fits h
  rw [hfits, Option.filter_eq_some_iff]
  simp [Token.isValid]

/-- A token that is answered was issued by the last accepted login. -/
theorem Consistent.issued (h : Consistent none (before ++ .answer asked now (some t) :: after)) :
    now < t.expiresAt ∧
      ∃ xs e ys, before = xs ++ .login e :: ys ∧ e.Issues t ∧ Undisturbed ys := by
  obtain ⟨hheld, hvalid⟩ := h.answer_eq_some_iff.mp rfl
  refine ⟨hvalid, ?_⟩
  rcases (Occurrence.held_eq_some_iff none before t).mp hheld with ⟨hnone, -⟩ | hlast
  · cases hnone
  · obtain ⟨xs, _, ys, rfl, ⟨e, rfl, hissues⟩, hys⟩ := hlast
    have hsplit : xs ++ .login e :: ys ++ .answer asked now (some t) :: after =
        (xs ++ [.login e]) ++ ys ++ .answer asked now (some t) :: after := by simp
    rw [hsplit] at h
    exact ⟨xs, e, ys, rfl, hissues, h.leaves_iff.mp hys⟩

/-- A login issues the token that is held until another one is accepted or it is given up. -/
theorem Occurrence.eq_of_issues {held : Option Token} {xs ys : List Occurrence} {e : Exchange}
    {u : Token} (he : e.Issues u) (hys : ∀ x, .login x ∈ ys → ¬ x.Accepted)
    (h : (xs ++ .login e :: ys).foldl Occurrence.keep held = some t) : t = u := by
  rw [List.foldl_append, List.foldl_cons, Occurrence.keep, Exchange.keep_of_issues he] at h
  rcases (Occurrence.held_eq_some_iff (some u) ys t).mp h with ⟨heq, -⟩ | hlast
  · exact (Option.some.inj heq).symm
  · obtain ⟨as, _, bs, rfl, ⟨x, rfl, hx⟩, -⟩ := hlast
    exact (hys x (by simp) ⟨t, hx⟩).elim

/-- While a token is missing and no login is accepted, none is answered. -/
theorem Consistent.still_missing {held : Option Token} {sooner : Bool} {earlier : Int}
    {between : List Occurrence}
    (h : Consistent held
      (before ++ .answer sooner earlier none :: between ++ .answer asked now token :: after))
    (hle : earlier ≤ now) (hb : ∀ e, .login e ∈ between → ¬ e.Accepted) : token = none := by
  cases token with
  | none => rfl
  | some t =>
      obtain ⟨hheld, hvalid⟩ := h.answer_eq_some_iff.mp rfl
      rw [List.foldl_append, List.foldl_cons, Occurrence.keep] at hheld
      rcases (Occurrence.held_eq_some_iff _ between t).mp hheld with ⟨hbefore, -⟩ | hlast
      · -- The token was held when it was missing, so it had expired.
        have hmissing : none = (before.foldl Occurrence.keep held).filter (·.isValid earlier) := by
          rw [List.append_assoc] at h
          exact History.Along.fits h
        simp [hbefore, Option.filter, Token.isValid] at hmissing
        omega
      · obtain ⟨xs, _, ys, rfl, ⟨e, rfl, he⟩, -⟩ := hlast
        exact (hb e (by simp) ⟨t, he⟩).elim

/-! ### Attempts -/

/-- An occurrence as it may follow the one before: when nothing is there for somebody who asks, a
login has just failed. -/
def Occurrence.Tried (previous : Option Occurrence) : Occurrence → Prop
  | answer true time none =>
      ∃ e, previous = some (.login e) ∧ e.time = time ∧ ¬ e.Accepted
  | _ => True

theorem foldl_some_eq_getLast? (os : List Occurrence) :
    os.foldl (fun _ o => some o) none = os.getLast? := by
  induction os using List.reverseRecOn with
  | nil => rfl
  | append_singleton os o ih => simp

theorem along_logins (previous : Option Occurrence) (es : List Exchange) :
    History.Along (fun _ o => some o) Occurrence.Tried previous (es.map .login) := by
  induction es generalizing previous with
  | nil => trivial
  | cons e es ih => exact ⟨trivial, ih _⟩

/-- With a key, nobody who asks goes without a login. -/
theorem Session.occurrences_tried (send : Transport σ) (moves : List (TokenMove σ)) (now : Int)
    (s : Session σ) (hkey : s.client.auth.apiKey ≠ none) (previous : Option Occurrence) :
    History.Along (fun _ o => some o) Occurrence.Tried previous
      (s.occurrences send moves now) := by
  induction moves generalizing now s previous with
  | nil => trivial
  | cons move moves ih =>
      cases move with
      | get =>
          have hd := tokenExchanges_derivation send now s
          have hnext : (s.getToken send now).2.client.auth.apiKey ≠ none := by
            rwa [hd.apiKey_eq]
          rw [occurrences, History.along_append]
          refine ⟨along_logins previous _, ?_, ih now _ hnext _⟩
          cases htoken : (s.getToken send now).1 with
          | some t => trivial
          | none =>
              rw [htoken] at hd
              rcases hd.of_none.2 with ⟨-, hnone⟩ | ⟨e, hes, htime, -, hrejected⟩
              · exact (hkey hnone).elim
              · rw [hes]
                exact ⟨e, rfl, htime, hrejected⟩
      | look => exact ⟨trivial, ih now s hkey _⟩
      | invalidate => exact ⟨trivial, ih now s.invalidate hkey _⟩
      | advance seconds => exact ih (now + seconds) s hkey previous
      | outside change => exact ih now { s with link := change s.link } hkey previous

/-! ### Lifetime -/

/-- What is answered over a run is always the last token that was issued, for as long as it is
valid and not given up. With a key, a login is tried before nothing is answered. -/
structure LifetimeSpec (steady keyed : Prop) (os : List Occurrence) : Prop where
  handedOut : ∀ before asked now t after, os = before ++ .answer asked now (some t) :: after →
    t.value ≠ "" ∧ now < t.expiresAt ∧
      ∃ xs e ys, before = xs ++ .login e :: ys ∧ e.Issues t ∧ t.expiresAt = e.time + 86400 ∧
        Undisturbed ys
  kept : ∀ xs e ys asked now token after t,
    os = xs ++ .login e :: ys ++ .answer asked now token :: after →
    e.Issues t → Undisturbed ys → now < t.expiresAt → token = some t
  fresh : steady → ∀ xs e ys asked now t after,
    os = xs ++ .login e :: ys ++ .answer asked now (some t) :: after →
    e.Accepted → (∀ x, .login x ∈ ys → ¬ x.Accepted) → e.time ≤ now ∧ now < e.time + 86400
  cleared : steady → ∀ before sooner earlier between asked now token after,
    os = before ++ .answer sooner earlier none :: between ++ .answer asked now token :: after →
    (∀ e, .login e ∈ between → ¬ e.Accepted) → token = none
  tried : keyed → ∀ before now after, os = before ++ .answer true now none :: after →
    ∃ xs e, before = xs ++ [.login e] ∧ e.time = now ∧ ¬ e.Accepted

theorem Consistent.lifetimeSpec {os : List Occurrence} {steady keyed : Prop}
    (h : Consistent none os) (hordered : steady → os.Pairwise (fun a b => a.time ≤ b.time))
    (htried : keyed → History.Along (fun _ o => some o) Occurrence.Tried none os) :
    LifetimeSpec steady keyed os := by
  refine ⟨?_, ?_, ?_, ?_, ?_⟩
  · rintro before asked now t after rfl
    obtain ⟨hvalid, xs, e, ys, hbefore, hissues, hys⟩ := h.issued
    exact ⟨hissues.value_ne, hvalid, xs, e, ys, hbefore, hissues, hissues.expiresAt_eq, hys⟩
  · rintro xs e ys asked now token after t rfl hissues hys hvalid
    have hsplit : xs ++ .login e :: ys ++ .answer asked now token :: after =
        (xs ++ [.login e]) ++ ys ++ .answer asked now token :: after := by simp
    have hleaves : ∀ y ∈ ys, y.Leaves := (hsplit ▸ h).leaves_iff.mpr hys
    refine h.answer_eq_some_iff.mpr ⟨?_, hvalid⟩
    exact (Occurrence.held_eq_some_iff none _ t).mpr
      (.inr ⟨xs, .login e, ys, rfl, ⟨e, rfl, hissues⟩, hleaves⟩)
  · rintro hsteady xs e ys asked now t after rfl ⟨u, hissues⟩ hys
    obtain ⟨hheld, hvalid⟩ := h.answer_eq_some_iff.mp rfl
    obtain rfl := Occurrence.eq_of_issues hissues hys hheld
    have hle : (Occurrence.login e).time ≤ (Occurrence.answer asked now (some t)).time :=
      (List.pairwise_append.mp (hordered hsteady)).2.2 _ (by simp) _ (by simp)
    rw [hissues.expiresAt_eq] at hvalid
    exact ⟨hle, hvalid⟩
  · rintro hsteady before sooner earlier between asked now token after rfl hb
    have hle : (Occurrence.answer sooner earlier none).time ≤
        (Occurrence.answer asked now token).time :=
      (List.pairwise_append.mp (hordered hsteady)).2.2 _ (by simp) _ (by simp)
    exact h.still_missing hle hb
  · rintro hkeyed before now after rfl
    obtain ⟨e, hlast, htime, hrejected⟩ := (htried hkeyed).fits
    rw [foldl_some_eq_getLast?] at hlast
    obtain ⟨xs, rfl⟩ := List.getLast?_eq_some_iff.mp hlast
    exact ⟨xs, e, rfl, htime, hrejected⟩

/-- Over every run of an authenticator that has just been set up, a token is answered within its
lifetime only, and never one that has been given up. -/
theorem Session.occurrences_lifetimeSpec (send : Transport σ) (moves : List (TokenMove σ))
    (now : Int) (apiKey : Option String) (baseUrl : String) (maxPages : UInt32) (link : σ) :
    LifetimeSpec (Steady moves) (Text.nonBlank? apiKey ≠ none)
      ((Session.start apiKey baseUrl maxPages link).occurrences send moves now) :=
  (occurrences_consistent send moves now (start apiKey baseUrl maxPages link)).lifetimeSpec
    (fun hsteady => (occurrences_ordered send moves now _ hsteady).2)
    (fun hkey => occurrences_tried send moves now _ hkey none)

end EpisodeGuide
