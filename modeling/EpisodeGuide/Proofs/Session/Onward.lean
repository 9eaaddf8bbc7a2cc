import EpisodeGuide.Proofs.Provider.Entry
import EpisodeGuide.Proofs.Session.Walk

/-! # When a walk goes on

A walk goes on behind a page when one of its raw entries is usable and its link leads on, however
many other entries were skipped. A page whose entries are all unusable ends the walk like an empty
one, whatever its link says. -/

namespace EpisodeGuide

open Http Provider

/-- Where the pages that were asked for end, with room for `limit` pages. -/
structure OnwardSpec (limit : ℕ) (es : List Exchange) : Prop where
  onward : ∀ n, n + 1 < limit → (n + 1 ∈ pagesAsked es ↔
    ∃ page, finalPage? n es = some page ∧ (∃ v ∈ page.entries, Usable v) ∧ page.hasNext = true)
  linked : ∀ n page url, n + 1 < limit → finalPage? n es = some page →
    page.next = some (.text url) → url ≠ "" →
    (n + 1 ∈ pagesAsked es ↔ ∃ v ∈ page.entries, Usable v)
  ended : ∀ n ∈ pagesAsked es, n + 1 ∉ pagesAsked es →
    n + 1 = limit ∨ finalPage? n es = none ∨
      ∃ page, finalPage? n es = some page ∧
        ((∀ v ∈ page.entries, ¬ Usable v) ∨ page.hasNext = false)

theorem onwardSpec_nil (limit : ℕ) : OnwardSpec limit [] where
  onward := by
    intro n _
    simp [finalPage?, pagesAsked]
  linked := by
    intro n page url _ hpage
    simp [finalPage?] at hpage
  ended := by
    intro n hn
    exact (notMem_pagesAsked_nil hn).elim

namespace WalkDerivation

variable {now : Int} {series endpoint : String} {limit : ℕ} {auth auth' : Authenticator}
  {es : List Exchange} {found : List Episode}

theorem onward_iff (h : WalkDerivation now series endpoint limit 0 auth es found auth') (n : ℕ)
    (hn : n + 1 < limit) :
    n + 1 ∈ pagesAsked es ↔ ∃ page, finalPage? n es = some page ∧
      (∃ v ∈ page.entries, Usable v) ∧ page.hasNext = true := by
  rw [h.continued_iff n (Nat.zero_le n) (by omega)]
  simp only [Page.usableEntries_ne_nil_iff]

theorem ended (h : WalkDerivation now series endpoint limit 0 auth es found auth') (n : ℕ)
    (hn : n ∈ pagesAsked es) (hlast : n + 1 ∉ pagesAsked es) :
    n + 1 = limit ∨ finalPage? n es = none ∨ ∃ page, finalPage? n es = some page ∧
      ((∀ v ∈ page.entries, ¬ Usable v) ∨ page.hasNext = false) := by
  have hbounds := h.bounds n hn
  by_cases hroom : n + 1 = limit
  · exact .inl hroom
  · rw [h.onward_iff n (by omega)] at hlast
    cases hfinal : finalPage? n es with
    | none => exact .inr (.inl rfl)
    | some page =>
        refine .inr (.inr ⟨page, rfl, ?_⟩)
        by_cases husable : ∃ v ∈ page.entries, Usable v
        · right
          rw [← Bool.not_eq_true]
          intro hnext
          exact hlast ⟨page, hfinal, husable, hnext⟩
        · left
          intro v hv hu
          exact husable ⟨v, hv, hu⟩

theorem onwardSpec (h : WalkDerivation now series endpoint limit 0 auth es found auth') :
    OnwardSpec limit es where
  onward := h.onward_iff
  linked := by
    intro n page url hn hpage hlink hne
    rw [h.onward_iff n hn]
    constructor
    · rintro ⟨page', hpage', husable, -⟩
      obtain rfl : page = page' := Option.some.inj (hpage.symm.trans hpage')
      exact husable
    · intro husable
      exact ⟨page, hpage, husable, Page.hasNext_of_text hlink hne⟩
  ended := h.ended

end WalkDerivation

/-- Every fetch of every client goes on as long as pages have usable entries and lead on. -/
theorem Session.fetch_onwardSpec {σ : Type} (send : Transport σ) (now : Int) (series : String)
    (s : Session σ) :
    OnwardSpec s.client.maxPages.toNat (s.fetchExchanges send now series) := by
  cases hurl : s.client.listingUrl series with
  | error e =>
      rw [(fetchExchanges_of_unusable send now series s e hurl).1]
      exact onwardSpec_nil _
  | ok endpoint => exact (fetchExchanges_derivation send now series endpoint s hurl).onwardSpec

/-- A client whose provider has two pages, the first one with nothing but an odd entry. -/
def Session.oddPage : Session Script :=
  let login := "\x7b\"status\":\"success\",\"data\":\x7b\"token\":\"tok\"\x7d\x7d"
  let page (entry next : String) := "\x7b\"data\":\x7b\"episodes\":[" ++ entry ++
    "]\x7d,\"links\":\x7b\"next\":" ++ next ++ "\x7d\x7d"
  let answers := [login, page "\"odd\"" "\"/p1\"",
    page "\x7b\"seasonNumber\":1,\"number\":1\x7d" "null"].map (Answer.reply ⟨200, ·⟩)
  Session.start (some "key") defaultBaseUrl 10 ⟨answers, []⟩

/-- The odd page ends the walk, although its link leads on and there is room. -/
theorem Session.fetch_oddPage_ends :
    ∃ page, finalPage? 0 (oddPage.fetchExchanges Script.send 0 "42") = some page ∧
      page.entries ≠ [] ∧ page.next = some (.text "/p1") ∧
      0 + 1 < oddPage.client.maxPages.toNat ∧
      0 + 1 ∉ pagesAsked (oddPage.fetchExchanges Script.send 0 "42") := by
  have hpage : finalPage? 0 (oddPage.fetchExchanges Script.send 0 "42") =
      some ⟨[.text "odd"], some (.text "/p1")⟩ := by cbv
  have hasked : pagesAsked (oddPage.fetchExchanges Script.send 0 "42") = [0] := by cbv
  exact ⟨_, hpage, by simp, rfl, by decide, by simp [hasked]⟩

end EpisodeGuide
