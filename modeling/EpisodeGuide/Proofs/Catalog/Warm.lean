import EpisodeGuide.Proofs.Catalog.Lookup

/-! # Answers from a warm cache

A list that was fetched and kept is served from the cache for one day, without a request. It comes
in order, so it is the same list exactly when it was fetched in order. -/

namespace EpisodeGuide

open Http

theorem Episode.sorted_eq_self_iff (es : List Episode) :
    sorted es = es ↔ es.Pairwise Precedes := by
  constructor
  · intro h
    rw [← h]
    exact (sorted_stablySorted es).ordered
  · intro h
    exact List.mergeSort_of_pairwise (h.imp decide_eq_true)

/-- Two lookups, the second one from the cache that the first one has left. The second answer is
the first one in order, where episodes with the same season and number stay as they are, and
nothing but the log changes. -/
structure WarmSpec {σ : Type} (send : Transport σ) (clock : Int) (series : String)
    (fetched : List Episode) (first : Option (List Episode) × Catalog (Session σ)) : Prop where
  cold : first.1 = some fetched
  warm : ∀ now clock', clock' ≤ clock + 86400 →
    first.2.get (Session.source send now) clock' series false =
      (some (Episode.sorted fetched),
        { first.2 with log := first.2.log ++ [.cacheHit series fetched.length] })
  stable : Episode.StablySorted fetched (Episode.sorted fetched)
  same : some (Episode.sorted fetched) = first.1 ↔ fetched.Pairwise Episode.Precedes

/-- A list that was fetched and kept is served in order for one day. -/
theorem Catalog.get_warmSpec {σ : Type} (send : Transport σ) (now clock : Int) (series : String)
    (refresh : Bool) (c : Catalog (Session σ)) (hb : Text.isBlank series = false)
    (hasks : c.Asks clock series refresh) (hne : c.asked (Session.source send now) series ≠ [])
    (hok : (c.cache.write clock series (c.asked (Session.source send now) series)).1 = .ok ()) :
    WarmSpec send clock series (c.asked (Session.source send now) series)
      (c.get (Session.source send now) clock series refresh) := by
  have hcold : c.get (Session.source send now) clock series refresh = _ := get_of_asks hb hasks
  refine ⟨by rw [hcold], fun now' clock' hage => ?_, Episode.sorted_stablySorted _, ?_⟩
  · have hread : (c.get (Session.source send now) clock series refresh).2.cache.read clock' series =
        .hit (Episode.sorted (c.asked (Session.source send now) series)) := by
      rw [hcold]
      simp only [kept, if_neg hne]
      rw [Database.read_written hok hne hage, asked_under]
    rw [get_of_hit hb hread, Episode.sorted, List.length_mergeSort]
  · rw [hcold, Option.some_inj]
    exact Episode.sorted_eq_self_iff _

namespace Catalog

/-- A catalog whose provider lists the second episode first. -/
def reversedPage : Catalog (Session Script) :=
  let page : Answer := .reply ⟨200, "\x7b\"data\":\x7b\"episodes\":[" ++
    "\x7b\"seasonNumber\":1,\"number\":2\x7d,\x7b\"seasonNumber\":1,\"number\":1\x7d]\x7d," ++
    "\"links\":\x7b\"next\":null\x7d\x7d"⟩
  ⟨(Session.start (some "key") defaultBaseUrl defaultMaxPages ⟨[page], []⟩).setToken
      (some ⟨"tok", 86400⟩), ⟨some [], []⟩, []⟩

theorem reversedPage_asked :
    reversedPage.asked (Session.source Script.send 0) "42" =
      [⟨"42", 1, 2, "", ""⟩, ⟨"42", 1, 1, "", ""⟩] := by cbv

/-- Two episodes out of order. -/
theorem get_warmSpec_reversedPage :
    reversedPage.Asks 0 "42" false ∧
      WarmSpec Script.send 0 "42" [⟨"42", 1, 2, "", ""⟩, ⟨"42", 1, 1, "", ""⟩]
        (reversedPage.get (Session.source Script.send 0) 0 "42" false) := by
  have hasks : reversedPage.Asks 0 "42" false := .inr fun episodes h => by
    have habsent : reversedPage.cache.read 0 "42" = .absent := by decide +kernel
    simp [habsent] at h
  have hspec := get_warmSpec Script.send 0 0 "42" false reversedPage (by decide +kernel) hasks
  rw [reversedPage_asked] at hspec
  exact ⟨hasks, hspec (by simp) (by decide +kernel)⟩

/-- The warm answer is not the cold one. -/
theorem get_reversedPage_differs :
    (reversedPage.get (Session.source Script.send 0) 0 "42" false).1 =
        some [⟨"42", 1, 2, "", ""⟩, ⟨"42", 1, 1, "", ""⟩] ∧
      ((reversedPage.get (Session.source Script.send 0) 0 "42" false).2.get
        (Session.source Script.send 0) 0 "42" false).1 =
        some [⟨"42", 1, 1, "", ""⟩, ⟨"42", 1, 2, "", ""⟩] :=
  ⟨by cbv, by cbv⟩

end Catalog

end EpisodeGuide
