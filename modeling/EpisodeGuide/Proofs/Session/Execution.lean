import EpisodeGuide.Http.Script
import EpisodeGuide.Proofs.Session.Derivation

/-! # Derivations are runs

What the rules derive from the replies of a transport is what a session does over it: together
with a conversation, a derivation determines the run. -/

namespace EpisodeGuide

open Http Provider

variable {σ : Type} {send : Transport σ} {l m k : σ} {es xs ys : List Exchange} {e : Exchange}

/-! ### Conversations -/

theorem conversation_nil_iff : Conversation send l [] m ↔ m = l := by
  constructor
  · intro h
    generalize hes : ([] : List Exchange) = es at h
    cases h with
    | silent => rfl
    | snoc => simp at hes
  · rintro rfl
    exact .silent m

theorem conversation_concat_iff :
    Conversation send l (es ++ [e]) m ↔
      ∃ k, Conversation send l es k ∧ e.outcome = (send e.request k).1 ∧
        m = (send e.request k).2 := by
  constructor
  · intro h
    generalize hall : es ++ [e] = all at h
    cases h with
    | silent => simp at hall
    | snoc time request h =>
        obtain ⟨rfl, heq⟩ := List.append_inj' hall rfl
        obtain rfl := List.singleton_inj.mp heq
        exact ⟨_, h, rfl, rfl⟩
  · rintro ⟨k, h, houtcome, rfl⟩
    obtain ⟨time, request, outcome⟩ := e
    obtain rfl : outcome = (send request k).1 := houtcome
    exact h.snoc time request

theorem conversation_append_iff :
    Conversation send l (xs ++ ys) m ↔
      ∃ k, Conversation send l xs k ∧ Conversation send k ys m := by
  induction ys using List.reverseRecOn generalizing m with
  | nil =>
      rw [List.append_nil]
      exact ⟨fun h => ⟨m, h, .silent m⟩, fun ⟨k, h, hk⟩ => conversation_nil_iff.mp hk ▸ h⟩
  | append_singleton ys y ih =>
      rw [← List.append_assoc, conversation_concat_iff]
      simp only [conversation_concat_iff, ih]
      constructor
      · rintro ⟨j, ⟨k, hxs, hys⟩, hy⟩
        exact ⟨k, hxs, j, hys, hy⟩
      · rintro ⟨k, hxs, j, hys, hy⟩
        exact ⟨j, ⟨k, hxs, hys⟩, hy⟩

theorem conversation_cons_iff :
    Conversation send l (e :: es) m ↔
      e.outcome = (send e.request l).1 ∧ Conversation send (send e.request l).2 es m := by
  have hone (k : σ) : Conversation send l [e] k ↔
      e.outcome = (send e.request l).1 ∧ k = (send e.request l).2 := by
    have hconcat : Conversation send l ([] ++ [e]) k ↔ _ := conversation_concat_iff
    simpa [conversation_nil_iff] using hconcat
  rw [← List.singleton_append, conversation_append_iff]
  simp only [hone]
  constructor
  · rintro ⟨k, ⟨houtcome, rfl⟩, hes⟩
    exact ⟨houtcome, hes⟩
  · rintro ⟨houtcome, hes⟩
    exact ⟨_, ⟨houtcome, rfl⟩, hes⟩

/-- A recording hears the same conversation and keeps it. -/
theorem Conversation.recorded {now : Int} (h : Conversation send l es m)
    (htime : ∀ e ∈ es, e.time = now) (past : List Exchange) :
    Conversation (recording send now) ⟨l, past⟩ es ⟨m, past ++ es⟩ := by
  induction h with
  | silent =>
      rw [List.append_nil]
      exact .silent _
  | @snoc es m time request _ ih =>
      rw [List.forall_mem_append, List.forall_mem_singleton] at htime
      obtain ⟨htimes, rfl⟩ := htime
      have hnext := (ih htimes).snoc time request
      simpa [recording] using hnext

/-- A script answers with the next of its answers. -/
theorem Http.Script.send_eq (request : Request) (script : Script) :
    Script.send request script =
      ((script.answers.headD (.noReply "no scripted response left")).outcome request.url,
        ⟨script.answers.tail, script.sent ++ [request]⟩) := by
  obtain ⟨answers, sent⟩ := script
  cases answers <;> rfl

theorem Conversation.sent_eq {script script' : Script}
    (h : Conversation Script.send script es script') :
    script'.sent = script.sent ++ es.map Exchange.request := by
  induction h with
  | silent => simp
  | snoc time request _ ih => rw [Script.send_eq, ih, List.map_append, List.append_assoc]; rfl

/-- The exchanges of a fetch are a conversation over its link. -/
theorem Session.fetch_conversation (send : Transport σ) (now : Int) (series : String)
    (s : Session σ) : Conversation send s.link (s.fetchExchanges send now series)
      (s.fetch send now series).2.link :=
  (fetch_recorded send now series s).2.link.2

/-! ### Executions -/

/-- The session that a run leaves: the settings stay, the rest is new. -/
def Session.moved (s : Session σ) (auth : Authenticator) (link : σ) (log : List Event) :
    Session σ :=
  ⟨{ s.client with auth := auth }, link, log⟩

@[simp] theorem Session.moved_moved (s : Session σ) (auth auth' : Authenticator) (link link' : σ)
    (log log' : List Event) :
    (s.moved auth link log).moved auth' link' log' = s.moved auth' link' log' := rfl

section Execution

variable {now : Int} {series endpoint : String} {page room : ℕ} {auth' : Authenticator}
  {s : Session σ} {link : σ}

theorem TokenDerivation.execution {token : Option Token}
    (h : TokenDerivation now s.client.auth es token auth') (hc : Conversation send s.link es link) :
    ∃ log, s.getToken send now = (token, s.moved auth' link log) := by
  cases h with
  | held h =>
      obtain rfl := conversation_nil_iff.mp hc
      exact ⟨_, Session.getToken_of_held h⟩
  | keyless h hk =>
      obtain rfl := conversation_nil_iff.mp hc
      exact ⟨_, Session.getToken_of_no_key h hk⟩
  | @refused key outcome h hk ho =>
      obtain ⟨houtcome, hlink⟩ := conversation_cons_iff.mp hc
      obtain rfl := conversation_nil_iff.mp hlink
      cases hout : Authenticator.conclude now outcome with
      | error e =>
          rw [show outcome = _ from houtcome] at hout
          exact ⟨_, Session.getToken_of_failed h hk hout⟩
      | ok t => exact (ho ⟨t, (Exchange.issues_iff_conclude rfl).mpr hout⟩).elim
  | issued h hk ho =>
      obtain ⟨houtcome, hlink⟩ := conversation_cons_iff.mp hc
      obtain rfl := conversation_nil_iff.mp hlink
      rw [Exchange.issues_iff_conclude rfl, houtcome] at ho
      exact ⟨_, Session.getToken_of_accepted h hk ho⟩

theorem PageDerivation.execution {result : Except PageError Page}
    (h : PageDerivation now endpoint page s.client.auth es result auth')
    (hc : Conversation send s.link es link) :
    ∃ log, s.getPage send now endpoint page =
      (result, s.moved auth' link log) := by
  cases h with
  | noToken ht =>
      obtain ⟨log, htoken⟩ := ht.execution hc
      exact ⟨log, by simp [Session.getPage, htoken]⟩
  | asked outcome ht =>
      obtain ⟨l, hlogins, houtcome, rfl⟩ := conversation_concat_iff.mp hc
      obtain ⟨log, htoken⟩ := ht.execution hlogins
      refine ⟨log, ?_⟩
      rcases hsend : send (pageRequest endpoint _ page) l with ⟨answer, link⟩
      obtain rfl : outcome = answer := houtcome.trans (congrArg Prod.fst hsend)
      cases outcome <;> simp [Session.getPage, htoken, hsend, pageOf, Session.moved]

theorem RequestDerivation.execution {result : Except PageError Page}
    (h : RequestDerivation now endpoint page s.client.auth es result auth')
    (hc : Conversation send s.link es link) :
    ∃ log, s.requestPage send now endpoint page =
      (result, s.moved auth' link log) := by
  cases h with
  | once hp hr =>
      obtain ⟨log, hfirst⟩ := hp.execution hc
      exact ⟨log, Session.requestPage_of_ne hfirst hr⟩
  | renewed hp hp' hr =>
      obtain ⟨l, hes, hes'⟩ := conversation_append_iff.mp hc
      obtain ⟨log, hfirst⟩ := hp.execution hes
      obtain ⟨log', hsecond⟩ := PageDerivation.execution
        (s := ((s.moved _ l log).note (.tokenRejected page)).invalidate) hp' hes'
      exact ⟨log', Session.requestPage_of_renewed hfirst hsecond hr⟩
  | rejected hp hp' =>
      obtain ⟨l, hes, hes'⟩ := conversation_append_iff.mp hc
      obtain ⟨log, hfirst⟩ := hp.execution hes
      obtain ⟨log', hsecond⟩ := PageDerivation.execution
        (s := ((s.moved _ l log).note (.tokenRejected page)).invalidate) hp' hes'
      exact ⟨log', Session.requestPage_of_rejected hfirst hsecond⟩

theorem WalkDerivation.execution {found : List Episode}
    (h : WalkDerivation now series endpoint room page s.client.auth es found auth')
    (hc : Conversation send s.link es link) :
    ∃ log, s.walk send now series endpoint room page = (found, s.moved auth' link log) := by
  generalize hauth : s.client.auth = auth at h
  induction h generalizing s with
  | limit page =>
      subst hauth
      obtain rfl := conversation_nil_iff.mp hc
      exact ⟨_, rfl⟩
  | @stopped _ _ _ _ e _ hp =>
      subst hauth
      obtain ⟨log, hpage⟩ := hp.execution hc
      exact ⟨_, Session.walk_of_error hpage⟩
  | @last _ _ _ _ body _ hp hend =>
      subst hauth
      obtain ⟨log, hpage⟩ := hp.execution hc
      exact ⟨log, Session.walk_of_last hpage hend⟩
  | @next _ _ _ _ _ body _ auth' _ hp hne hnext _ ih =>
      subst hauth
      obtain ⟨l, hes, hes'⟩ := conversation_append_iff.mp hc
      obtain ⟨log, hpage⟩ := hp.execution hes
      obtain ⟨log', hrest⟩ := ih (s := s.moved auth' l log) hes' rfl
      exact ⟨log', by rw [Session.walk_of_next hpage hne hnext, hrest, Session.moved_moved]⟩

/-- A fetch is the walk that the rules derive from the replies. -/
theorem Session.fetch_execution {found : List Episode}
    (hurl : s.client.listingUrl series = .ok endpoint)
    (h : WalkDerivation now series endpoint s.client.maxPages.toNat 0 s.client.auth es found auth')
    (hc : Conversation send s.link es link) :
    ∃ log, s.fetch send now series = (found, s.moved auth' link log) := by
  obtain ⟨log, hwalk⟩ := h.execution hc
  simp only [fetch, hurl, hwalk]
  split
  · next hempty => exact ⟨log, by rw [List.isEmpty_iff.mp hempty]⟩
  · exact ⟨_, rfl⟩

theorem Session.fetchExchanges_execution {found : List Episode}
    (hurl : s.client.listingUrl series = .ok endpoint)
    (h : WalkDerivation now series endpoint s.client.maxPages.toNat 0 s.client.auth es found auth')
    (hc : Conversation send s.link es link) (htime : ∀ e ∈ es, e.time = now) :
    s.fetchExchanges send now series = es := by
  obtain ⟨log, hfetch⟩ := fetch_execution (s := s.recorded) hurl h (hc.recorded htime [])
  rw [fetchExchanges, hfetch]
  rfl

end Execution

end EpisodeGuide
