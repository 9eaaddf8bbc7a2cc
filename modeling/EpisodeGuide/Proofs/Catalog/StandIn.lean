import EpisodeGuide.Catalog.Open
import EpisodeGuide.Proofs.Exchange.Ledger
import EpisodeGuide.Proofs.Exchange.Wire

/-! # A script stands in for a server

A catalog over a script goes like the catalog over a server on this machine that has the same
replies, as long as there is a reply for every request and no URL is too long to be sent. The server
can read every request off what arrives. -/

namespace EpisodeGuide

open Http Url

/-! ### Base URLs of the server -/

/-- A text that continues the origin of the server like a path, without query and fragment. -/
def Rooted (port : UInt16) (text : String) : Prop :=
  ∃ rest : String, text = loopback port ++ rest ∧ StartsPath rest.toList ∧
    '?' ∉ rest.toList ∧ '#' ∉ rest.toList

namespace Rooted

variable {port : UInt16} {text : String}

theorem onLoopback (h : Rooted port text) :
    ∃ u path, ofText text = .ok u ∧ OnLoopback port path u := by
  obtain ⟨rest, rfl, hstart, hfree⟩ := h
  exact exists_onLoopback port hstart hfree

theorem login (h : Rooted port text) : Rooted port (text ++ "/login") := by
  obtain ⟨rest, rfl, hstart, hquery, hfragment⟩ := h
  refine ⟨rest ++ "/login", String.append_assoc, ?_, ?_, ?_⟩
  · intro c hc
    rw [String.toList_append] at hc
    cases hrest : rest.toList with
    | nil =>
        rw [hrest, List.nil_append] at hc
        exact .inl (Option.some.inj hc).symm
    | cons d r =>
        rw [hrest] at hc
        exact hstart c (by rwa [hrest])
  · simpa using hquery
  · simpa using hfragment

theorem dropTrailing (h : Rooted port text) : Rooted port (Text.dropTrailing '/' text) := by
  obtain ⟨rest, rfl, hstart, hquery, hfragment⟩ := h
  have hlast : (loopback port).toList.reverse.dropWhile (· == '/') =
      (loopback port).toList.reverse := by
    obtain ⟨server, c, hserver⟩ :=
      List.eq_nil_or_concat' (loopbackServer port).print |>.resolve_left
        (by simp [Authority.print_eq, (loopbackServer_normal port).host.ne_nil])
    have hslash : c ≠ '/' := fun h => ((loopbackServer_normal port).chars c (by simp [hserver])).2
      (by simp [h])
    simp [toList_loopback, hserver, hslash]
  have hfront : (rest.toList.reverse.dropWhile (· == '/')).reverse <+: rest.toList := by
    simpa using List.reverse_prefix.mpr
      (List.dropWhile_suffix (l := rest.toList.reverse) (· == '/'))
  have hrest : (Text.dropTrailing '/' rest).toList =
      (rest.toList.reverse.dropWhile (· == '/')).reverse := String.toList_ofList
  refine ⟨Text.dropTrailing '/' rest, ?_, ?_, ?_, ?_⟩
  · refine String.toList_inj.mp ?_
    rw [Text.dropTrailing, String.toList_ofList, String.toList_append, String.toList_append, hrest,
      List.reverse_append, List.dropWhile_append, hlast]
    split
    · next hempty => simp [List.isEmpty_iff.mp hempty]
    · simp
  · rw [hrest]
    obtain ⟨tail, htail⟩ := hfront
    intro c hc
    refine hstart c ?_
    rw [← htail, List.head?_append, hc]
    rfl
  · rw [hrest]
    exact fun h => hquery (hfront.subset h)
  · rw [hrest]
    exact fun h => hfragment (hfront.subset h)

end Rooted

/-! ### Servers with replies -/

/-- A server as a link: further replies are put behind those still to come. -/
def Http.Peer.channel : Channel Peer Reply :=
  ⟨Peer.send, fun replies => Peer.enqueue (replies.map Reply.wire)⟩

/-- A request that a reply is left for, with no status that asks for another request. Tokens
that are issued are visible, and the URL is short enough to be sent. -/
structure Served (u : Request × Option Reply) : Prop where
  answered : ∃ reply, u.2 = some reply ∧
    (reply.status = 200 ∨ 400 ≤ reply.status ∧ reply.status < 600)
  visible : u.1.method = .post → ∀ reply ∈ u.2, ∀ token, reply.Issues token → VisibleText token
  short : ∀ v, ofText u.1.url = .ok v → (v.withPairs u.1.pairs).print.length < urlLimit

/-- One client at work over a ledger of replies and over the server. -/
structure AtServer (port : UInt16) (c₁ : Client) (l : Ledger Reply) (c₂ : Client) (p : Peer) :
    Prop where
  client : c₁ = c₂
  base : Rooted port c₁.baseUrl
  login : Rooted port c₁.auth.loginUrl
  token : ∀ t ∈ c₁.auth.token, VisibleText t.value
  origin : p.origin = loopback port
  listening : p.listening = true
  replies : p.replies = l.waiting.map Reply.wire
  received : List.Forall₂ (Carries (loopback port)) (l.used.map Prod.fst) p.received

namespace AtServer

variable {port : UInt16} {c₁ c₂ : Client} {l : Ledger Reply} {p : Peer} {r : Request}

theorem withToken (h : AtServer port c₁ l c₂ p) {token : Option Token}
    (ht : ∀ t ∈ token, VisibleText t.value) :
    AtServer port (c₁.withToken token) l (c₂.withToken token) p :=
  { h with client := congrArg (Client.withToken token) h.client, token := ht }

/-- A request for a URL on the site gets the same reply over both links. -/
theorem send (h : AtServer port c₁ l c₂ p) (hserved : Served (r, l.waiting.head?))
    (hsite : ∃ u path, ofText r.url = .ok u ∧ OnLoopback port path u)
    (hbearer : ∀ credential ∈ r.bearer, VisibleText credential)
    (hbody : ∀ value ∈ r.body, Json.Value.ofText? value.compactText = some value) :
    (l.send Answer.reply r).1 = (Peer.send r p).1 ∧
      AtServer port c₁ (l.send Answer.reply r).2 c₂ (Peer.send r p).2 := by
  obtain ⟨u, path, hu, hon⟩ := hsite
  obtain ⟨reply, hhead, -⟩ := hserved.answered
  obtain ⟨rest, hwaiting⟩ : ∃ rest, l.waiting = reply :: rest := List.head?_eq_some_iff.mp hhead
  have hready : Ready port r := ⟨⟨u, path, hu, hon, hserved.short u hu⟩, hbearer, hbody⟩
  obtain ⟨w, hcarries, hsend⟩ := hready.send h.origin h.listening
    (h.replies.trans (by rw [hwaiting, List.map_cons]))
  rw [hsend]
  refine ⟨?_, { h with replies := ?_, received := ?_ }⟩
  · simp [Ledger.send, hwaiting, Answer.outcome]
  · simp [Ledger.send, hwaiting]
  · simp only [Ledger.send, List.map_append]
    exact List.rel_append h.received (.cons hcarries .nil)

end AtServer

/-- Over a ledger of replies a client goes on as it does over the server. -/
theorem lockstep_server (port : UInt16) :
    Lockstep (Ledger.channel Answer.reply) Peer.channel (fun l => ∀ u ∈ l.used, Served u)
      (fun endpoint => ∃ u path, ofText endpoint = .ok u ∧ OnLoopback port path u)
      (AtServer port) where
  sound := Ledger.inherited_used Answer.reply _
  baseUrl := fun h => by rw [h.client]
  maxPages := fun h => by rw [h.client]
  listing := by
    intro c₁ l c₂ p series endpoint h hurl
    obtain ⟨base, path, hbase, hon⟩ := h.base.onLoopback
    obtain ⟨address, haddress, v, hv, -, hbelow⟩ :=
      Client.listingUrl_leadsBelow hbase hon.normal.kind series
    obtain rfl : address = endpoint := Except.ok.inj (haddress.symm.trans hurl)
    exact ⟨v, (hon.of_below hbelow hv).imp fun _ hsite => ⟨hv, hsite⟩⟩
  valid := fun now h => by rw [h.client]
  forget := fun h => h.withToken (by simp)
  login := by
    intro c l _ p now h hsound
    obtain rfl := h.client
    cases hkey : c.auth.apiKey with
    | none =>
        rw [Authenticator.login_of_no_key hkey, Authenticator.login_of_no_key hkey]
        exact .failed _ h
    | some key =>
        rw [Authenticator.login_of_key hkey] at hsound ⊢
        rw [Authenticator.login_of_key hkey]
        have hserved : Served (c.auth.loginRequest key, l.waiting.head?) :=
          hsound _ (List.mem_append_right _ (List.mem_singleton_self _))
        obtain ⟨hout, hsent⟩ := h.send hserved h.login.onLoopback
          (by simp [Authenticator.loginRequest, Request.postJson])
          (fun value hvalue => by
            obtain rfl := Option.some.inj hvalue
            exact Json.Value.ofText?_loginBody key)
        change LoginsAlike _ c c (Authenticator.conclude now (l.send Answer.reply _).1, _)
          (Authenticator.conclude now (Peer.send _ p).1, _)
        rw [← hout]
        refine .of_same hsent fun t ht => hsent.withToken ?_
        obtain ⟨reply, hhead, -⟩ := hserved.answered
        have hissues : reply.Issues t.value := by
          rw [Ledger.send, show l.waiting.head? = some reply from hhead] at ht
          exact ((Authenticator.accept_eq_ok_iff now reply t).mp ht).1
        rintro _ ⟨⟩
        exact hserved.visible rfl reply hhead t.value hissues
  page := by
    intro c l _ p endpoint t₁ t₂ page h hsite h₁ h₂ hsound
    obtain rfl := h.client
    obtain rfl : t₁ = t₂ := Option.some.inj (h₁.symm.trans h₂)
    have hserved : Served (pageRequest endpoint t₁ page, l.waiting.head?) :=
      hsound _ (List.mem_append_right _ (List.mem_singleton_self _))
    have hbody : (pageRequest endpoint t₁ page).body = none := rfl
    refine h.send hserved hsite ?_ (by simp [hbody])
    rintro _ ⟨⟩
    exact h.token t₁ h₁
  soundDelivery := fun _ _ h => h
  delivery := fun items h _ =>
    { h with replies := by simp [Peer.channel, Ledger.channel, Peer.enqueue, h.replies] }

/-! ### Runs -/

/-- One client at work over a script and over the server: the same replies are still to come, and
the server can read the requests that the script has seen off those that arrived. -/
structure StandsIn (port : UInt16) (c₁ : Client) (script : Script) (c₂ : Client)
    (p : Peer) : Prop where
  client : c₁ = c₂
  replies : ∃ replies : List Reply, script.answers = replies.map .reply ∧
    p.replies = replies.map Reply.wire
  requests : List.Forall₂ (Carries (loopback port)) script.sent p.received

namespace Library

variable {port : UInt16} {config : Config} {surroundings : Surroundings} {disk disk' : Disk}
  {library : Library (Session Peer)}

/-- The catalog that settings describe, over another link and with nothing done yet. -/
def rehearsal {σ : Type} (config : Config) (db : Database) (link : σ) : Catalog (Session σ) :=
  .start config.usableKey config.baseUrl config.maxPages db link

theorem rehearsal_eq {σ : Type} (config : Config) (db : Database) (link : σ) :
    rehearsal config db link = ⟨⟨config.client, link, []⟩, db, []⟩ := rfl

/-- The catalog over the server goes like the one over a script of the same replies, step by step:
in what it answers, in its client and its token, in its cache and its events, in the replies that it
takes and in the requests that it sends. -/
theorem trace_standsIn (hroot : Rooted port config.baseUrl)
    (hopen : Library.ofConfig config surroundings disk ⟨loopback port, true, [], []⟩ =
      (.ok library, disk'))
    (steps : List (CatalogStep Reply)) (clock : Int)
    (hserved : ∀ u ∈ ((rehearsal config library.catalog.cache (⟨[], []⟩ : Ledger Reply)).leave
      (Ledger.channel Answer.reply) steps clock).source.link.used, Served u) :
    List.Forall₂ (Catalog.Alike (StandsIn port))
      ((rehearsal config library.catalog.cache ⟨[], []⟩).trace
        (Script.channel Answer.reply) steps clock)
      (library.catalog.trace Peer.channel steps clock) := by
  have hlibrary : library.catalog =
      rehearsal config library.catalog.cache ⟨loopback port, true, [], []⟩ := by
    rw [rehearsal_eq]
    rcases hcache : config.openCache surroundings disk with ⟨_ | cache, after⟩
    · simp [ofConfig, hcache] at hopen
    · simp only [ofConfig, hcache, Prod.mk.injEq, Except.ok.injEq] at hopen
      rw [← hopen.1]
      rfl
  have hscript : Catalog.Corresponds
      (Session.SameClient fun (l : Ledger Reply) script => script = l.script Answer.reply)
      (rehearsal config library.catalog.cache ⟨[], []⟩)
      (rehearsal config library.catalog.cache ⟨[], []⟩) := ⟨rfl, rfl, rfl, rfl⟩
  have hserver : Catalog.Corresponds (AtServer port)
      (rehearsal config library.catalog.cache ⟨[], []⟩)
      (rehearsal config library.catalog.cache ⟨loopback port, true, [], []⟩) :=
    ⟨rfl, rfl, rfl, hroot.dropTrailing, hroot.dropTrailing.login,
      fun t ht => absurd ht (Option.not_mem_none t), rfl, rfl, rfl, .nil⟩
  rw [hlibrary]
  refine Catalog.forall₂_alike ?_
    ((Ledger.lockstep_script Answer.reply).trace steps clock hscript trivial)
    ((lockstep_server port).trace steps clock hserver hserved)
  rintro c l _ _ c₂ p ⟨rfl, rfl⟩ h
  exact ⟨h.client, ⟨l.waiting, rfl, h.replies⟩, h.received⟩

/-! ### A short run -/

theorem ofConfig_memory {σ : Type} {config : Config} (h : config.databasePath = some ":memory:")
    (surroundings : Surroundings) (disk : Disk) (link : σ) :
    ofConfig config surroundings disk link =
      (.ok ⟨.inMemory, disk, ⟨config.client, link, []⟩, []⟩, disk) := by
  have hopen : Cache.openAt ":memory:" disk = (.ok .inMemory, disk) := by cbv
  simp [ofConfig, Config.openCache, h, hopen, Except.mapError]

/-- A key with spaces around it, and a base that ends in a slash. -/
def visitor : Config :=
  ⟨some " key ", "http://127.0.0.1:40961/v4/", some ":memory:", 5, 30⟩

def acceptance : Reply :=
  ⟨200, "\x7b\"status\":\"success\",\"data\":\x7b\"token\":\"t\"\x7d\x7d"⟩

def onlyPage : Reply :=
  ⟨200, "\x7b\"data\":\x7b\"episodes\":[\x7b\"seasonNumber\":1,\"number\":1\x7d]\x7d\x7d"⟩

def visit : List (CatalogStep Reply) :=
  [.deliver [acceptance, onlyPage], .move (.get "42" false)]

theorem served_visit : ∀ u ∈
    ((rehearsal visitor Database.empty.prepare (⟨[], []⟩ : Ledger Reply)).leave
      (Ledger.channel Answer.reply) visit 0).source.link.used, Served u := by
  have hused : ((rehearsal visitor Database.empty.prepare (⟨[], []⟩ : Ledger Reply)).leave
      (Ledger.channel Answer.reply) visit 0).source.link.used =
        [(.postJson "http://127.0.0.1:40961/v4/login" (.object [("apikey", .text "key")]),
            some acceptance),
          (pageRequest "http://127.0.0.1:40961/v4/series/42/episodes/default" ⟨"t", 86400⟩ 0,
            some onlyPage)] := by
    set_option maxRecDepth 4000 in cbv
  have hpayload : Provider.LoginReply.ofText? acceptance.body =
      some ⟨some "success", some "t", none⟩ := by decide +kernel
  have hlogin : (ofText "http://127.0.0.1:40961/v4/login").map (fun v => v.print.length) =
      .ok 31 := by
    set_option maxRecDepth 4000 in cbv
  have hpage : (ofText "http://127.0.0.1:40961/v4/series/42/episodes/default").map
      (fun v => (v.withPairs [("page".toList, "0".toList)]).print.length) = .ok 59 := by
    set_option maxRecDepth 4000 in cbv
  rw [hused, List.forall_mem_cons, List.forall_mem_singleton]
  refine ⟨⟨⟨acceptance, rfl, .inl rfl⟩, ?_, ?_⟩,
    ⟨⟨onlyPage, rfl, .inl rfl⟩, fun hpost => absurd (hpost : Method.get = .post) (by decide), ?_⟩⟩
  · rintro - _ ⟨⟩ token ⟨-, -, payload, hread, -, htoken⟩
    obtain rfl := Option.some.inj (hpayload.symm.trans hread)
    obtain rfl : "t" = token := Option.some.inj htoken
    simp [VisibleText]
  · intro v hv
    rw [show ofText "http://127.0.0.1:40961/v4/login" = _ from hv] at hlogin
    have hlength : v.print.length = 31 := Except.ok.inj hlogin
    exact hlength.trans_lt (by decide)
  · intro v hv
    rw [show ofText "http://127.0.0.1:40961/v4/series/42/episodes/default" = _ from hv] at hpage
    have hlength : (v.withPairs [("page".toList, "0".toList)]).print.length = 59 :=
      Except.ok.inj hpage
    exact hlength.trans_lt (by decide)

theorem trace_standsIn_visit :
    let surroundings : Surroundings := ⟨none, none, none, none⟩
    let disk : Disk := Files.Tree.ofWorkingDirectory ["home"]
    let peer : Peer := ⟨loopback 40961, true, [], []⟩
    let library : Library (Session Peer) := ⟨.inMemory, disk, ⟨visitor.client, peer, []⟩, []⟩
    Rooted 40961 visitor.baseUrl ∧ ofConfig visitor surroundings disk peer = (.ok library, disk) ∧
      (∀ u ∈ ((rehearsal visitor library.catalog.cache (⟨[], []⟩ : Ledger Reply)).leave
        (Ledger.channel Answer.reply) visit 0).source.link.used, Served u) ∧
      List.Forall₂ (Catalog.Alike (StandsIn 40961))
        ((rehearsal visitor library.catalog.cache ⟨[], []⟩).trace
          (Script.channel Answer.reply) visit 0)
        (library.catalog.trace Peer.channel visit 0) := by
  intro surroundings disk peer library
  have hroot : Rooted 40961 visitor.baseUrl :=
    ⟨"/v4/", by decide +kernel, by simp [StartsPath], by simp, by simp⟩
  have hopen : ofConfig visitor surroundings disk peer = (.ok library, disk) :=
    ofConfig_memory rfl surroundings disk peer
  exact ⟨hroot, hopen, served_visit, trace_standsIn hroot hopen visit 0 served_visit⟩

/-! ### A base that is too long -/

theorem normalSegment_replicate (n : ℕ) : NormalSegment (List.replicate n 'a') := by
  have hchar {c : Char} (hc : c ∈ List.replicate n 'a') : c = 'a' := List.eq_of_mem_replicate hc
  have hdots : plainDots (List.replicate n 'a') = List.replicate n 'a' := by
    induction n with
    | zero => rfl
    | succ n ih => rw [List.replicate_succ, plainDots, ih] <;> simp
  have hfree (s : List Char) (hs : '.' ∈ s) : (List.replicate n 'a' == s) = false := by
    refine beq_false_of_ne ?_
    rintro rfl
    cases hchar hs
  refine ⟨fun c hc => ?_, fun c hc => ?_, ?_, ?_⟩
  · rw [hchar hc]
    exact ⟨by decide, by cbv⟩
  · rw [hchar hc]
    decide
  · rw [isSingleDot, hdots, hfree _ (by simp)]
  · rw [isDoubleDot, hdots, hfree _ (by simp)]

/-- The address of logins below a segment of any length. -/
theorem onLoopback_replicate (port : UInt16) (n : ℕ) : ∃ u path,
    ofText (loopback port ++ String.ofList ('/' :: (List.replicate n 'a' ++ "/login".toList))) =
      .ok u ∧ OnLoopback port path u ∧ n ≤ u.print.length := by
  let path : List Segment := [List.replicate n 'a', login]
  let u : Url := ⟨"http".toList, .hierarchical (some (loopbackAuthority port)) path, none, none⟩
  obtain ⟨_, _, _, horigin⟩ := exists_onLoopback_origin port
  have hlogin : NormalSegment login := by
    have hsegments := Path.ofText_login (.special (some 80))
    exact Path.normal_ofText login login (hsegments ▸ List.mem_singleton_self login)
  have hu : OnLoopback port path u := {
    scheme := rfl
    query := rfl
    fragment := rfl
    normal := {
      kind := rfl
      location := rfl
      authority := horigin.normal.authority
      path_ne_nil := List.cons_ne_nil _ _
      segments := List.forall_mem_cons.mpr
        ⟨normalSegment_replicate n, List.forall_mem_singleton.mpr hlogin⟩
      query := fun q hq => absurd hq (Option.not_mem_none q)
      fragment := fun f hf => absurd hf (Option.not_mem_none f) } }
  have hprint : Path.print path = '/' :: (List.replicate n 'a' ++ "/login".toList) := by
    simp [path, Path.print, login]
  have htarget : targetOf (u.withPairs []) =
      String.ofList ('/' :: (List.replicate n 'a' ++ "/login".toList)) := by
    rw [← hprint]
    simp [targetOf, Url.withPairs, u, path, printOptional]
  have hread := hu.ofText_target []
  rw [htarget] at hread
  refine ⟨u, path, hread, hu, ?_⟩
  calc n ≤ (Path.print path).length := by rw [hprint]; simp; omega
    _ ≤ u.print.length := by
        simp only [print, Location.print, u, List.length_append, List.length_cons]; omega

end Library

/-- A fetch without a token ends where its login fails. -/
theorem Session.fetch_of_failed_login {σ : Type} {send : Transport σ} {now : Int}
    {series endpoint : String} {s : Session σ} {e : LoginError} {link : σ}
    (hheld : s.currentToken now = none)
    (hlogin : s.client.auth.login send now s.link = (.error e, link))
    (hurl : s.client.listingUrl series = .ok endpoint) (hpages : s.client.maxPages.toNat ≠ 0) :
    (s.fetch send now series).2.link = link := by
  obtain ⟨m, htoken, hm⟩ : ∃ m : Session σ, s.getToken send now = (none, m) ∧ m.link = link := by
    cases e <;> exact ⟨_, by rw [getToken, hheld, hlogin], rfl⟩
  have hpage : s.requestPage send now endpoint 0 = (.error .noToken, m) :=
    requestPage_of_ne (by rw [getPage, htoken]) (by simp)
  obtain ⟨room, hroom⟩ := Nat.exists_eq_succ_of_ne_zero hpages
  simp [fetch, hurl, hroom, walk_of_error hpage, note, hm]

namespace Library

def distant (n : ℕ) : Config :=
  ⟨some "key", loopback 40961 ++ String.ofList ('/' :: List.replicate n 'a'),
    some ":memory:", 1, 30⟩

def refusal : List (CatalogStep Reply) :=
  [.deliver [⟨500, ""⟩], .move (.get "42" true)]

variable {n : ℕ} {db : Database}

theorem rooted_distant (n : ℕ) : Rooted 40961 (distant n).baseUrl :=
  ⟨_, rfl, by simp [StartsPath], by simp, by simp⟩

theorem loginUrl_distant (hn : n ≠ 0) : (distant n).client.auth.loginUrl =
    loopback 40961 ++ String.ofList ('/' :: (List.replicate n 'a' ++ "/login".toList)) := by
  obtain ⟨m, rfl⟩ := Nat.exists_eq_succ_of_ne_zero hn
  change Text.dropTrailing '/'
      (loopback 40961 ++ String.ofList ('/' :: List.replicate (m + 1) 'a')) ++ "/login" = _
  refine String.toList_inj.mp ?_
  simp [Text.dropTrailing, List.replicate_succ']

theorem link_refusal {σ : Type} (channel : Channel σ Reply) {c : Catalog (Session σ)}
    {supplied after : σ} {endpoint : String} {e : LoginError}
    (htoken : c.source.client.auth.token = none)
    (hurl : c.source.client.listingUrl "42" = .ok endpoint)
    (hpages : c.source.client.maxPages.toNat ≠ 0)
    (hsupplied : channel.deliver [⟨500, ""⟩] c.source.link = supplied)
    (hlogin : c.source.client.auth.login channel.send 0 supplied = (.error e, after)) :
    (c.leave channel refusal 0).source.link = after := by
  subst hsupplied
  have hb : Text.isBlank "42" = false := by decide +kernel
  have hheld : (c.supply (channel.deliver [⟨500, ""⟩])).source.currentToken 0 = none := by
    simp [Session.currentToken, Authenticator.currentToken, Catalog.supply, htoken]
  simp only [refusal, Catalog.leave, Catalog.make, Catalog.get_of_asks hb (.inl rfl)]
  exact Session.fetch_of_failed_login
    (s := { (c.supply (channel.deliver [⟨500, ""⟩])).source with log := [] })
    hheld hlogin hurl hpages

/-- The login takes the refusal from a ledger, and nothing else is asked for. -/
theorem used_refusal {client : Client} {key endpoint : String} (htoken : client.auth.token = none)
    (hkey : client.auth.apiKey = some key) (hurl : client.listingUrl "42" = .ok endpoint)
    (hpages : client.maxPages.toNat ≠ 0) (db : Database) :
    (Catalog.leave (Ledger.channel Answer.reply) refusal 0
      ⟨⟨client, ⟨[], []⟩, []⟩, db, []⟩).source.link.used =
        [(client.auth.loginRequest key, some ⟨500, ""⟩)] := by
  have hlogin : client.auth.login (Ledger.send Answer.reply) 0 ⟨[⟨500, ""⟩], []⟩ =
      (.error (.status 500), ⟨[], [(client.auth.loginRequest key, some ⟨500, ""⟩)]⟩) := by
    rw [Authenticator.login_of_key hkey]
    generalize client.auth.loginRequest key = request
    rfl
  have hledger := link_refusal (c := ⟨⟨client, ⟨[], []⟩, []⟩, db, []⟩)
    (Ledger.channel Answer.reply) htoken hurl hpages rfl hlogin
  exact congrArg Ledger.used hledger

/-- The script has the refusal taken, but a server that the login does not reach does not see it. -/
theorem not_standsIn_of_unsent {port : UInt16} {client : Client} {key endpoint : String}
    {fault : TransportError} (htoken : client.auth.token = none)
    (hkey : client.auth.apiKey = some key)
    (hurl : client.listingUrl "42" = .ok endpoint) (hpages : client.maxPages.toNat ≠ 0)
    (hsend : ∀ p, Peer.send (client.auth.loginRequest key) p = (.error fault, p)) (db : Database) :
    ¬ List.Forall₂ (Catalog.Alike (StandsIn port))
      (Catalog.trace (Script.channel Answer.reply) refusal 0 ⟨⟨client, ⟨[], []⟩, []⟩, db, []⟩)
      (Catalog.trace Peer.channel refusal 0
        ⟨⟨client, ⟨loopback port, true, [], []⟩, []⟩, db, []⟩) := by
  have hplayed : client.auth.login Script.send 0 ⟨[.reply ⟨500, ""⟩], []⟩ =
      (.error (.status 500), ⟨[], [client.auth.loginRequest key]⟩) := by
    rw [Authenticator.login_of_key hkey]
    generalize client.auth.loginRequest key = request
    rfl
  have hunsent : client.auth.login Peer.send 0 ⟨loopback port, true, [Reply.wire ⟨500, ""⟩], []⟩ =
      (.error (.transport fault), ⟨loopback port, true, [Reply.wire ⟨500, ""⟩], []⟩) := by
    rw [Authenticator.login_of_key hkey]
    simp only [hsend, Authenticator.conclude]
  have hscript := link_refusal (c := ⟨⟨client, ⟨[], []⟩, []⟩, db, []⟩)
    (Script.channel Answer.reply) htoken hurl hpages rfl hplayed
  have hserver := link_refusal (c := ⟨⟨client, ⟨loopback port, true, [], []⟩, []⟩, db, []⟩)
    Peer.channel htoken hurl hpages rfl hunsent
  rintro (_ | ⟨-, _ | ⟨⟨-, -, -, hwork⟩, -⟩⟩)
  have hrequests := hwork.requests
  change List.Forall₂ _ (Catalog.leave (Script.channel Answer.reply) refusal 0
    ⟨⟨client, ⟨[], []⟩, []⟩, db, []⟩).source.link.sent (Catalog.leave Peer.channel refusal 0
      ⟨⟨client, ⟨loopback port, true, [], []⟩, []⟩, db, []⟩).source.link.received at hrequests
  rw [hscript, hserver] at hrequests
  cases hrequests

/-- A base with a segment that is too long for logins. -/
theorem distant_refusal (hn : urlLimit ≤ n) (db : Database) :
    (∀ u ∈ ((rehearsal (distant n) db (⟨[], []⟩ : Ledger Reply)).leave
        (Ledger.channel Answer.reply) refusal 0).source.link.used, u.2 = some ⟨500, ""⟩) ∧
      ¬ List.Forall₂ (Catalog.Alike (StandsIn 40961))
        ((rehearsal (distant n) db ⟨[], []⟩).trace (Script.channel Answer.reply) refusal 0)
        ((rehearsal (distant n) db ⟨loopback 40961, true, [], []⟩).trace Peer.channel refusal
          0) := by
  have hkey : (distant n).client.auth.apiKey = some "key" := by
    change Text.nonBlank? ((Text.nonBlank? (some "key")).map Text.trim) = some "key"
    decide +kernel
  have hpages : (distant n).client.maxPages.toNat ≠ 0 := by
    change (1 : UInt32).toNat ≠ 0
    decide
  obtain ⟨base, path, hbase, hon⟩ := (rooted_distant n).dropTrailing.onLoopback
  obtain ⟨endpoint, hurl, -⟩ := Client.listingUrl_leadsBelow (c := (distant n).client) hbase
    hon.normal.kind "42"
  obtain ⟨u, path', hu, hsite, hlong⟩ := onLoopback_replicate 40961 n
  have hne : n ≠ 0 := by
    rintro rfl
    exact absurd hn (by decide)
  rw [← loginUrl_distant hne] at hu
  obtain ⟨fault, hsend⟩ := Peer.send_of_long (r := (distant n).client.auth.loginRequest "key") hu
    hsite (by simp [Authenticator.loginRequest, Request.postJson]) (hn.trans hlong)
  rw [rehearsal_eq, rehearsal_eq, rehearsal_eq]
  refine ⟨fun u hmem => ?_, not_standsIn_of_unsent rfl hkey hurl hpages hsend db⟩
  rw [used_refusal rfl hkey hurl hpages db, List.mem_singleton] at hmem
  rw [hmem]

/-- The script has the refusal of the login taken, but the server never gets to see it. -/
theorem trace_standsIn_distant :
    let surroundings : Surroundings := ⟨none, none, none, none⟩
    let disk : Disk := Files.Tree.ofWorkingDirectory ["home"]
    let peer : Peer := ⟨loopback 40961, true, [], []⟩
    let library : Library (Session Peer) :=
      ⟨.inMemory, disk, ⟨(distant 65540).client, peer, []⟩, []⟩
    Rooted 40961 (distant 65540).baseUrl ∧
      ofConfig (distant 65540) surroundings disk peer = (.ok library, disk) ∧
      (∀ u ∈ ((rehearsal (distant 65540) library.catalog.cache (⟨[], []⟩ : Ledger Reply)).leave
        (Ledger.channel Answer.reply) refusal 0).source.link.used, u.2 = some ⟨500, ""⟩) ∧
      ¬ List.Forall₂ (Catalog.Alike (StandsIn 40961))
        ((rehearsal (distant 65540) library.catalog.cache ⟨[], []⟩).trace
          (Script.channel Answer.reply)
          refusal 0)
        (library.catalog.trace Peer.channel refusal 0) :=
  ⟨rooted_distant 65540, ofConfig_memory rfl _ _ _, distant_refusal (by decide) _⟩

end Library

end EpisodeGuide
