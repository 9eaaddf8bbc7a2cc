import EpisodeGuide.Proofs.Exchange.Wire

/-! # Requests as they are built and as they arrive

A request is started with its method, its URL and its body, and calls add credentials and pairs.
What arrives lets the receiver recover all of them. Only a URL that cannot go into a request is held
back. -/

namespace EpisodeGuide.Http

open Json Url

/-! ### Requests that calls build -/

/-- A call on a request. -/
inductive Call where
  | bearer (credential : String)
  | query (key value : String)

def Call.apply (r : Request) : Call → Request
  | .bearer credential => r.withBearer credential
  | .query key value => r.withQuery key value

/-- The request after some calls. -/
def Request.after (start : Request) (calls : List Call) : Request :=
  calls.foldl Call.apply start

def credentials (calls : List Call) : List String :=
  calls.filterMap fun
    | .bearer credential => some credential
    | .query _ _ => none

/-- The pairs that calls put into the query, in their order. -/
def queryPairs (calls : List Call) : List (String × String) :=
  calls.filterMap fun
    | .bearer _ => none
    | .query key value => some (key, value)

/-- A request before any calls. Its body has no double-width numbers and can be read back. -/
inductive Started (url : String) : Request → Prop where
  | get : Started url (.get url)
  | postJson {body} : body.Portable maxDepth → Started url (.postJson url body)

theorem Request.after_eq (start : Request) (calls : List Call) :
    start.after calls = { start with
      bearer := (credentials calls).getLast?.or start.bearer
      query := start.query ++ queryPairs calls } := by
  induction calls generalizing start with
  | nil => simp [Request.after, credentials, queryPairs]
  | cons call calls ih =>
      have hstep : start.after (call :: calls) = (Call.apply start call).after calls := rfl
      rw [hstep, ih]
      cases call with
      | query key value => simp [Call.apply, Request.withQuery, credentials, queryPairs]
      | bearer credential =>
          simp [Call.apply, Request.withBearer, credentials, queryPairs, List.getLast?_cons]

/-! ### What arrives -/

def pathText (u : Url) : List Char :=
  match u.location with
  | .plain text => text
  | .hierarchical _ path => Path.print path

def pathPart (target : String) : List Char :=
  target.toList.takeWhile (· != '?')

def queryPart (target : String) : List Char :=
  (target.toList.dropWhile (· != '?')).drop 1

/-- What a receiver reads off a request: everything that it was built from. -/
structure Recovers (u : Url) (start : Request) (calls : List Call) (w : WireRequest) : Prop where
  method : w.method = start.method
  path : pathPart w.target = pathText u
  query : formDecodePairs (queryPart w.target) = formDecodePairs (u.query.getD []) ++
    (queryPairs calls).map fun (key, value) => (key.toUTF8.data.toList, value.toUTF8.data.toList)
  authorization : w.headers.filter (fun header => header.1 == "authorization") =
    ((credentials calls).getLast?.map fun credential =>
      ("authorization", "Bearer " ++ credential)).toList
  body : ∀ value ∈ start.body, Value.ofText? w.body = some value
  noBody : start.body = none → w.body = ""

/-- A URL that can go into a request. -/
structure Fits (u : Url) : Prop where
  host : ∀ a ∈ u.authority?, ∀ c ∈ a.host.print, c ∉ ['"', '`', '\x7b', '\x7d']
  length : u.print.length < urlLimit

/-- The URL of a request with the pairs that calls put into its query. -/
def calledUrl (u : Url) (calls : List Call) : Url :=
  u.withPairs ((queryPairs calls).map fun (key, value) => (key.toList, value.toList))

/-- What becomes of a request for the URL `u` that was started and called. -/
structure DeliverySpec (u : Url) (start : Request) (calls : List Call) : Prop where
  delivered : Fits (calledUrl u calls) → ∃ w, Recovers u start calls w ∧ ∀ p : Peer,
    p.isReachedBy u = true → (Peer.send (start.after calls) p).2.received = p.received ++ [w]
  elsewhere : ∀ p : Peer, p.isReachedBy u = false → (Peer.send (start.after calls) p).2 = p
  refused : ¬ Fits (calledUrl u calls) → ∃ reason, ∀ p : Peer,
    Peer.send (start.after calls) p = (.error (.requestFailed start.url reason), p)

variable {port : Option ℕ} {a : Authority} {path : List Segment} {u : Url} {r start : Request}
  {calls : List Call} {p : Peer}

theorem isSendable_iff : isSendable u = true ↔ Fits u := by
  have hhost (a : Authority) : (!a.host.print.any ("\"`\x7b\x7d".contains ·)) = true ↔
      ∀ c ∈ a.host.print, c ∉ ['"', '`', '\x7b', '\x7d'] := by
    simp
  rw [isSendable, Bool.and_eq_true, decide_eq_true_eq, Option.all_eq_true]
  simp only [hhost]
  constructor
  · rintro ⟨hhost, hlength⟩
    exact ⟨hhost, hlength⟩
  · exact fun h => ⟨h.host, h.length⟩

theorem filter_headers (r : Request) :
    (r.headers none).filter (fun header => header.1 == "authorization") =
      (r.bearer.map fun credential => ("authorization", "Bearer " ++ credential)).toList := by
  cases hbearer : r.bearer <;> cases hbody : r.body <;>
    simp [Request.headers, hbearer, hbody, bearerHeader]

theorem parts_targetOf (hnormal : Normal port a path u) (pairs : List (List Char × List Char)) :
    pathPart (targetOf (u.withPairs pairs)) = pathText u ∧
      queryPart (targetOf (u.withPairs pairs)) = (u.withPairs pairs).query.getD [] := by
  have hlocation : (u.withPairs pairs).location = .hierarchical (some a) path :=
    (origin_withPairs u pairs).2.trans hnormal.location
  have hmark : '?' ∉ Path.print path := fun hc => (Path.print_chars hnormal.segments _ hc).2.1 rfl
  obtain ⟨first, segments, hpath⟩ := List.exists_cons_of_ne_nil hnormal.path_ne_nil
  have htarget : (targetOf (u.withPairs pairs)).toList =
      Path.print path ++ printOptional '?' (u.withPairs pairs).query := by
    simp [targetOf, hlocation, hpath]
  obtain ⟨htake, hdrop⟩ := takeWhile_ne_append (t := printOptional '?' (u.withPairs pairs).query)
    hmark (by cases (u.withPairs pairs).query <;> simp [printOptional, eq_comm])
  rw [pathPart, queryPart, htarget, htake, hdrop, pathText, hnormal.location]
  refine ⟨rfl, ?_⟩
  cases (u.withPairs pairs).query <;> rfl

/-! ### Sending -/

theorem Started.after_eq {url : String} (h : Started url start) (calls : List Call) :
    start.after calls =
      ⟨start.method, url, (credentials calls).getLast?, queryPairs calls, start.body⟩ := by
  rw [Request.after_eq]
  cases h <;> simp [Request.get, Request.postJson]

/-- What goes over the connection lets the receiver recover what it was built from. -/
theorem Started.recovers {url : String} (h : Started url start) (hnormal : Normal port a path u)
    (calls : List Call) : Recovers u start calls ((start.after calls).onWire u) := by
  obtain ⟨hpath, hquery⟩ := parts_targetOf hnormal (start.after calls).pairs
  have hr := h.after_eq calls
  refine ⟨by rw [hr]; rfl, hpath, ?_, ?_, fun value hvalue => ?_, fun hnone => ?_⟩
  · rw [Request.onWire, hquery, formDecodePairs_withPairs, hr, Request.pairs, List.map_map]
    congr 1
    refine List.map_congr_left fun pair _ => ?_
    exact Prod.ext (Text.toList_toUTF8 pair.1).symm (Text.toList_toUTF8 pair.2).symm
  · rw [Request.onWire, filter_headers, hr]
  · have hbody : (start.after calls).body = some value := by rw [hr]; exact hvalue
    cases h with
    | get => cases hvalue
    | postJson hportable =>
        obtain rfl := Option.some.inj hvalue
        rw [Request.onWire, hbody]
        exact hportable.ofText?_compactText
  · have hbody : (start.after calls).body = none := by rw [hr]; exact hnone
    rw [Request.onWire, hbody]
    rfl

theorem isReachedBy_withPairs (u : Url) (pairs : List (List Char × List Char)) (p : Peer) :
    p.isReachedBy (u.withPairs pairs) = p.isReachedBy u := by
  obtain ⟨hscheme, hlocation⟩ := origin_withPairs u pairs
  have hauthority : (u.withPairs pairs).authority? = u.authority? := by
    rw [authority?, hlocation, authority?]
  rw [Peer.isReachedBy, Peer.isReachedBy, hscheme, hauthority]

/-- A request that is made ready goes to the peer that its URL leads to, and to no other. -/
theorem send_of_outgoing {o : Outgoing} (h : r.outgoing = .ok o) :
    (p.isReachedBy o.url = true → (Peer.send r p).2.received = p.received ++ [o.request]) ∧
      (p.isReachedBy o.url = false → (Peer.send r p).2 = p) := by
  constructor <;> intro hreached <;> rw [Peer.send, h]
  · cases hreplies : p.replies <;> simp [Peer.exchange, hreached, hreplies]
  · simp [Peer.exchange, hreached]

/-- Nothing but its URL keeps a request back that was started for it and called. -/
theorem outgoing_after {url : String} (hu : Url.ofText url = .ok u)
    (hscheme : u.scheme = "http".toList)
    (huser : ∀ a ∈ u.authority?, a.username = [] ∧ a.password = []) (hstart : Started url start)
    (hbearers : ∀ credential ∈ credentials calls, VisibleText credential) :
    (∃ a path, Normal (some 80) a path u) ∧ (start.after calls).outgoing =
      if isSendable (calledUrl u calls) then
        .ok ⟨calledUrl u calls, (start.after calls).onWire u⟩
      else .error (.unusable (some (calledUrl u calls).text)) := by
  have hkind : u.kind = .special (some 80) := by
    rw [kind, hscheme]
    rfl
  obtain ⟨a, path, hnormal⟩ := exists_normal_of_ofChars hu hkind
  have hr := hstart.after_eq calls
  have hurl : Url.ofText (start.after calls).url = .ok u := by
    rw [hr]
    exact hu
  have hbearer : ∀ credential ∈ (start.after calls).bearer, VisibleText credential := by
    rw [hr]
    exact fun credential hlast => hbearers credential (List.mem_of_getLast? hlast)
  have hpairs : u.withPairs (start.after calls).pairs = calledUrl u calls := by
    rw [hr]
    rfl
  have houtgoing := outgoing_of_normal hurl hnormal hscheme (huser a hnormal.authority?_eq) hbearer
  rw [hpairs] at houtgoing
  exact ⟨⟨a, path, hnormal⟩, houtgoing⟩

/-- A request with visible credentials for a URL without user information. -/
theorem Peer.send_deliverySpec (url : String) (u : Url) (start : Request) (calls : List Call)
    (hu : Url.ofText url = .ok u) (hscheme : u.scheme = "http".toList)
    (huser : ∀ a ∈ u.authority?, a.username = [] ∧ a.password = []) (hstart : Started url start)
    (hbearers : ∀ credential ∈ credentials calls, credential ≠ "" ∧ VisibleText credential) :
    DeliverySpec u start calls := by
  obtain ⟨⟨a, path, hnormal⟩, houtgoing⟩ :=
    outgoing_after hu hscheme huser hstart fun credential hmem => (hbearers credential hmem).2
  have hreached (p : Peer) : p.isReachedBy (calledUrl u calls) = p.isReachedBy u :=
    isReachedBy_withPairs u _ p
  refine ⟨fun hfits => ?_, fun p hp => ?_, fun hfits => ?_⟩
  · rw [if_pos (isSendable_iff.mpr hfits)] at houtgoing
    refine ⟨_, hstart.recovers hnormal calls, fun p hp => ?_⟩
    exact (send_of_outgoing houtgoing).1 ((hreached p).trans hp)
  · split at houtgoing
    · exact (send_of_outgoing houtgoing).2 ((hreached p).trans hp)
    · rw [Peer.send, houtgoing]
  · rw [if_neg fun hsendable => hfits (isSendable_iff.mp hsendable)] at houtgoing
    refine ⟨(WireFault.unusable (some (calledUrl u calls).text)).message, fun p => ?_⟩
    have hurl : (start.after calls).url = start.url := by rw [Request.after_eq]
    rw [Peer.send, houtgoing, hurl]

/-- A URL with a query and a fragment of its own, two credentials, and pairs with signs of forms. -/
theorem Peer.send_deliverySpec_twoBearers :
    let url := "http://h/a b?x=1&=#f"
    let u : Url := ⟨"http".toList, .hierarchical (some ⟨[], [], .domain ['h'], none⟩)
      ["a%20b".toList], some "x=1&=".toList, some "f".toList⟩
    let start := Request.postJson url
      (.object [("a", .array [.null, .number (.integer (-1))]), ("b", .text "\u00e9\n")])
    let calls : List Call :=
      [.bearer "first", .query "k&" "=+ \u00e9", .bearer "second", .query "" "", .query "" ""]
    Url.ofText url = .ok u ∧ u.scheme = "http".toList ∧
      (∀ a ∈ u.authority?, a.username = [] ∧ a.password = []) ∧ Started url start ∧
      (∀ credential ∈ credentials calls, credential ≠ "" ∧ VisibleText credential) ∧
      Fits (calledUrl u calls) ∧ DeliverySpec u start calls := by
  intro url u start calls
  have hu : Url.ofText url = .ok u := by cbv
  have huser : ∀ a ∈ u.authority?, a.username = [] ∧ a.password = [] := by decide +kernel
  have hstart : Started url start := by
    refine .postJson (.object (by decide) ?_)
    simp only [List.forall_mem_cons, List.not_mem_nil, false_imp_iff, implies_true, and_true]
    refine ⟨.array ?_, .text _⟩
    simp only [List.forall_mem_cons, List.not_mem_nil, false_imp_iff, implies_true, and_true]
    exact ⟨.null, .integer (by unfold FitsNumeral; decide)⟩
  have hbearers : ∀ credential ∈ credentials calls, credential ≠ "" ∧ VisibleText credential := by
    simp [calls, credentials, VisibleText]
  have hfits : Fits (calledUrl u calls) := isSendable_iff.mp (by cbv)
  exact ⟨hu, rfl, huser, hstart, hbearers, hfits,
    Peer.send_deliverySpec url u start calls hu rfl huser hstart hbearers⟩

/-! ### URLs that cannot go into a request -/

theorem length_formEncode_replicate (n : ℕ) : (formEncode (List.replicate n 'x')).length = n := by
  have hplain : formChar 'x' = ['x'] := by decide
  induction n with
  | zero => rfl
  | succ n ih =>
      rw [List.replicate_succ, formEncode, List.flatMap_cons, hplain, List.length_append]
      rw [formEncode] at ih
      rw [ih, List.length_singleton, Nat.add_comm]

/-- A value in the query takes as much of the URL as it takes coded. -/
theorem length_formEncode_le (u : Url) (key value : String) :
    (formEncode value.toList).length ≤ (calledUrl u [.query key value]).print.length := by
  have hpair : (formEncode value.toList).length ≤
      (formPairs [(key.toList, value.toList)]).length := by
    simp only [formPairs, formPair, List.map_cons, List.map_nil, List.intercalate_singleton,
      List.length_append, List.length_cons]
    omega
  have happend : (formPairs [(key.toList, value.toList)]).length ≤
      (appendPairs u.query [(key.toList, value.toList)]).length := by
    rcases u.query with - | - | ⟨c, q⟩
    · exact Nat.le_refl _
    · exact Nat.le_refl _
    · simp only [appendPairs, List.length_append, List.length_cons]
      omega
  have hquery : (calledUrl u [.query key value]).query =
      some (appendPairs u.query [(key.toList, value.toList)]) := rfl
  simp only [print, hquery, printOptional, List.length_append, List.length_cons]
  omega

/-- A request is not sent whose query makes its URL too long. Nor is one whose host holds a
brace. -/
theorem Peer.send_unfit :
    let value := String.ofList (List.replicate urlLimit 'x')
    let long : Url := ⟨"http".toList, .hierarchical (some ⟨[], [], .domain ['h'], none⟩) [['p']],
      none, none⟩
    let braced : Url := ⟨"http".toList,
      .hierarchical (some ⟨[], [], .domain ['a', '\x7b', 'b'], none⟩) [['p']], none, none⟩
    (Url.ofText "http://h/p" = .ok long ∧ ∀ p, ∃ e,
      Peer.send ((Request.get "http://h/p").after [.query "k" value]) p = (.error e, p)) ∧
    (Url.ofText "http://a\x7bb/p" = .ok braced ∧ ∀ p, ∃ e,
      Peer.send ((Request.get "http://a\x7bb/p").after []) p = (.error e, p)) := by
  intro value long braced
  have hunfit {url : String} {u : Url} {calls : List Call} (hu : Url.ofText url = .ok u)
      (hscheme : u.scheme = "http".toList)
      (huser : ∀ a ∈ u.authority?, a.username = [] ∧ a.password = [])
      (hcalls : credentials calls = []) (hfits : ¬ Fits (calledUrl u calls)) (p : Peer) :
      ∃ e, Peer.send ((Request.get url).after calls) p = (.error e, p) := by
    have hbearers : ∀ credential ∈ credentials calls, VisibleText credential := by simp [hcalls]
    obtain ⟨-, houtgoing⟩ := outgoing_after hu hscheme huser .get hbearers
    rw [if_neg fun hsendable => hfits (isSendable_iff.mp hsendable)] at houtgoing
    exact ⟨_, by rw [Peer.send, houtgoing]⟩
  have hlong : Url.ofText "http://h/p" = .ok long := by cbv
  have hbraced : Url.ofText "http://a\x7bb/p" = .ok braced := by cbv
  refine ⟨⟨hlong, hunfit hlong rfl (by decide +kernel) rfl fun hfits => ?_⟩,
    hbraced, hunfit hbraced rfl (by decide +kernel) rfl fun hfits => ?_⟩
  · have hlength := length_formEncode_le long "k" value
    rw [String.toList_ofList, length_formEncode_replicate] at hlength
    exact absurd hfits.length (Nat.not_lt.mpr hlength)
  · exact hfits.host _ rfl '\x7b' (by simp [Host.print]) (by simp)

end EpisodeGuide.Http
