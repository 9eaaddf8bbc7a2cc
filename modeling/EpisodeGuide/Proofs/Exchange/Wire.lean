import EpisodeGuide.Proofs.Json.RoundTrip
import EpisodeGuide.Proofs.Text.Utf8
import EpisodeGuide.Proofs.Url.Loopback

/-! # Requests that a server reads back

A server on this machine gets what a request says: its method, its URL and the pairs in its query,
its credential and its body can be read off what arrives. Its reply comes back as it was sent. -/

namespace EpisodeGuide

open Http Json Url

/-! ### Bodies -/

/-- The body of a login is read back, whatever the key is. -/
theorem Json.Value.ofText?_loginBody (key : String) :
    Value.ofText? (Value.object [("apikey", .text key)]).compactText =
      some (.object [("apikey", .text key)]) := by
  have hportable : (Value.object [("apikey", .text key)]).Portable maxDepth :=
    .object (List.pairwise_singleton _ _) (List.forall_mem_singleton.mpr (.text key))
  exact hportable.ofText?_compactText

namespace Http

/-- A reply as it goes over a connection, its text in UTF-8. -/
def Reply.wire (r : Reply) : WireReply :=
  ⟨r.status, r.body.toUTF8.data.toList, false⟩

theorem Peer.readReply_wire (url : String) (r : Reply) : Peer.readReply url r.wire = .ok r := by
  rw [Peer.readReply, Reply.wire, Text.decodeLossy_toUTF8]
  rfl

/-! ### Requests -/

/-- What a server that is asked at `origin` reads off a request that arrives. -/
structure Carries (origin : String) (r : Request) (w : WireRequest) : Prop where
  method : w.method = r.method
  url : ∃ u v, Url.ofText r.url = .ok u ∧ Url.ofText (origin ++ w.target) = .ok v ∧
    v = { u with query := v.query } ∧ formDecodePairs (v.query.getD []) =
      r.query.map fun (key, value) => (key.toUTF8.data.toList, value.toUTF8.data.toList)
  bearer : w.headers.lookup "authorization" = r.bearer.map ("Bearer " ++ ·)
  body : ∀ value ∈ r.body, Value.ofText? w.body = some value
  noBody : r.body = none → w.body = ""

/-- Visible characters of ASCII. -/
def VisibleText (s : String) : Prop :=
  ∀ c ∈ s.toList, 0x20 < c.toNat ∧ c.toNat < 0x7F

/-- A request that can go to the server: its URL is on the site and short enough, its credential is
visible and its body can be read back. -/
structure Ready (port : UInt16) (r : Request) : Prop where
  url : ∃ u path, Url.ofText r.url = .ok u ∧ OnLoopback port path u ∧
    (u.withPairs r.pairs).print.length < urlLimit
  bearer : ∀ credential ∈ r.bearer, VisibleText credential
  body : ∀ value ∈ r.body, Value.ofText? value.compactText = some value

variable {port : UInt16} {r : Request}

def Request.onWire (u : Url) (r : Request) : WireRequest :=
  ⟨r.method, targetOf (u.withPairs r.pairs), r.headers none, (r.body.map (·.compactText)).getD ""⟩

theorem VisibleText.fitsHeader {s : String} (h : VisibleText s) :
    s.toList.all Http.fitsHeader = true := by
  refine List.all_eq_true.mpr fun c hc => ?_
  have hc := h c hc
  simp only [Http.fitsHeader, Bool.or_eq_true, Bool.and_eq_true, decide_eq_true_eq, bne_iff_ne]
  omega

theorem origin_withPairs (u : Url) (pairs : List (List Char × List Char)) :
    (u.withPairs pairs).scheme = u.scheme ∧ (u.withPairs pairs).location = u.location := by
  unfold Url.withPairs
  split <;> exact ⟨rfl, rfl⟩

/-- Nothing but its URL keeps a request back whose credential is visible. -/
theorem outgoing_of_normal {defaultPort : Option ℕ} {a : Authority} {path : List Segment} {u : Url}
    (hu : Url.ofText r.url = .ok u) (hnormal : Normal defaultPort a path u)
    (hscheme : u.scheme = "http".toList) (huser : a.username = [] ∧ a.password = [])
    (hbearer : ∀ credential ∈ r.bearer, VisibleText credential) :
    r.outgoing = if isSendable (u.withPairs r.pairs) then .ok ⟨u.withPairs r.pairs, r.onWire u⟩
      else .error (.unusable (some (u.withPairs r.pairs).text)) := by
  have hauthority := hnormal.authority?_eq
  have hread : r.readUrl = .ok u := by
    simp [Request.readUrl, hu, hasHost, hauthority, hnormal.authority.host.isEmpty_eq]
  have hcredential : urlCredential? u = none := by
    rw [urlCredential?, hauthority, Option.bind_some, huser.1, huser.2]
    rfl
  have hfits : (r.bearer.getD "").toList.all fitsHeader = true := by
    cases hb : r.bearer with
    | none => rfl
    | some credential => exact (hbearer credential hb).fitsHeader
  have hweb : isWeb (u.withPairs r.pairs) = true := by
    simp [isWeb, (origin_withPairs u r.pairs).1, hscheme]
  cases hsendable : isSendable (u.withPairs r.pairs) <;>
    simp [Request.outgoing, hread, hcredential, hfits, hweb, hsendable, Request.onWire, bind,
      Except.bind, throw, throwThe, MonadExceptOf.throw, pure, Except.pure]

/-- A URL of the server can be sent if it is short enough. -/
theorem isSendable_eq {u : Url} (h : u.authority? = some (loopbackAuthority port)) :
    isSendable u = decide (u.print.length < urlLimit) := by
  have hhost : (loopbackAuthority port).host.print.any ("\"`\x7b\x7d".contains ·) = false := by
    cbv
  rw [isSendable, h, Option.all_some, hhost, Bool.not_false, Bool.true_and]

/-- Nothing but its length keeps a request for a URL on the site back. -/
theorem outgoing_of_onLoopback {path : List Segment} {u : Url} (hu : Url.ofText r.url = .ok u)
    (hsite : OnLoopback port path u) (hbearer : ∀ credential ∈ r.bearer, VisibleText credential) :
    r.outgoing = if (u.withPairs r.pairs).print.length < urlLimit
      then .ok ⟨u.withPairs r.pairs, r.onWire u⟩
      else .error (.unusable (some (u.withPairs r.pairs).text)) := by
  obtain ⟨-, hnormal⟩ := hsite.withPairs r.pairs
  rw [outgoing_of_normal hu hsite.normal hsite.scheme ⟨rfl, rfl⟩ hbearer,
    isSendable_eq hnormal.authority?_eq]
  simp only [decide_eq_true_eq]

theorem lookup_headers (r : Request) :
    (r.headers none).lookup "authorization" = r.bearer.map ("Bearer " ++ ·) := by
  cases hbearer : r.bearer <;> cases hbody : r.body <;>
    simp [Request.headers, hbearer, hbody, bearerHeader, List.lookup]

theorem Ready.carries (h : Ready port r) {u : Url} {path : List Segment}
    (hu : Url.ofText r.url = .ok u) (hsite : OnLoopback port path u) :
    Carries (loopback port) r (r.onWire u) where
  method := rfl
  url := by
    obtain ⟨hpairs, -⟩ := hsite.withPairs r.pairs
    refine ⟨u, _, hu, hsite.ofText_target r.pairs, ?_, ?_⟩
    · rw [hpairs]
    · have hquery : formDecodePairs ((u.withPairs r.pairs).query.getD []) =
          formDecodePairs (formPairs r.pairs) := by
        rw [hpairs]
        cases r.pairs <;> rfl
      rw [hquery, formDecodePairs_formPairs, Request.pairs, List.map_map]
      refine List.map_congr_left fun pair _ => ?_
      exact Prod.ext (Text.toList_toUTF8 pair.1).symm (Text.toList_toUTF8 pair.2).symm
  bearer := lookup_headers r
  body := fun value hvalue => by
    rw [← h.body value hvalue, Request.onWire, hvalue]
    rfl
  noBody := fun hnone => by
    rw [Request.onWire, hnone]
    rfl

/-- A request that is ready reaches the server, and the next reply comes back. -/
theorem Ready.send (h : Ready port r) {p : Peer} {reply : Reply} {rest : List WireReply}
    (horigin : p.origin = loopback port) (hlistening : p.listening = true)
    (hreplies : p.replies = reply.wire :: rest) :
    ∃ w, Carries (loopback port) r w ∧
      Peer.send r p = (.ok reply, { p with replies := rest, received := p.received ++ [w] }) := by
  obtain ⟨u, path, hu, hsite, hshort⟩ := h.url
  refine ⟨_, h.carries hu hsite, ?_⟩
  obtain ⟨hpairs, hnormal⟩ := hsite.withPairs r.pairs
  have hreached : p.isReachedBy (u.withPairs r.pairs) = true := by
    obtain ⟨origin, path', hread, hsite'⟩ := exists_onLoopback_origin port
    have hscheme : (u.withPairs r.pairs).scheme = origin.scheme := by
      rw [hpairs, hsite'.scheme, ← hsite.scheme]
    have hauthority : (u.withPairs r.pairs).authority? = origin.authority? := by
      rw [hnormal.authority?_eq, hsite'.normal.authority?_eq]
    simp [Peer.isReachedBy, horigin, hread, hlistening, hscheme, hauthority]
  have houtgoing := outgoing_of_onLoopback hu hsite h.bearer
  rw [if_pos hshort] at houtgoing
  simp [Peer.send, houtgoing, Peer.exchange, hreached, hreplies, Peer.readReply_wire]

theorem Peer.send_of_long {path : List Segment} {u : Url} (hu : Url.ofText r.url = .ok u)
    (hsite : OnLoopback port path u) (hbearer : ∀ credential ∈ r.bearer, VisibleText credential)
    (hlong : urlLimit ≤ (u.withPairs r.pairs).print.length) :
    ∃ e, ∀ p, Peer.send r p = (.error e, p) := by
  have houtgoing := outgoing_of_onLoopback hu hsite hbearer
  rw [if_neg (Nat.not_lt.mpr hlong)] at houtgoing
  exact ⟨_, fun p => by rw [Peer.send, houtgoing]⟩

end Http

end EpisodeGuide
