import EpisodeGuide.Client.Session
import EpisodeGuide.Provider.Page

/-!
Fetching the whole listing of a series, page by page. A rejected token is renewed once per page; the
walk ends at the last page, at an empty page, at a failure or at the limit, and what was found until
then is the result.
-/

namespace EpisodeGuide

open Http Provider

/-- The address of the listing of a series: the identifier is one segment of the path. -/
def Client.listingUrl (c : Client) (series : String) : Except PageError String :=
  match Url.ofText c.baseUrl with
  | .error e => .error (.unusableUrl c.baseUrl (some e))
  | .ok base =>
    match base.extend? ["series".toList, series.toList, "episodes".toList, "default".toList] with
    | none => .error (.unusableUrl c.baseUrl none)
    | some url => .ok url.text

def pageRequest (endpoint : String) (token : Token) (page : Nat) : Request :=
  ((Request.get endpoint).withBearer token.value).withQuery "page" (toString page)

def readPage (reply : Reply) : Except PageError Page :=
  match reply.status with
  | 200 =>
    match Page.ofText? reply.body with
    | some page => .ok page
    | none => .error (.unreadable none)
  | 401 => .error .unauthorized
  | code => .error (.status code)

namespace Session

variable {σ : Type}

def getPage (send : Transport σ) (now : Int) (endpoint : String) (page : Nat) (s : Session σ) :
    Except PageError Page × Session σ :=
  match s.getToken send now with
  | (none, s) => (.error .noToken, s)
  | (some token, s) =>
    match send (pageRequest endpoint token page) s.link with
    | (.error e, link) => (.error (.transport e), { s with link := link })
    | (.ok reply, link) => (readPage reply, { s with link := link })

/-- Asks for a page, and once more with a new token when the token is rejected. A token that was
rejected is forgotten. -/
def requestPage (send : Transport σ) (now : Int) (endpoint : String) (page : Nat) (s : Session σ) :
    Except PageError Page × Session σ :=
  match s.getPage send now endpoint page with
  | (.error .unauthorized, s) =>
    match (s.note (.tokenRejected page)).invalidate.getPage send now endpoint page with
    | (.error .unauthorized, s) => (.error .unauthorized, s.invalidate)
    | retried => retried
  | first => first

/-- Walks the pages from `page` on, at most `room` of them. -/
def walk (send : Transport σ) (now : Int) (series endpoint : String) :
    (room page : Nat) → Session σ → List Episode × Session σ
  | 0, _, s => ([], s.note (.pageLimitReached series s.client.maxPages))
  | room + 1, page, s =>
    match s.requestPage send now endpoint page with
    | (.error .noToken, s) => ([], s.note (.tokenMissing series page))
    | (.error e, s) => ([], s.note (.pageFailed series page e))
    | (.ok body, s) =>
      let found := body.episodes series
      if found.isEmpty then ([], s)
      else if body.hasNext then
        let (rest, s) := walk send now series endpoint room (page + 1) s
        (found ++ rest, s)
      else (found, s)

/-- Every episode of a series that could be fetched, in the provider's order. -/
def fetch (send : Transport σ) (now : Int) (series : String) (s : Session σ) :
    List Episode × Session σ :=
  match s.client.listingUrl series with
  | .error e => ([], s.note (.urlUnusable series e))
  | .ok endpoint =>
    let (episodes, s) := s.walk send now series endpoint s.client.maxPages.toNat 0
    if episodes.isEmpty then ([], s) else (episodes, s.note (.fetched series episodes.length))

end Session

end EpisodeGuide
