import EpisodeGuide.Text.Digit

/-!
Where the name of a database leads: to a file, or to memory. A name may be a URI, whose path is
percent coded and whose query may ask for memory.
-/

namespace EpisodeGuide

open Text

inductive Location where
  | memory
  | file (path : String)
  deriving DecidableEq, Repr

namespace Location

/-- The bytes of a percent-coded text; a coded zero ends the text. -/
def decode : List Char → List UInt8
  | '%' :: a :: b :: r =>
    match hexDigit? a, hexDigit? b with
    | some x, some y =>
      if x * 16 + y = 0 then [] else UInt8.ofNat (x * 16 + y) :: decode r
    | _, _ => 0x25 :: decode (a :: b :: r)
  | c :: r => String.utf8EncodeChar c ++ decode r
  | [] => []

def decodeText (s : List Char) : String :=
  (String.fromUTF8? ⟨(decode s).toArray⟩).getD ""

/-- Drops the authority of a URI, which names this machine. -/
def dropAuthority : List Char → List Char
  | '/' :: '/' :: r => r.dropWhile (· != '/')
  | s => s

def splitUri (s : List Char) : String × List String :=
  let body := (dropAuthority s).takeWhile (· != '#')
  let query := (body.dropWhile (· != '?')).drop 1
  (decodeText (body.takeWhile (· != '?')), (query.splitOn '&').map decodeText)

/-- The location of a path: the empty path and one special name stand for memory. -/
def ofPath (path : String) : Location :=
  if path.isEmpty || path == ":memory:" then .memory else .file path

def ofName (name : String) : Location :=
  match name.toList with
  | 'f' :: 'i' :: 'l' :: 'e' :: ':' :: rest =>
    let (path, options) := splitUri rest
    if options.contains "mode=memory" then .memory else ofPath path
  | _ => ofPath name

end Location

end EpisodeGuide
