import MailMerge.Decimal.Numeral
import MailMerge.Url.Host

/-!
# URLs

A URL names a scheme, perhaps a host with credentials and a socket, a path, and perhaps a query
and a fragment. All parts are kept the way they are written, with their bytes encoded.

## Main definitions

* `Url`: the parts of a URL.
* `Url.write`: a URL as text.
* `Url.extendPath`: a URL with more segments at the end of its path.

## Main results

* `extendPath_scheme` and its companions: extending a path changes nothing else.
-/

namespace MailMerge

/-- The path of a URL: segments, or a text that is no path at all, as behind `mailto:`. -/
inductive Url.Route where
  | segments (all : List (List Char))
  | text (chars : List Char)
deriving DecidableEq, Repr

/-- A user name and a password, either of which may be empty. -/
structure Url.Credentials where
  user : List Char
  password : List Char
deriving DecidableEq, Repr

/-- The part of a URL that says where the resource is: credentials, a host, which may be empty,
and the number of the socket unless it is the usual one. -/
structure Url.Authority where
  credentials : Url.Credentials
  host : List Char
  socket : Option Nat
deriving DecidableEq, Repr

/-- The parts of a URL. -/
structure Url where
  scheme : List Char
  authority : Option Url.Authority
  route : Url.Route
  query : Option (List Char)
  fragment : Option (List Char)
deriving DecidableEq, Repr

namespace Url

/-- The usual socket of a scheme. -/
def usualSocket? (scheme : List Char) : Option Nat :=
  if scheme = "http".toList ∨ scheme = "ws".toList then some 80
  else if scheme = "https".toList ∨ scheme = "wss".toList then some 443
  else if scheme = "ftp".toList then some 21
  else none

/-- True for the scheme of files. -/
def isFile (scheme : List Char) : Bool := scheme == "file".toList

/-- Special schemes have hosts and paths with rules of their own. -/
def isSpecial (scheme : List Char) : Bool := isFile scheme || (usualSocket? scheme).isSome

/-! ### Writing -/

/-- Credentials in front of a host. -/
def Credentials.write (c : Credentials) : List Char :=
  if c.user.isEmpty && c.password.isEmpty then []
  else c.user ++ (if c.password.isEmpty then [] else ':' :: c.password) ++ ['@']

/-- Where the resource is. -/
def Authority.write (a : Authority) : List Char :=
  '/' :: '/' :: (a.credentials.write ++ a.host ++
    match a.socket with
    | some number => ':' :: Decimal.natChars number
    | none => [])

/-- Segments, every one with a slash in front. -/
def writeSegments (segments : List (List Char)) : List Char :=
  segments.flatMap fun s => '/' :: s

/-- A path. Without an authority an empty first segment would look like one. -/
def Route.write (authority : Bool) : Route → List Char
  | .text chars => chars
  | .segments ([] :: s :: ss) =>
    (if authority then [] else ['/', '.']) ++ writeSegments ([] :: s :: ss)
  | .segments ss => writeSegments ss

/-- A part that may be missing, behind a mark. -/
def writePart (mark : Char) : Option (List Char) → List Char
  | some part => mark :: part
  | none => []

/-- A URL without its fragment, which is never sent. -/
def writeTarget (u : Url) : List Char :=
  u.scheme ++ ':' :: ((u.authority.map Authority.write).getD [] ++
    u.route.write u.authority.isSome ++ writePart '?' u.query)

/-- A URL as text. -/
def write (u : Url) : String := String.ofList (u.writeTarget ++ writePart '#' u.fragment)

/-! ### Extending a path -/

/-- True if the URL has a path that can be extended. -/
def hasPath (u : Url) : Bool :=
  match u.route with
  | .segments _ => true
  | .text _ => false

/-- A path without the empty segment that a slash at its end leaves. -/
def withoutFinalSlash (segments : List (List Char)) : List (List Char) :=
  if segments.getLast? = some [] then segments.dropLast else segments

/-- The single empty segment of a bare slash is no segment to put others behind. -/
def withoutBareSlash (segments : List (List Char)) : List (List Char) :=
  if segments = [[]] then [] else segments

/-- The segments that others are put behind. Without an authority a dot is in front of two
slashes, and it stays when the second one goes. -/
def frontSegments (authority : Bool) (segments : List (List Char)) : List (List Char) :=
  if authority = false ∧ segments = [[], []] then [['.']]
  else withoutBareSlash (withoutFinalSlash segments)

/-- Tabs and line breaks. -/
def isBreak (c : Char) : Bool := c = '\t' || c = '\n' || c = '\r'

/-- The characters of a text that count. -/
def withoutBreaks (cs : List Char) : List Char := cs.filter fun c => !isBreak c

/-- A path with one more segment. A text that names the current or the parent directory is left out,
but one that only does so without its tabs and line breaks leads there. In any other text everything
is encoded that could be taken for something else. -/
def addSegment (special : Bool) (path : List (List Char)) (s : String) : List (List Char) :=
  let cs := withoutBreaks s.toList
  if s = "." ∨ s = ".." then path
  else if cs = ['.'] then withoutBareSlash path ++ [[]]
  else if cs = ['.', '.'] then path.dropLast ++ [[]]
  else withoutBareSlash path ++ [percentEncode (inSegment special) cs]

/-- A URL with more segments at the end of its path. A text that is no path stays as it is. -/
def extendPath (u : Url) (segments : List String) : Url :=
  match u.route with
  | .text _ => u
  | .segments path =>
    { u with
      route := .segments
        (segments.foldl (addSegment (isSpecial u.scheme))
          (frontSegments u.authority.isSome path)) }

@[simp] theorem extendPath_scheme (u : Url) (segments : List String) :
    (u.extendPath segments).scheme = u.scheme := by
  unfold extendPath; split <;> rfl

@[simp] theorem extendPath_authority (u : Url) (segments : List String) :
    (u.extendPath segments).authority = u.authority := by
  unfold extendPath; split <;> rfl

@[simp] theorem extendPath_query (u : Url) (segments : List String) :
    (u.extendPath segments).query = u.query := by
  unfold extendPath; split <;> rfl

@[simp] theorem extendPath_fragment (u : Url) (segments : List String) :
    (u.extendPath segments).fragment = u.fragment := by
  unfold extendPath; split <;> rfl

end Url

end MailMerge
