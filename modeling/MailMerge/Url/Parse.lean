import MailMerge.Url.Basic

/-!
# Reading URLs

A text is read from the front: the scheme up to a colon, then, depending on the scheme and on
the slashes behind it, credentials, host and socket, and then path, query and fragment. Blanks
around the text are ignored, and so are tabs and line breaks in it, unless they cut a drive off.

Segments of a path may lead back to the parent directory, but never past a drive.

## Main definitions

* `Url.parse`: the URL that a text stands for.
-/

namespace MailMerge.Url

open Text (splitAt)
open Decimal (digitsOf digitsValue isDigit)

/-! ### Cutting a text -/

/-- The text before and from the first character with a property. -/
def cut (stop : Char → Bool) (cs : List Char) : List Char × List Char :=
  (cs.takeWhile fun c => !stop c, cs.dropWhile fun c => !stop c)

/-- Characters that end an authority. -/
def endsAuthority (special : Bool) (c : Char) : Bool :=
  c = '/' || c = '?' || c = '#' || (special && c = '\\')

/-- True for the characters that separate segments. -/
def isSlash (special : Bool) (c : Char) : Bool := c = '/' || (special && c = '\\')

/-- Blanks and controls. -/
def isBlank (c : Char) : Bool := c ≤ ' '

/-- A text without the blanks around it. -/
def trimmed (cs : List Char) : List Char :=
  ((cs.dropWhile isBlank).reverse.dropWhile isBlank).reverse

/-- The scheme in small letters, and the text behind the colon. -/
def splitScheme? (cs : List Char) : Option (List Char × List Char) :=
  match cs with
  | [] => none
  | c :: _ =>
    let scheme := cs.takeWhile fun c => c.isAlphanum || c = '+' || c = '-' || c = '.'
    match cs.drop scheme.length with
    | ':' :: rest => if c.isAlpha then some (scheme.map Char.toLower, rest) else none
    | _ => none

/-! ### Credentials, host and socket -/

/-- The text before and behind the last `@`. -/
def splitLastAt? (cs : List Char) : Option (List Char × List Char) :=
  match cs.reverse.dropWhile (· ≠ '@') with
  | [] => none
  | _ :: front => some (front.reverse, cs.drop (front.length + 1))

/-- A user name and a password in front of an `@`. -/
def Credentials.ofChars (cs : List Char) : Credentials :=
  let (user, password) := cut (· = ':') cs
  ⟨percentEncode inUserinfo user, percentEncode inUserinfo (password.drop 1)⟩

/-- Cuts a host off: a colon in brackets belongs to it. -/
def splitHost (brackets : Bool) : List Char → List Char × List Char
  | [] => ([], [])
  | c :: cs =>
    if c = ':' ∧ brackets = false then ([], c :: cs)
    else
      let brackets := if c = '[' then true else if c = ']' then false else brackets
      let (host, rest) := splitHost brackets cs
      (c :: host, rest)

/-- The number of a socket behind a colon. Nothing else may stand there. -/
def parseSocket (scheme : List Char) : List Char → Except UrlError (Option Nat)
  | ':' :: cs =>
    let (digits, rest) := cut (fun c => !isDigit c) cs
    let number := digitsValue (digitsOf digits)
    if 65535 < number then .error .invalidSocket
    else if rest.head?.all (· = '\\') then
      .ok (if digits.isEmpty || some number == usualSocket? scheme then none else some number)
    else .error .invalidSocket
  | _ => .ok none

/-- What stands behind two slashes: an authority, and the rest. -/
def parseAuthority (scheme : List Char) (cs : List Char) :
    Except UrlError (Authority × List Char) := do
  let special := isSpecial scheme
  let (text, rest) := cut (endsAuthority special) cs
  let (front, text) ← match splitLastAt? text with
    | none => .ok ([], text)
    | some ([], text) =>
      if text.isEmpty && !rest.isEmpty then .error .emptyHost else .ok ([], text)
    | some (front, text) => .ok (front, text)
  let credentials := Credentials.ofChars front
  let (hostText, behind) := splitHost false text
  if special && hostText.isEmpty then throw .emptyHost
  let host ← if special then parseHost hostText else parseOpaqueHost hostText
  if host.isEmpty && !behind.isEmpty then throw .emptyHost
  let socket ← parseSocket scheme behind
  if host.isEmpty && !credentials.write.isEmpty then throw .emptyHost
  let junk := behind.drop 1 |>.dropWhile isDigit
  return (⟨credentials, host, socket⟩, junk ++ rest)

/-! ### Paths -/

/-- True for a segment that names the current directory. -/
def isSingleDot (s : List Char) : Bool :=
  [".", "%2e"].contains (String.ofList (s.map Char.toLower))

/-- True for a segment that names the parent directory. -/
def isDoubleDot (s : List Char) : Bool :=
  ["..", "%2e.", ".%2e", "%2e%2e"].contains (String.ofList (s.map Char.toLower))

/-- A letter and a colon or a bar name a drive. -/
def isDrive : List Char → Bool
  | [c, ':'] | [c, '|'] => c.isAlpha
  | _ => false

/-- The path without its last segment; a drive stays. -/
def popSegment (segments : List (List Char)) : List (List Char) :=
  if (segments.getLast?).any isDrive then segments else segments.dropLast

/-- A path with one more segment. The drive of a file is written with a colon. -/
def pushSegment (file : Bool) (front : List (List Char)) (s : List Char) : List (List Char) :=
  if file && front.isEmpty && isDrive s then [s.take 1 ++ [':']] else front ++ [s]

/-- The path behind a segment, which may also name a directory. -/
def stepSegment (file : Bool) (front : List (List Char)) (s : List Char) : List (List Char) :=
  if isDoubleDot s then popSegment front
  else if isSingleDot s then front
  else pushSegment file front s

/-- A drive with a break behind it, and the text behind the break. -/
def splitDrive? (s : List Char) : Option (List Char × List Char) :=
  match s.dropWhile isBreak with
  | letter :: s =>
    match s.dropWhile isBreak with
    | ':' :: s =>
      let rest := s.dropWhile isBreak
      if letter.isAlpha && (s.head?).any isBreak && !rest.isEmpty then
        some ([letter, ':'], rest)
      else none
    | _ => none
  | [] => none

/-- Takes the drive of a file off the first segment: a break behind it counts as a slash. -/
def enterDrive (file : Bool) (front : List (List Char)) (s : List Char) :
    List (List Char) × List Char :=
  match splitDrive? s with
  | some (drive, rest) => if file && front.isEmpty then ([drive], rest) else (front, s)
  | none => (front, s)

/-- The path that segments lead to. A slash stays behind a directory if nothing follows. -/
def walkSegments (file : Bool) (front : List (List Char)) :
    List (List Char) → List (List Char)
  | [] => front
  | s :: rest =>
    let (front, s) := enterDrive file front s
    let s := percentEncode inPath (withoutBreaks s)
    let path := stepSegment file front s
    if rest.isEmpty then if isDoubleDot s || isSingleDot s then path ++ [[]] else path
    else walkSegments file path rest

/-- Splits a text into segments. -/
def splitSegments (special : Bool) (cs : List Char) : List (List Char) :=
  splitAt '/' (cs.map fun c => if isSlash special c then '/' else c)

/-- The path behind a leading slash. -/
def parseSegments (scheme : List Char) (cs : List Char) : List (List Char) :=
  walkSegments (isFile scheme) [] (splitSegments (isSpecial scheme) cs)

/-- A path without empty segments at the front. -/
def withoutEmptyFront (path : List (List Char)) : List (List Char) :=
  match path.dropWhile List.isEmpty with
  | [] => [[]]
  | path => path

/-- The path of a URL that has an authority. -/
def parsePath (scheme : List Char) (cs : List Char) : List (List Char) :=
  match cs with
  | [] => if isSpecial scheme then [[]] else []
  | c :: rest => parseSegments scheme (if isSlash (isSpecial scheme) c then rest else cs)

/-! ### URLs -/

/-- Path, query and fragment. -/
structure Parts where
  path : List Char
  query : Option (List Char)
  fragment : Option (List Char)

/-- Cuts query and fragment off. -/
def Parts.ofChars (scheme : List Char) (cs : List Char) : Parts :=
  let (front, fragment) := cut (· = '#') cs
  let (path, query) := cut (· = '?') front
  let part (encoded : UInt8 → Bool) : List Char → Option (List Char)
    | [] => none
    | _ :: text => some (percentEncode encoded (withoutBreaks text))
  ⟨path, part (inQuery (isSpecial scheme)) query, part inFragment fragment⟩

/-- A URL with an authority behind two slashes. -/
def parseWithAuthority (scheme : List Char) (cs : List Char) : Except UrlError Url := do
  let (authority, rest) ← parseAuthority scheme cs
  let parts := Parts.ofChars scheme rest
  return ⟨scheme, some authority, .segments (parsePath scheme parts.path), parts.query,
    parts.fragment⟩

/-- A URL without an authority. -/
def parseWithoutAuthority (scheme : List Char) (cs : List Char) : Url :=
  let parts := Parts.ofChars scheme cs
  match parts.path with
  | '/' :: path =>
    ⟨scheme, none, .segments (parseSegments scheme path), parts.query, parts.fragment⟩
  | path => ⟨scheme, none, .text (percentEncode isControl path), parts.query, parts.fragment⟩

/-- The host of a file and the text behind it. This machine and a drive are no hosts. -/
def parseFileHost (cs : List Char) : Except UrlError (Option (List Char) × List Char) :=
  let (text, rest) := cut (endsAuthority true) cs
  let text := withoutBreaks text
  if text.isEmpty || isDrive text then .ok (none, cs)
  else (parseHost text).map fun host =>
    (if host = "localhost".toList then none else some host, rest)

/-- A file on a host, unless its path starts with a drive: then it is on this machine. -/
def fileUrl (scheme : List Char) (host : List Char) (path : List (List Char)) (parts : Parts) :
    Url :=
  let host := if (path.head?).any isDrive then [] else host
  ⟨scheme, some ⟨⟨[], []⟩, host, none⟩, .segments (withoutEmptyFront path), parts.query,
    parts.fragment⟩

/-- What stands behind two slashes at the front of a text. -/
def behindSlashes? (cs : List Char) : Option (List Char) :=
  match cs.dropWhile isBreak with
  | a :: cs =>
    match cs.dropWhile isBreak with
    | b :: cs => if isSlash true a && isSlash true b then some cs else none
    | [] => none
  | [] => none

/-- A URL of a file. Behind two slashes and no host everything is the path, the third slash
included; elsewhere a slash in front of the path stands for the root. -/
def parseFile (scheme : List Char) (cs : List Char) : Except UrlError Url :=
  let rooted (host rest : List Char) : Url :=
    let parts := Parts.ofChars scheme rest
    fileUrl scheme host (parsePath scheme parts.path) parts
  match behindSlashes? cs with
  | some behind =>
    (parseFileHost behind).map fun
      | (some host, rest) => rooted host rest
      | (none, rest) =>
        let parts := Parts.ofChars scheme rest
        fileUrl scheme [] (parseSegments scheme parts.path) parts
  | none => .ok (rooted [] (cs.dropWhile isBreak))

/-- The URL that a text stands for. -/
def parse (text : String) : Except UrlError Url :=
  let text := trimmed text.toList
  match splitScheme? (withoutBreaks text) with
  | none => .error .noScheme
  | some (scheme, rest) =>
    if isFile scheme then parseFile scheme ((text.dropWhile (· ≠ ':')).drop 1)
    else if isSpecial scheme then
      parseWithAuthority scheme (rest.dropWhile (isSlash true))
    else
      match rest with
      | '/' :: '/' :: rest => parseWithAuthority scheme rest
      | rest => .ok (parseWithoutAuthority scheme rest)

end MailMerge.Url
