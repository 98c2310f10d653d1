/-
Requests and the responses to them.

A header is asked for without regard to the case of its name; of two headers of
one name the first counts.  Two headers mean something to the library.  One
declares what kind of content a body is.  The other names the site that a request
comes from, and the response says whether that site may read it: an origin of the
list is named again, and a star in the list lets every site read.
-/
import MfmRender.Json.Basic
import MfmRender.Text.Blank
import MfmRender.Text.Case

namespace MfmRender.Http

abbrev Headers := List (String × String)

namespace Headers

/-- The value of a header; `name` is in small letters. -/
def find? (headers : Headers) (name : String) : Option String :=
  (List.find? (fun h => h.1.toList.map Char.toLower == name.toList) headers).map Prod.snd

/-- The value of a header as it is understood: every byte of it is a character. -/
def characters (value : String) : List Char :=
  value.toUTF8.toList.map fun b => Char.ofNat b.toNat

end Headers

structure Request where
  method : String
  /-- The path, with what may follow it. -/
  target : String
  headers : Headers := []
  body : String := ""

structure Response where
  status : Nat
  headers : Headers := []
  /-- The content, if there is any. -/
  body : Option Json

/-! ### What kind of content a body is declared to be -/

namespace MediaType

open Text

/-- The type and subtype in the value of a header, in small letters, without parameters. -/
def parts (value : String) : List (List Char) :=
  splitWhere (· == '/') (lower (trim ((Headers.characters value).takeWhile (· != ';'))))

/-- The content is JSON, or of a kind that is built on it. -/
def isJson (value : String) : Bool :=
  match parts value with
  | [main, sub] =>
    main == "application".toList && (sub == "json".toList || "+json".toList.isSuffixOf sub)
  | _ => false

end MediaType

/-! ### Which sites may read a response -/

/-- The site that calls itself `origin` may read a response. -/
def mayRead (allowed : List String) (origin : String) : Bool :=
  allowed.contains "*" || allowed.any (·.toList == Headers.characters origin)

/-- The headers that tell the site `origin` whether it may read a response. -/
def originHeaders (allowed : List String) (origin : String) : Headers :=
  (if mayRead allowed origin then [("access-control-allow-origin", origin)] else []) ++
    [("access-control-allow-credentials", "true")]

/-- The response with the headers about its readers, if the request names its origin. -/
def Response.withOrigin (allowed : List String) (r : Request) (response : Response) : Response :=
  match r.headers.find? "origin" with
  | none => response
  | some origin =>
    { response with headers := response.headers ++ originHeaders allowed origin }

end MfmRender.Http
