/-
The addresses that rendered links point to.

An address is put together from texts of the document and, where a server of
one's own is configured, from its host.  Nothing here is fetched or checked.
Hashtags and queries are percent-encoded, so they cannot leave their slot; all
other parts stand as they are.  Every character has an encoding.  Half of a pair of
UTF-16 that stands alone is no character and would have none; the texts of a
document hold no such halves here.
-/
import MfmRender.Node.Basic
import MfmRender.Text.Case
import MfmRender.Text.Percent

namespace MfmRender.Link

open Text

/-- What follows `http:` or `https:`, in any case, at the front of an address. -/
def dropScheme? (cs : List Char) : Option (List Char) :=
  match dropFolded? "http".toList cs with
  | none => none
  | some rest => dropFolded? [':'] rest <|> dropFolded? "s:".toList rest

/-- An address that leads away: it begins with two slashes, or with a web scheme and them. -/
def isExternal (href : String) : Bool :=
  let cs := href.toList
  "//".toList.isPrefixOf ((dropScheme? cs).getD cs)

/-- A host that is not empty. -/
def host? (host : Option String) : Option String :=
  host.filter (· ≠ "")

/-- Hosts whose profiles are addressed by the bare user name. -/
def usernameHosts : List String :=
  ["github.com", "twitter.com"]

/-- The profile that a mention means: on its own host, else on the configured one, else on the
site that shows it. -/
def mention (m : Mention) (instanceHost : Option String) : String :=
  match host? m.host with
  | some host =>
    if usernameHosts.contains host then "https://" ++ host ++ "/" ++ m.username
    else "https://" ++ host ++ "/" ++ m.acct
  | none =>
    match host? instanceHost with
    | some host => "https://" ++ host ++ "/" ++ m.acct
    | none => "/" ++ m.acct

/-- The page of a hashtag. -/
def hashtag (tag : String) (instanceHost : Option String) : String :=
  let path := "/tags/" ++ String.ofList (Percent.encode tag.toList)
  match host? instanceHost with
  | some host => "https://" ++ host ++ path
  | none => path

/-- The page of a search engine that a query is put behind. -/
def searchPage : String := "https://www.google.com/search?q="

/-- The results of a query. -/
def search (query : String) : String :=
  searchPage ++ String.ofList (Percent.encodeQuery query.toList)

/-- The picture of a custom emoji. -/
def emoji (name host : String) : String :=
  "https://" ++ host ++ "/emoji/" ++ name ++ ".webp"

end MfmRender.Link
