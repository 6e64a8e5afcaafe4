import PromptBroker.Text.Markup

/-!
# Documentation pages

A fetched page is reduced to its text: scripts, styles, navigation and footers go
with their contents, other tags go alone, blanks are collapsed, and what is left
is cut to a fixed length.
-/

namespace PromptBroker.Page

/-- The elements that go with their contents. -/
def chrome : List String := ["script", "style", "nav", "footer"]

/-- How many characters of a page are kept. -/
def lengthLimit : Nat := 5000

/-- The text of a page. -/
def cleanChars (html : List Char) : List Char :=
  let body := chrome.foldl (fun cs name => Text.dropElements name.toList cs) html
  (Text.trimChars (Text.collapseBlanks (Text.replaceTags [' '] body))).take lengthLimit

/-- The text of a page. -/
def clean (html : String) : String :=
  String.ofList (cleanChars html.toList)

end PromptBroker.Page
